import PolicyProvider.Entries
import PolicyProvider.Number.Binary64
/-!
# Value — what configuration, plans and state are made of

A value is null, unknown until apply, a scalar, a list or an object. Objects are finite maps (`Entries`), so their
members have no order of their own. Numbers are compared as numbers: NaN differs from itself.
-/
namespace PolicyProvider

inductive Value where
  | null
  | unknown
  | bool (b : Bool)
  | number (n : Binary64)
  | string (s : String)
  | list (items : List Value)
  | object (members : List (String × Value))
deriving Inhabited

namespace Value

def empty : Value := .object []

def isNull : Value → Bool
  | .null => true
  | _ => false

def isUnknown : Value → Bool
  | .unknown => true
  | _ => false

/-- Known and not null. -/
def isSet : Value → Bool
  | .null => false
  | .unknown => false
  | _ => true

def string? : Value → Option String
  | .string s => some s
  | _ => none

def bool? : Value → Option Bool
  | .bool b => some b
  | _ => none

def number? : Value → Option Binary64
  | .number n => some n
  | _ => none

def list? : Value → Option (List Value)
  | .list items => some items
  | _ => none

def typeName : Value → String
  | .null => "null"
  | .unknown => "unknown"
  | .bool _ => "bool"
  | .number _ => "number"
  | .string _ => "string"
  | .list _ => "list"
  | .object _ => "map"

mutual

/-- **Equality of values**, with numbers compared as numbers. -/
def same : Value → Value → Bool
  | .null, .null => true
  | .unknown, .unknown => true
  | .bool a, .bool b => a == b
  | .number a, .number b => a.numEq b
  | .string a, .string b => a == b
  | .list xs, .list ys => sameItems xs ys
  | .object ms, .object ns => sameMembers ms ns
  | _, _ => false

/-- Equality of lists, item by item. -/
def sameItems : List Value → List Value → Bool
  | [], [] => true
  | x :: xs, y :: ys => same x y && sameItems xs ys
  | _, _ => false

/-- Equality of objects, member by member in the order of the names. -/
def sameMembers : List (String × Value) → List (String × Value) → Bool
  | [], [] => true
  | (j, x) :: ms, (k, y) :: ns => j == k && same x y && sameMembers ms ns
  | _, _ => false

end

end Value
end PolicyProvider
