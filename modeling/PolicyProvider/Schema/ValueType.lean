import PolicyProvider.Value.Basic
import PolicyProvider.Text.Quoted
/-!
# ValueType — the types that attributes declare

`ValueType.accepts` says which values have a type. Null and unknown have every type; an object may lack members but
has none that its type does not name.
-/
namespace PolicyProvider

inductive ValueType where
  | string
  | number
  | bool
  | list (item : ValueType)
  | set (item : ValueType)
  | map (item : ValueType)
  | object (members : List (String × ValueType))
deriving Inhabited

namespace ValueType

mutual

/-- **Whether a value has a type.** -/
def accepts : ValueType → Value → Bool
  | _, .null => true
  | _, .unknown => true
  | .string, .string _ => true
  | .number, .number _ => true
  | .bool, .bool _ => true
  | .list item, .list items => items.all (accepts item)
  | .set item, .list items => items.all (accepts item)
  | .map item, .object members => members.all fun m => accepts item m.2
  | .object types, .object members => members.all fun m => acceptsMember types m.1 m.2
  | _, _ => false

/-- Whether a value has the type of the member with a name; no value does if there is no such member. -/
def acceptsMember : List (String × ValueType) → String → Value → Bool
  | [], _, _ => false
  | (k, type) :: rest, name, v => if k = name then accepts type v else acceptsMember rest name v

end

mutual

def text : ValueType → String
  | .string => "String"
  | .number => "Number"
  | .bool => "Bool"
  | .list item => "List(" ++ text item ++ ")"
  | .set item => "Set(" ++ text item ++ ")"
  | .map item => "Map(" ++ text item ++ ")"
  | .object members => "Object(\x7b" ++ ", ".intercalate (membersText members) ++ "\x7d)"

/-- The members of an object type, each a quoted name and a type. -/
def membersText : List (String × ValueType) → List String
  | [] => []
  | (k, type) :: rest => (quoted k ++ ": " ++ text type) :: membersText rest

end

end ValueType
end PolicyProvider
