import PolicyProvider.Entries
import PolicyProvider.Json.Reader
/-!
# Datum — what a JSON document means

A datum has its strings and numbers decoded and its objects as finite maps; a name given twice keeps its last value.
`Datum.ofTree?` reads a tree in full, and `Datum.toTree` writes a datum with ascending names.
-/
namespace PolicyProvider
namespace Json

/-- The meaning of a document. -/
inductive Datum where
  | null
  | bool (b : Bool)
  | number (n : Number)
  | string (s : String)
  | array (items : List Datum)
  | object (members : List (String × Datum))

/-- How many containers may be nested in one another where every part of a document is read. -/
def maxDepth : Nat := 127

namespace Datum

mutual

/-- The datum of a tree whose strings and numbers all have a meaning. -/
def ofTree? : Tree → Option Datum
  | .null => some .null
  | .bool b => some (.bool b)
  | .number n => n.value?.map .number
  | .string pieces => (Piece.text? pieces).map .string
  | .array items => (itemsOfTrees? items).map .array
  | .object members => (membersOfTrees? members).map fun ms => .object (Entries.ofList ms)

def itemsOfTrees? : List Tree → Option (List Datum)
  | [] => some []
  | t :: rest => do some ((← ofTree? t) :: (← itemsOfTrees? rest))

def membersOfTrees? : List (List Piece × Tree) → Option (List (String × Datum))
  | [] => some []
  | (key, t) :: rest => do some ((← Piece.text? key, ← ofTree? t) :: (← membersOfTrees? rest))

end

mutual

/-- **The tree of a datum**; a number that JSON cannot write becomes null. -/
def toTree : Datum → Tree
  | .null => .null
  | .bool b => .bool b
  | .number n => match Numeral.ofNumber? n with
    | some numeral => .number numeral
    | none => .null
  | .string s => Tree.ofString s
  | .array items => .array (itemsToTrees items)
  | .object members => .object (membersToTrees members)

def itemsToTrees : List Datum → List Tree
  | [] => []
  | d :: rest => toTree d :: itemsToTrees rest

def membersToTrees : List (String × Datum) → List (List Piece × Tree)
  | [] => []
  | (k, d) :: rest => (Piece.ofString k, toTree d) :: membersToTrees rest

end

/-- The datum of a tree within the depth limit. -/
def within? (t : Tree) : Option Datum :=
  if t.depth ≤ maxDepth then ofTree? t else none

/-- **The datum of a text**, if it is one document within the depth limit. -/
def parse? (text : List Char) : Option Datum := (Json.parse? text).bind within?

def text (d : Datum) : String := String.ofList d.toTree.written

end Datum
end Json
end PolicyProvider
