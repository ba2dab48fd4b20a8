import PolicyProvider.Json.Datum
/-!
# Record — objects with known members

A record is written as an object, or as an array of its members in their declared order. Members that are not known are
passed over, whatever they hold; a known one may not be given twice. In the array form the members left out at the end
must be ones that may be missing altogether.
-/
namespace PolicyProvider
namespace Json

/-- A known member: its name, and whether an array may leave it out. -/
structure Member where
  name : String
  omissible : Bool

namespace Record

/-- The one member with a name: none, or the tree under it; nothing if there are two. -/
def pick? (members : List (String × Tree)) (name : String) : Option (Option Tree) :=
  match members.filter (fun m => m.1 == name) with
  | [] => some none
  | [m] => some (some m.2)
  | _ => none

/-- The members of an object with their names decoded. -/
def named? (members : List (List Piece × Tree)) : Option (List (String × Tree)) :=
  members.mapM fun m => (Piece.text? m.1).map fun k => (k, m.2)

/-- **The known members of a record**, in their declared order; one that is left out is none. -/
def read? (known : List Member) : Tree → Option (List (Option Tree))
  | .object members => do
    let named ← named? members
    known.mapM fun m => pick? named m.name
  | .array items =>
    if items.length ≤ known.length ∧ (known.drop items.length).all (·.omissible) then
      some (items.map some ++ (known.drop items.length).map fun _ => none)
    else none
  | _ => none

/-- A member that may be missing or null. -/
def optional? {α : Type} (read : Tree → Option α) : Option Tree → Option (Option α)
  | none => some none
  | some .null => some none
  | some t => (read t).map some

/-- A list that is empty when the member is missing; it may not be null. -/
def list? {α : Type} (read : Tree → Option (List α)) : Option Tree → Option (List α)
  | none => some []
  | some t => read t

/-- A list of things, each read from an item of an array. -/
def items? {α : Type} (read : Tree → Option α) (t : Tree) : Option (List α) :=
  t.items?.bind (·.mapM read)

/-- **The object of a record**, the members without a tree left out. -/
def write (members : List (String × Option Tree)) : Tree :=
  .object (members.filterMap fun m => m.2.map fun t => (Piece.ofString m.1, t))

def int (i : Int) : Tree := .number (Numeral.ofInt i)

end Record
end Json
end PolicyProvider
