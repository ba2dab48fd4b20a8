import PolicyProvider.Value.Basic
import PolicyProvider.Text.Quoted
/-!
# Path — where a value lies inside another

A path is a list of steps: into a member of an object, by attribute name or by element key, or into a list by index.
`Value.get?` follows a path; `Value.set` puts a value at its end and makes the objects that are missing on the way.
-/
namespace PolicyProvider

inductive Step where
  | name (s : String)
  | key (s : String)
  | index (i : Int)
deriving DecidableEq

/-- The member of an object that a step goes into: an attribute name and an element key are the same to a value. -/
def Step.member? : Step → Option String
  | .name s => some s
  | .key s => some s
  | .index _ => none

/-- A path from the root of a value. -/
structure Path where
  steps : List Step
deriving DecidableEq

namespace Path

def root : Path := ⟨[]⟩

def ofName (s : String) : Path := ⟨[.name s]⟩

/-- A step as text; an attribute is set off by a dot unless it comes first. -/
def stepText (first : Bool) : Step → String
  | .name s => if first then s else "." ++ s
  | .key s => "[" ++ quoted s ++ "]"
  | .index i => "[" ++ toString i ++ "]"

/-- **A path as text**; the root is the empty text. -/
def text (p : Path) : String :=
  match p.steps with
  | [] => ""
  | step :: rest => stepText true step ++ String.join (rest.map (stepText false))

end Path

/-- Why a value could not be read or set. -/
inductive PathError where
  /-- Nothing lies at the path. -/
  | absent (path : Path)
  /-- The value at the path is of another type. -/
  | typeMismatch (expected actual : String)
  /-- The path leads through a list that is too short. -/
  | outOfBounds (index : Int) (length : Nat)
  /-- The path takes a step that the value there does not have. -/
  | invalid (path : Path)
deriving DecidableEq

def PathError.message : PathError → String
  | .absent path => "Attribute not found: " ++ path.text
  | .typeMismatch expected actual => "Type mismatch: expected " ++ expected ++ ", got " ++ actual
  | .outOfBounds index length =>
    "Invalid path: list index " ++ toString index ++ " out of bounds (" ++ toString length ++ ")"
  | .invalid path => "Invalid path: " ++ path.text

namespace Value

/-- The position of an index in a list, if it is not past the end. -/
def position? (length : Nat) (i : Int) : Option Nat :=
  if 0 ≤ i ∧ i < length then some i.toNat else none

def step? : Value → Step → Option Value
  | .object members, .name s => Entries.get? s members
  | .object members, .key s => Entries.get? s members
  | .list items, .index i => (position? items.length i).bind (items[·]?)
  | _, _ => none

/-- **The value at a path**, if there is one. -/
def get? (v : Value) (p : Path) : Option Value :=
  p.steps.foldlM step? v

/-- The value at a path of the type that `read` reads. -/
def getAs {α : Type} (expected : String) (read : Value → Option α) (v : Value) (p : Path) : Except PathError α :=
  match v.get? p with
  | none => .error (.absent p)
  | some w => match read w with
    | none => .error (.typeMismatch expected w.typeName)
    | some a => .ok a

def getString : Value → Path → Except PathError String := getAs "string" string?

def getBool : Value → Path → Except PathError Bool := getAs "bool" bool?

def getNumber : Value → Path → Except PathError Binary64 := getAs "number" number?

def getList : Value → Path → Except PathError (List Value) := getAs "list" list?

/-- What setting a value at a path led to: the value afterwards, and the error if the path's end was not reached.
Objects made before the error stay. -/
structure Update where
  value : Value
  error : Option PathError := none

/-- The member that a step on the way goes into: a list or an object as it is, an empty object for anything else. -/
def container : Option Value → Value
  | some (.object members) => .object members
  | some (.list items) => .list items
  | _ => empty

/-- Sets `w` at the end of the steps from `v`; `whole` is the path that errors name. -/
def setAt (whole : Path) (w : Value) : List Step → Value → Update
  | [], _ => ⟨w, none⟩
  | step :: rest, v =>
    match v, step.member?, step with
    | .object members, some name, _ =>
      let inner := setAt whole w rest (container (Entries.get? name members))
      ⟨.object (Entries.put name inner.value members), inner.error⟩
    | .list items, _, .index i =>
      match position? items.length i with
      | none => ⟨.list items, some (if rest.isEmpty then .invalid whole else .outOfBounds i items.length)⟩
      | some n =>
        let inner := setAt whole w rest (items[n]?.getD .null)
        ⟨.list (items.set n inner.value), inner.error⟩
    | v, _, _ => ⟨v, some (.invalid whole)⟩

/-- **Sets the value at a path.** A root that is no object gives way to an empty one unless the path is empty. -/
def set (v : Value) (p : Path) (w : Value) : Update :=
  match p.steps with
  | [] => ⟨w, none⟩
  | steps =>
    match v with
    | .object members => setAt p w steps (.object members)
    | _ => setAt p w steps empty

end Value
end PolicyProvider
