import PolicyProvider.Diagnostic
/-!
# Validator — checks on a configured value

The checks on strings pass every other value, and a schema may have checks of its own. None is asked about null or
unknown values.
-/
namespace PolicyProvider

/-- A check on the value of an attribute. -/
inductive Validator where
  /-- The string is one of a fixed list, letter case counting unless it is ignored. -/
  | oneOf (allowed : List String) (ignoreCase : Bool)
  /-- The string has between so many and so many characters. -/
  | lengthBetween (min max : Nat)
  /-- Any other check: what it says of itself, and the problems it has with a value at a path. A check only adds to
  what the checks before it found: it neither sees their problems nor takes any back. -/
  | other (description : String) (problems : Path → Value → List Diagnostic)

namespace Validator

/-- Whether two texts are the same but for the case of ASCII letters. -/
def sameIgnoringCase (a b : String) : Bool :=
  a.toList.map Char.toLower == b.toList.map Char.toLower

def isAllowed (allowed : List String) (ignoreCase : Bool) (s : String) : Bool :=
  allowed.any fun a => if ignoreCase then sameIgnoringCase a s else a == s

def description : Validator → String
  | .oneOf allowed _ => "value must be one of: " ++ quotedList allowed
  | .lengthBetween min max => "string length must be between " ++ toString min ++ " and " ++ toString max
  | .other description _ => description

/-- **The problems a check has with a value** at a path. -/
def check (path : Path) (v : Value) : Validator → List Diagnostic
  | .oneOf allowed ignoreCase =>
    match v.string? with
    | none => []
    | some s =>
      if isAllowed allowed ignoreCase s then []
      else [.errorAt path ("Invalid value for " ++ path.text)
        ("expected " ++ path.text ++ " to be one of " ++ quotedList allowed ++ ", got " ++ s)]
  | .lengthBetween min max =>
    match v.string? with
    | none => []
    | some s =>
      if min ≤ s.length ∧ s.length ≤ max then []
      else [.errorAt path ("Invalid length for " ++ path.text)
        ("expected length of " ++ path.text ++ " to be in the range (" ++ toString min ++ " - " ++ toString max
          ++ "), got " ++ toString s.length)]
  | .other _ problems => problems path v

end Validator
end PolicyProvider
