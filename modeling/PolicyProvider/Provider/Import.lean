import PolicyProvider.Diagnostic
/-!
# Import — taking existing objects over by their id

An import answers with the states of what it found. `passthrough` puts the id it was given at a path of an otherwise
empty state; a resource without import of its own refuses.
-/
namespace PolicyProvider

/-- What to import: a type of resource and an id. -/
structure ImportRequest where
  typeName : String
  id : String
deriving DecidableEq

structure ImportedResource where
  typeName : String
  state : Value

structure ImportResponse where
  imported : List ImportedResource := []
  diagnostics : List Diagnostic := []

namespace ImportResponse

/-- **Adds a state with the id at a path**, or the problem with that. -/
def passthrough (path : Path) (request : ImportRequest) (r : ImportResponse) : ImportResponse :=
  if request.id = "" then
    { r with diagnostics := r.diagnostics ++ [.errorAt path "Missing import ID" "An import ID must be supplied"] }
  else
    let update := Value.empty.set path (.string request.id)
    match update.error with
    | some e =>
      { r with diagnostics := r.diagnostics ++ [.errorAt path ("Failed to set import ID: " ++ e.message)
          ("Could not set attribute '" ++ path.text ++ "' to value '" ++ request.id ++ "'")] }
    | none => { r with imported := r.imported ++ [⟨request.typeName, update.value⟩] }

/-- The answer of a resource that cannot be imported. -/
def unsupported (request : ImportRequest) : ImportResponse :=
  { diagnostics := [.error "Resource import not supported" (request.typeName ++ " does not support import")] }

end ImportResponse
end PolicyProvider
