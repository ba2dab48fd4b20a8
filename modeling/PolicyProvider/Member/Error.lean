import PolicyProvider.Member.Id
import PolicyProvider.Policy.Topology
import PolicyProvider.Manager.Response
/-!
# MemberError — why an operation on a member failed

A failure before anything was asked of the collection is a validation, id or conversion error; one that the collection
answered a listing with is passed on as it is; a refused change says which change it was.
-/
namespace PolicyProvider

/-- Why an operation on a member failed. -/
inductive MemberError where
  | validation (field text : String)
  | malformedId (e : IdError)
  | conversion (e : ConversionError)
  | notFound (kind id : String)
  | create (kind member : String) (cause : MemberError)
  | delete (kind member : String) (cause : MemberError)
  | remote (e : RemoteError)

namespace MemberError

def message : MemberError → String
  | .validation field text => "Invalid " ++ field ++ ": " ++ text
  | .malformedId e => e.message
  | .conversion e => e.message
  | .notFound kind id => kind ++ " " ++ id ++ " not found"
  | .create kind member cause => "Failed to create " ++ kind ++ " " ++ member ++ ": " ++ cause.message
  | .delete kind member cause => "Failed to delete " ++ kind ++ " " ++ member ++ ": " ++ cause.message
  | .remote e => e.message

/-- Whether the member is known to be absent. -/
def isNotFound : MemberError → Bool
  | .notFound _ _ => true
  | _ => false

end MemberError
end PolicyProvider
