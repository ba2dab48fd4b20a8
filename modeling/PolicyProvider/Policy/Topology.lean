import PolicyProvider.Json.Datum
import PolicyProvider.Policy.LocalPolicy
import PolicyProvider.Policy.GlobalPolicy
/-!
# Topology — one manager, or many under a global one

The local and the global manager serve records of the same shapes under types of their own. `convert` takes a record
from one to the other by way of its written form, and fails if the other side cannot hold it.
-/
namespace PolicyProvider

/-- The kind of deployment. -/
inductive Topology where
  | localManager
  | globalManager
deriving DecidableEq

namespace Topology

/-- The topology of a setting that asks for the global manager. -/
def ofGlobal (global : Bool) : Topology := if global then .globalManager else .localManager

/-- Whether several local managers stand behind the deployment. -/
def isFederated : Topology → Bool
  | .localManager => false
  | .globalManager => true

/-- Where policy objects are, below the address of the manager. -/
def basePath : Topology → String
  | .localManager => "/policy/api/v1/infra"
  | .globalManager => "/global-manager/api/v1/global-infra"

end Topology

/-- A type with a written form. -/
class WrittenForm (α : Type) where
  /-- The word for the type in messages. -/
  shape : String
  toTree : α → Json.Tree
  ofTree? : Json.Tree → Option α

/-- A record that the other side cannot hold. -/
structure ConversionError where
  source : String
  target : String
  reason : String
deriving DecidableEq

def ConversionError.message (e : ConversionError) : String :=
  "Failed to convert " ++ e.source ++ " to " ++ e.target ++ ": " ++ e.reason

/-- **A record of one side as one of the other**, by way of its written form. -/
def convert {α β : Type} [WrittenForm α] [WrittenForm β] (a : α) : Except ConversionError β :=
  match WrittenForm.ofTree? (WrittenForm.toTree a) with
  | some b => .ok b
  | none => .error ⟨WrittenForm.shape α, WrittenForm.shape β, "the target cannot hold the source"⟩

instance : WrittenForm Json.Datum := ⟨"document", Json.Datum.toTree, Json.Datum.ofTree?⟩

instance : WrittenForm LocalPolicy.CustomAttributes :=
  ⟨"local custom attributes", LocalPolicy.CustomAttributes.toTree, LocalPolicy.CustomAttributes.ofTree?⟩

instance : WrittenForm LocalPolicy.SubAttributes :=
  ⟨"local sub-attributes", LocalPolicy.SubAttributes.toTree, LocalPolicy.SubAttributes.ofTree?⟩

instance : WrittenForm LocalPolicy.Attributes :=
  ⟨"local attributes", LocalPolicy.Attributes.toTree, LocalPolicy.Attributes.ofTree?⟩

instance : WrittenForm LocalPolicy.ContextProfile :=
  ⟨"local context profile", LocalPolicy.ContextProfile.toTree, LocalPolicy.ContextProfile.ofTree?⟩

instance : WrittenForm LocalPolicy.ProfilePage :=
  ⟨"local page of context profiles", LocalPolicy.ProfilePage.toTree, LocalPolicy.ProfilePage.ofTree?⟩

instance : WrittenForm GlobalPolicy.CustomAttributes :=
  ⟨"global custom attributes", GlobalPolicy.CustomAttributes.toTree, GlobalPolicy.CustomAttributes.ofTree?⟩

instance : WrittenForm GlobalPolicy.SubAttributes :=
  ⟨"global sub-attributes", GlobalPolicy.SubAttributes.toTree, GlobalPolicy.SubAttributes.ofTree?⟩

instance : WrittenForm GlobalPolicy.Attributes :=
  ⟨"global attributes", GlobalPolicy.Attributes.toTree, GlobalPolicy.Attributes.ofTree?⟩

instance : WrittenForm GlobalPolicy.ContextProfile :=
  ⟨"global context profile", GlobalPolicy.ContextProfile.toTree, GlobalPolicy.ContextProfile.ofTree?⟩

instance : WrittenForm GlobalPolicy.ProfilePage :=
  ⟨"global page of context profiles", GlobalPolicy.ProfilePage.toTree, GlobalPolicy.ProfilePage.ofTree?⟩

end PolicyProvider
