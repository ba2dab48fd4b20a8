import PolicyProvider.Policy.Topology
import PolicyProvider.Manager.Client
/-!
# CustomAttributeApi — listing and changing custom attributes

One listing and one change, at the same place below the base of either manager; each manager has records of its own.
-/
namespace PolicyProvider
namespace CustomAttributeApi

variable {σ : Type}

def path (t : Topology) : String := customAttributesPath t.basePath

def actionParams (action : PatchAction) : QueryParams := ({} : QueryParams).add "action" action.word

/-- **Lists a page** from the manager of a topology, as a record of its kind. -/
def list {α : Type} [WrittenForm α] (c : Client) (tr : Transport σ) (t : Topology) (q : AttributeQuery) (s : σ) :
    Except RemoteError α × σ :=
  c.get tr WrittenForm.ofTree? (path t) q.params s

/-- **Adds or removes values** at the manager of a topology, given as a record of its kind. -/
def change {α : Type} [WrittenForm α] (c : Client) (tr : Transport σ) (t : Topology) (action : PatchAction)
    (attributes : α) (s : σ) : Except RemoteError Unit × σ :=
  c.post tr (path t) (actionParams action) (WrittenForm.toTree attributes) s

end CustomAttributeApi
end PolicyProvider
