import PolicyProvider.Member.Lifecycle
import PolicyProvider.Policy.CustomAttributeApi
/-!
# CustomAttributes — the custom attributes of context profiles as a collection

The collection is shared by all context profiles of a manager and is reached over the network. Pages and patches of the
global manager are converted from and to the local ones.
-/
namespace PolicyProvider
namespace CustomAttributes

def keys : List String := ["DOMAIN_NAME", "CUSTOM_URL"]

/-- What sets custom attributes apart from those the system brings. -/
def customSource : String := "CUSTOM"

def PageOf : Topology → Type
  | .localManager => LocalPolicy.ProfilePage
  | .globalManager => GlobalPolicy.ProfilePage

def PatchOf : Topology → Type
  | .localManager => LocalPolicy.CustomAttributes
  | .globalManager => GlobalPolicy.CustomAttributes

/-- The record that adds or removes one value of a key. -/
def record (key value : String) : LocalPolicy.CustomAttributes :=
  { datatype := some "STRING", key := some key, value := [value] }

/-- The patch of a topology for one value of a key. -/
def patchOf : (t : Topology) → (key value : String) → Except ConversionError (PatchOf t)
  | .localManager, key, value => .ok (record key value)
  | .globalManager, key, value => convert (β := GlobalPolicy.CustomAttributes) (record key value)

/-- What a local page shows. -/
def localView (p : LocalPolicy.ProfilePage) : PageView :=
  { resultCount := p.resultCount, cursor := p.cursor, lists := p.lists }

def viewOf : (t : Topology) → PageOf t → Except ConversionError PageView
  | .localManager, p => .ok (localView p)
  | .globalManager, p =>
    (convert (α := GlobalPolicy.ProfilePage) (β := LocalPolicy.ProfilePage) p).map localView

/-- **Custom attributes as a kind of members.** -/
def kind : MemberKind where
  name := "ContextProfileCustomAttribute"
  allowedKeys := keys
  source := customSource
  Page := PageOf
  Patch := PatchOf
  patch := patchOf
  view := viewOf

/-- A listing of members as a listing of custom attributes. -/
def attributeQuery (q : MemberQuery) : AttributeQuery :=
  { key := some q.key, source := some q.source, paging := q.paging }

variable {σ : Type}

def list (c : Client) (tr : Transport σ) : (t : Topology) → MemberQuery → σ → Except RemoteError (PageOf t) × σ
  | .localManager, q, s =>
    CustomAttributeApi.list (α := LocalPolicy.ProfilePage) c tr .localManager (attributeQuery q) s
  | .globalManager, q, s =>
    CustomAttributeApi.list (α := GlobalPolicy.ProfilePage) c tr .globalManager (attributeQuery q) s

def mutate (c : Client) (tr : Transport σ) : (t : Topology) → PatchAction → PatchOf t → σ → Except RemoteError Unit × σ
  | .localManager, action, p, s =>
    CustomAttributeApi.change (α := LocalPolicy.CustomAttributes) c tr .localManager action p s
  | .globalManager, action, p, s =>
    CustomAttributeApi.change (α := GlobalPolicy.CustomAttributes) c tr .globalManager action p s

/-- **The collection behind a client.** -/
def server (c : Client) (tr : Transport σ) : CollectionServer kind σ where
  list := list c tr
  mutate := mutate c tr

end CustomAttributes
end PolicyProvider
