import PolicyProvider.Member.Error
import PolicyProvider.Manager.Query
/-!
# Collection — shared lists of members under keys

A collection can only be listed, page by page, and changed by adding or removing members of one key. It is reached
through the local or the global manager, each with pages and patches of its own types.
-/
namespace PolicyProvider

/-- Which members to list. -/
structure MemberQuery where
  key : String
  source : String
  paging : Paging := {}
deriving DecidableEq

/-- What a scan looks at on a page. -/
structure PageView where
  resultCount : Option Int64
  cursor : Option String
  /-- Whether the page lists a member under a key. -/
  lists : (key member : String) → Bool

/-- **A kind of members**: which keys there are, and what pages and patches look like on either side. -/
structure MemberKind where
  /-- The word for a member in messages. -/
  name : String
  allowedKeys : List String
  /-- What sets these members apart from others under the same keys. -/
  source : String
  Page : Topology → Type
  Patch : Topology → Type
  /-- The patch that adds or removes one member. -/
  patch : (t : Topology) → (key member : String) → Except ConversionError (Patch t)
  /-- What a page shows. -/
  view : (t : Topology) → Page t → Except ConversionError PageView

/-- **A collection in some state `σ`**: how it answers a listing and a change. -/
structure CollectionServer (K : MemberKind) (σ : Type) where
  list : (t : Topology) → MemberQuery → σ → Except RemoteError (K.Page t) × σ
  mutate : (t : Topology) → PatchAction → K.Patch t → σ → Except RemoteError Unit × σ

end PolicyProvider
