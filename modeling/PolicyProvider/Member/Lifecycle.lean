import PolicyProvider.Member.Program
/-!
# Lifecycle — creating, reading and deleting members

Each operation checks its arguments before it calls the collection. A member is created by adding it and reading it
back; deleting one that is already gone changes nothing.
-/
namespace PolicyProvider

/-- What is known of a member. -/
inductive MemberState where
  | unknown
  | present
  | absent
  | destroyed
deriving DecidableEq

def MemberState.word : MemberState → String
  | .unknown => "unknown"
  | .present => "exists"
  | .absent => "absent"
  | .destroyed => "destroyed"

structure SubResource where
  id : MemberId
  state : MemberState := .unknown
deriving DecidableEq

def SubResource.toTree (r : SubResource) : Json.Tree :=
  Json.Record.write [("id", some (.ofString r.id.text)), ("state", some (.ofString r.state.word))]

namespace Lifecycle

variable (K : MemberKind) (t : Topology)

def validateKey (key : String) : Except MemberError Unit :=
  if key ∈ K.allowedKeys then .ok ()
  else .error (.validation "key" ("expected key to be one of " ++ quotedList K.allowedKeys ++ ", got " ++ key))

/-- The id that a text writes, with a key of the collection. -/
def decode (id : String) : Except MemberError MemberId := do
  let id ← (MemberId.parse id).mapError .malformedId
  validateKey K id.key
  pure id

/-- The id of a member under a key of the collection. -/
def encode (key member : String) : Except MemberError MemberId := do
  validateKey K key
  (MemberId.ofParts key member).mapError .malformedId

/-- A fresh scan for a member. -/
def scanFor (key member : String) : Scan := { topology := t, source := K.source, key, member }

/-- **Whether a member is in the collection.** -/
def find (key member : String) : MemberAction K Bool := .scan (scanFor K t key member)

def readId (id : MemberId) : MemberAction K SubResource := do
  if ← find K t id.key id.member then pure ⟨id, .present⟩
  else throw (.notFound K.name id.text)

/-- **Adds a member and reads it back.** -/
def create (key member : String) : MemberAction K SubResource := do
  let id ← MemberAction.ofExcept (encode K key member)
  let patch ← MemberAction.ofExcept ((K.patch t key member).mapError .conversion)
  MemberAction.mutate t .add patch (.create K.name member)
  readId K t id

/-- **Reads a member**; an absent one is an error. -/
def read (id : String) : MemberAction K SubResource := do
  readId K t (← MemberAction.ofExcept (decode K id))

/-- **Whether a member is present.** -/
def isPresent (id : String) : MemberAction K Bool := do
  let id ← MemberAction.ofExcept (decode K id)
  find K t id.key id.member

/-- **Removes a member that is present**; an absent one is left alone. -/
def delete (id : String) : MemberAction K SubResource := do
  let id ← MemberAction.ofExcept (decode K id)
  if ← find K t id.key id.member then
    let patch ← MemberAction.ofExcept ((K.patch t id.key id.member).mapError .conversion)
    MemberAction.mutate t .remove patch (.delete K.name id.member)
    pure ⟨id, .destroyed⟩
  else pure ⟨id, .absent⟩

/-- **Takes over a member that exists already.** -/
def adopt (id : String) : MemberAction K SubResource := read K t id

end Lifecycle
end PolicyProvider
