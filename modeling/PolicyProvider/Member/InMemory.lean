import PolicyProvider.Member.Lifecycle
/-!
# InMemory — a collection that is kept in memory

The members of each key are a list, pages are slices of it, and a cursor is the position where the next slice starts.
The collection can be told to answer with cursors that go round in a circle, and to fail in one of four ways; it keeps
what it was asked.
-/
namespace PolicyProvider
namespace InMemory

/-- A page as the local manager serves it: the members of one key. -/
structure Page where
  key : String
  members : List String
  resultCount : Option Int64
  cursor : Option String
deriving DecidableEq

/-- A page as the global manager serves it, whose count may be anything. -/
structure GlobalPage where
  key : String
  members : List String
  resultCount : Option Json.Datum
  cursor : Option String

structure Patch where
  key : String
  members : List String
deriving DecidableEq

def Patch.toTree (p : Patch) : Json.Tree :=
  Json.Record.write [("key", some (.ofString p.key)), ("value", some (.ofStrings p.members))]

/-- A count that the local page can hold. -/
def count? : Option Json.Datum → Option (Option Int64)
  | none => some none
  | some .null => some none
  | some (.number n) => n.toInt64?.map some
  | some _ => none

/-- The local page of a global one. -/
def localized (p : GlobalPage) : Except ConversionError Page :=
  match count? p.resultCount with
  | some n => .ok ⟨p.key, p.members, n, p.cursor⟩
  | none => .error ⟨"global page", "local page", "the count is not a whole number"⟩

def Page.view (p : Page) : PageView :=
  { resultCount := p.resultCount, cursor := p.cursor,
    lists := fun key member => p.key == key && p.members.any (· == member) }

def PageOf : Topology → Type
  | .localManager => Page
  | .globalManager => GlobalPage

def viewOf : (t : Topology) → PageOf t → Except ConversionError PageView
  | .localManager, p => .ok (Page.view p)
  | .globalManager, p => (localized p).map Page.view

/-- **The members that the collection holds.** -/
def kind : MemberKind where
  name := "ContextProfileCustomAttribute"
  allowedKeys := ["DOMAIN_NAME", "CUSTOM_URL"]
  source := "CUSTOM"
  Page := PageOf
  Patch := fun _ => Patch
  patch := fun _ key member => .ok ⟨key, [member]⟩
  view := viewOf

inductive Failure where
  | listNotFound
  | listUnavailable
  | mutateRejected
  | incompatibleGlobalPage
deriving DecidableEq

structure Mutation where
  key : String
  members : List String
  action : PatchAction
  topology : Topology
deriving DecidableEq

/-- **The collection**: how it answers, what it holds, and what it was asked. -/
structure Collection where
  pageSize : Option Nat := none
  cursorCycle : List String := []
  failure : Option Failure := none
  members : List (String × List String) := []
  queries : List MemberQuery := []
  mutations : List Mutation := []
  localCalls : Nat := 0
  globalCalls : Nat := 0
deriving DecidableEq

namespace Collection

def membersOf (c : Collection) (key : String) : List String := (Entries.get? key c.members).getD []

/-- The collection with members added one by one. -/
def withMembers (c : Collection) (entries : List (String × String)) : Collection :=
  entries.foldl (fun c e => { c with members := Entries.put e.1 (c.membersOf e.1 ++ [e.2]) c.members }) c

def counted (c : Collection) : Topology → Collection
  | .localManager => { c with localCalls := c.localCalls + 1 }
  | .globalManager => { c with globalCalls := c.globalCalls + 1 }

/-- The position that a cursor names. -/
def position? (cursor : String) : Option Nat := Digit.word? cursor

/-- Where the slice of a query starts. A cursor that names no position is past the end, and one of a circle names
none. -/
def offset (c : Collection) (total : Nat) : Option String → Nat
  | some cursor => if c.cursorCycle.isEmpty then (position? cursor).getD total else 0
  | none => 0

/-- The cursor of a circle after a given one: the next one round, or the first. -/
def nextInCycle (c : Collection) (cursor : Option String) : Option String :=
  let next := match cursor.bind fun x => c.cursorCycle.findIdx? (· == x) with
    | some i => (i + 1) % c.cursorCycle.length
    | none => 0
  c.cursorCycle[next]?

/-- **The page of a query.** -/
def page (c : Collection) (q : MemberQuery) : Page :=
  let values := c.membersOf q.key
  let total := values.length
  let offset := c.offset total q.paging.cursor
  let stop := min (offset + c.pageSize.getD (max total 1)) total
  { key := q.key
    members := (values.take stop).drop (min offset stop)
    resultCount := some (Int64.ofNat total)
    cursor :=
      if !c.cursorCycle.isEmpty then c.nextInCycle q.paging.cursor
      else if stop < total then some (toString stop) else none }

/-- The error that a listing is answered with, if listings fail. -/
def listError? (c : Collection) : Option RemoteError :=
  match c.failure with
  | some .listNotFound => some (.notFound "The requested object could not be found.")
  | some .listUnavailable => some .unavailable
  | _ => none

def served (c : Collection) (p : Page) : (t : Topology) → PageOf t
  | .localManager => p
  | .globalManager =>
    ({ key := p.key, members := p.members, cursor := p.cursor
       resultCount :=
         if c.failure = some .incompatibleGlobalPage then some (.string "many")
         else p.resultCount.map fun n => .number (.whole n.toInt) } : GlobalPage)

/-- **Answers a listing.** -/
def list (t : Topology) (q : MemberQuery) (c : Collection) : Except RemoteError (PageOf t) × Collection :=
  let after := { c.counted t with queries := c.queries ++ [q] }
  match c.listError? with
  | some e => (.error e, after)
  | none => (.ok (c.served (c.page q) t), after)

def changed (action : PatchAction) (held patch : List String) : List String :=
  patch.foldl (fun held m => match action with
    | .add => held ++ [m]
    | .remove => held.erase m) held

/-- **Answers a change.** -/
def mutate (t : Topology) (action : PatchAction) (p : Patch) (c : Collection) :
    Except RemoteError Unit × Collection :=
  let after := { c.counted t with mutations := c.mutations ++ [⟨p.key, p.members, action, t⟩] }
  if c.failure = some .mutateRejected then (.error (.refused 400 "Invalid value" none), after)
  else (.ok (), { after with members := Entries.put p.key (changed action (c.membersOf p.key) p.members) c.members })

def listCalls (c : Collection) : Nat := c.queries.length

def server : CollectionServer kind Collection where
  list := list
  mutate := mutate

/-- How many calls an operation on the collection may need: one for every cursor it can answer with, and one more to
start, to change, and to end. -/
def callBound (c : Collection) : Nat :=
  (c.members.map (·.2.length)).foldl max 0 + c.cursorCycle.length + 4

/-- **An operation carried out on the collection**, and what it left. -/
def perform {α : Type} (c : Collection) (p : MemberAction kind α) : Option (Except MemberError α) × Collection :=
  let (left, after) := p.run.run server c.callBound c
  (left.result?, after)

end Collection
end InMemory
end PolicyProvider
