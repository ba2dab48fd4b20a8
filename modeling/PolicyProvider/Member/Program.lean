import PolicyProvider.Member.Scan
/-!
# Program — operations as sequences of calls to a collection

A program is finished, or it wants to scan for a member or to change the collection, and goes on with the answer.
`Program.step` makes one call; a scan takes one for every page. A run of programs may thus be interleaved call by call.
-/
namespace PolicyProvider

/-- An operation that ends with an `α`. -/
inductive Program (K : MemberKind) (α : Type) where
  | done (a : α)
  | scan (s : Scan) (next : Except MemberError Bool → Program K α)
  | mutate (t : Topology) (action : PatchAction) (patch : K.Patch t) (next : Except RemoteError Unit → Program K α)

namespace Program

variable {K : MemberKind} {α β σ : Type}

def bind : Program K α → (α → Program K β) → Program K β
  | .done a, f => f a
  | .scan s next, f => .scan s fun r => bind (next r) f
  | .mutate t action patch next, f => .mutate t action patch fun r => bind (next r) f

def map (f : α → β) (p : Program K α) : Program K β := bind p fun a => .done (f a)

instance : Monad (Program K) where
  pure := .done
  bind := bind

def result? : Program K α → Option α
  | .done a => some a
  | _ => none

/-- **One call to the collection**; a finished program makes none. -/
def step (server : CollectionServer K σ) : Program K α → σ → Program K α × σ
  | .done a, st => (.done a, st)
  | .mutate t action patch next, st =>
    let (answer, st) := server.mutate t action patch st
    (next answer, st)
  | .scan s next, st =>
    let (answer, st) := server.list s.topology s.query st
    match s.answered K answer with
    | .error e => (next (.error e), st)
    | .ok (.settled present) => (next (.ok present), st)
    | .ok (.further s) => (.scan s next, st)

/-- **At most so many calls**; what is left of the program and the state of the collection. -/
def run (server : CollectionServer K σ) : Nat → Program K α → σ → Program K α × σ
  | 0, p, st => (p, st)
  | calls + 1, p, st =>
    let (p, st) := step server p st
    run server calls p st

end Program

/-- Programs that may fail with a member error. -/
abbrev MemberAction (K : MemberKind) := ExceptT MemberError (Program K)

namespace MemberAction

variable {K : MemberKind} {α : Type}

/-- An outcome that needs no call. -/
def ofExcept (r : Except MemberError α) : MemberAction K α := ExceptT.mk (.done r)

def scan (s : Scan) : MemberAction K Bool := ExceptT.mk (.scan s .done)

/-- A change, whose refusal becomes the given error. -/
def mutate (t : Topology) (action : PatchAction) (patch : K.Patch t) (refused : MemberError → MemberError) :
    MemberAction K Unit :=
  ExceptT.mk (.mutate t action patch fun r => .done (r.mapError fun e => refused (.remote e)))

end MemberAction
end PolicyProvider
