import PolicyProvider.Member.CustomAttributes
import PolicyProvider.Proofs.Member.Operation
/-!
# Script — runs against prepared replies

Each call of a run takes one reply of the script and leaves one request behind (`runs_script`).  When the script is used
up every call fails, so a program that gives up after so many failures ends (`runs_within`); every operation on a member
gives up after at most two (`Operation.within`).
-/
namespace PolicyProvider

open Program (Runs)

namespace Script

/-- What meets the next request. -/
def next : List Reply → Except String Response
  | [] => .ok exhausted
  | .answer r :: _ => .ok (delivered r)
  | .dropped :: _ => .error "connection closed before the answer"

theorem exchange_eq (request : Request) (s : Script) :
    transport.exchange request s = (next s.replies, ⟨s.replies.tail, s.requests ++ [request]⟩) := by
  obtain ⟨replies, requests⟩ := s
  rcases replies with _ | ⟨reply, rest⟩
  · rfl
  · cases reply <;> rfl

end Script

namespace CustomAttributes

def readPage : (t : Topology) → Json.Tree → Option (kind.Page t)
  | .localManager => LocalPolicy.ProfilePage.ofTree?
  | .globalManager => GlobalPolicy.ProfilePage.ofTree?

def patchTree : (t : Topology) → kind.Patch t → Json.Tree
  | .localManager => LocalPolicy.CustomAttributes.toTree
  | .globalManager => GlobalPolicy.CustomAttributes.toTree

def listed {α : Type} (read : Json.Tree → Option α) : Except String Response → Except RemoteError α
  | .ok r => r.content read
  | .error reason => .error (.transport reason)

def acknowledged : Except String Response → Except RemoteError Unit
  | .ok r => r.acknowledgement
  | .error reason => .error (.transport reason)

variable (c : Client)

def listRequest (t : Topology) (q : MemberQuery) : Request :=
  { method := .get, url := c.url (CustomAttributeApi.path t) (attributeQuery q).params,
    authorization := c.authorization }

def changeRequest (t : Topology) (action : PatchAction) (patch : kind.Patch t) : Request :=
  { method := .post, url := c.url (CustomAttributeApi.path t) (CustomAttributeApi.actionParams action)
    authorization := c.authorization, body := some (String.ofList (patchTree t patch).written) }

theorem list_script (t : Topology) (q : MemberQuery) (s : Script) :
    (server c Script.transport).list t q s =
      (listed (readPage t) (Script.next s.replies), ⟨s.replies.tail, s.requests ++ [listRequest c t q]⟩) := by
  have hget : ∀ {α : Type} (read : Json.Tree → Option α) (path : String) (query : QueryParams),
      c.get Script.transport read path query s = (listed read (Script.next s.replies), ⟨s.replies.tail, s.requests ++
        [{ method := .get, url := c.url path query, authorization := c.authorization }]⟩) := by
    intro α read path query
    unfold Client.get
    rw [Script.exchange_eq]
    cases Script.next s.replies <;> rfl
  cases t
  · exact hget _ _ _
  · exact hget _ _ _

theorem mutate_script (t : Topology) (action : PatchAction) (patch : kind.Patch t) (s : Script) :
    (server c Script.transport).mutate t action patch s =
      (acknowledged (Script.next s.replies), ⟨s.replies.tail, s.requests ++ [changeRequest c t action patch]⟩) := by
  have hpost : ∀ (path : String) (query : QueryParams) (body : Json.Tree),
      c.post Script.transport path query body s = (acknowledged (Script.next s.replies), ⟨s.replies.tail, s.requests ++
        [{ method := .post, url := c.url path query, authorization := c.authorization,
           body := some (String.ofList body.written) }]⟩) := by
    intro path query body
    unfold Client.post
    simp only [Script.exchange_eq]
    cases Script.next s.replies <;> rfl
  cases t
  · exact hpost _ _ _
  · exact hpost _ _ _

/-! ## What a run leaves of its script -/

def request : Call kind → Request
  | .listing t q _ => listRequest c t q
  | .change t action patch _ => changeRequest c t action patch

/-- That a call was answered by what met its request. -/
def Met (m : Except String Response) : Call kind → Prop
  | .listing t _ answer => answer = listed (readPage t) m
  | .change _ _ _ answer => answer = acknowledged m

/-- That calls took their replies off a script, in order, and left their requests. -/
structure Used (s s' : Script) (log : List (Call kind)) : Prop where
  replies : s'.replies = s.replies.drop log.length
  requests : s'.requests = s.requests ++ log.map (request c)
  met : ∀ i (hi : i < log.length), Met (Script.next (s.replies.drop i)) log[i]

variable {c} {α : Type}

theorem Used.cons {s s' : Script} {log : List (Call kind)} {call : Call kind} (hcall : Met (Script.next s.replies) call)
    (h : Used c ⟨s.replies.tail, s.requests ++ [request c call]⟩ s' log) : Used c s s' (call :: log) := by
  refine ⟨?_, ?_, fun i hi => ?_⟩
  · rw [h.replies, List.length_cons, List.drop_tail]
  · rw [h.requests, List.append_assoc]
    rfl
  · cases i with
    | zero => exact hcall
    | succ i =>
      have hrest := h.met i (Nat.lt_of_succ_lt_succ hi)
      rwa [List.drop_tail] at hrest

/-- **Each call of a run takes one reply and leaves one request behind.** -/
theorem runs_script {p : Program kind α} {s s' : Script} {log : List (Call kind)} {a : α}
    (h : Runs (server c Script.transport) p s log a s') : Used c s s' log := by
  induction h with
  | done a s => exact ⟨rfl, (List.append_nil _).symm, fun i hi => absurd hi (Nat.not_lt_zero i)⟩
  | scan rest ih =>
    rw [list_script] at ih ⊢
    exact ih.cons rfl
  | mutate rest ih =>
    rw [mutate_script] at ih ⊢
    exact ih.cons rfl

/-! ## Every run ends -/

end CustomAttributes

/-- A program that ends after at most so many failures. -/
inductive Program.Within {K : MemberKind} {α : Type} : Nat → Program K α → Prop
  | done (n : Nat) (a : α) : Within n (.done a)
  | scan {n : Nat} {s : Scan} {next : Except MemberError Bool → Program K α} (h : ∀ r, Within n (next r)) :
      Within (n + 1) (.scan s next)
  | mutate {n : Nat} {t : Topology} {action : PatchAction} {patch : K.Patch t}
      {next : Except RemoteError Unit → Program K α} (h : ∀ r, Within n (next r)) :
      Within (n + 1) (.mutate t action patch next)

theorem Program.Within.map {K : MemberKind} {α β : Type} {n : Nat} {p : Program K α} (h : p.Within n) (f : α → β) :
    (p.map f).Within n := by
  induction h with
  | done n a => exact .done n (f a)
  | scan _ ih => exact .scan ih
  | mutate _ ih => exact .mutate ih

theorem Program.Within.mono {K : MemberKind} {α : Type} {m n : Nat} {p : Program K α} (h : p.Within m) (hle : m ≤ n) :
    p.Within n := by
  induction h generalizing n with
  | done m a => exact .done n a
  | @scan m s next _ ih =>
    obtain ⟨k, rfl⟩ := Nat.exists_eq_add_of_le hle
    rw [Nat.add_right_comm]
    exact .scan fun r => ih r (Nat.le_add_right m k)
  | @mutate m t action patch next _ ih =>
    obtain ⟨k, rfl⟩ := Nat.exists_eq_add_of_le hle
    rw [Nat.add_right_comm]
    exact .mutate fun r => ih r (Nat.le_add_right m k)

namespace Lifecycle

variable (K : MemberKind) (t : Topology)

theorem within_read (id : String) : (read K t id).run.Within 1 := by
  rw [run_read]
  cases decode K id with
  | error e => exact .done 1 _
  | ok mid => exact .scan fun r => .done 0 _

theorem within_isPresent (id : String) : (isPresent K t id).run.Within 1 := by
  rw [run_isPresent]
  cases decode K id with
  | error e => exact .done 1 _
  | ok mid => exact .scan fun r => .done 0 _

theorem within_delete (id : String) : (delete K t id).run.Within 2 := by
  rw [run_delete]
  cases decode K id with
  | error e => exact .done 2 _
  | ok mid =>
    refine .scan fun r => ?_
    rcases r with e | _ | _
    · exact .done 1 _
    · exact .done 1 _
    · simp only
      cases K.patch t mid.key mid.member with
      | error e => exact .done 1 _
      | ok patch =>
        refine .mutate fun r => ?_
        cases r <;> exact .done 0 _

theorem within_create (key member : String) : (create K t key member).run.Within 2 := by
  rw [run_create]
  cases encode K key member with
  | error e => exact .done 2 _
  | ok mid =>
    simp only
    cases K.patch t key member with
    | error e => exact .done 2 _
    | ok patch =>
      refine .mutate fun r => ?_
      cases r with
      | error e => exact .done 1 _
      | ok u => exact .scan fun r => .done 0 _

end Lifecycle

theorem Operation.within (K : MemberKind) (t : Topology) (op : Operation) : (op.action K t).run.Within 2 := by
  cases op with
  | create key member => exact (Lifecycle.within_create K t key member).map _
  | read id => exact ((Lifecycle.within_read K t id).map _).mono (by decide)
  | isPresent id => exact ((Lifecycle.within_isPresent K t id).map _).mono (by decide)
  | delete id => exact (Lifecycle.within_delete K t id).map _
  | adopt id => exact ((Lifecycle.within_read K t id).map _).mono (by decide)

namespace CustomAttributes

variable {c : Client} {α : Type}

theorem listed_exhausted {β : Type} (read : Json.Tree → Option β) :
    ∃ e, listed read (Script.next []) = .error e ∧ e.isNotFound = false := ⟨_, rfl, rfl⟩

theorem answered_exhausted (s : Scan) :
    ∃ e, s.answered kind (listed (readPage s.topology) (Script.next [])) = .error e := by
  obtain ⟨e, h, hfound⟩ := listed_exhausted (readPage s.topology)
  rw [h]
  exact ⟨.remote e, by simp [Scan.answered, hfound]⟩

/-- A scan ends if what follows it does: a further listing takes a reply, and without one the scan fails. -/
theorem runs_within_scan {n : Nat} {next : Except MemberError Bool → Program kind α}
    (hnext : ∀ r s, ∃ log a s', Runs (server c Script.transport) (next r) s log a s' ∧
      log.length ≤ s.replies.length + n) (s : Scan) (replies : List Reply) (requests : List Request) :
    ∃ log a s', Runs (server c Script.transport) (.scan s next) ⟨replies, requests⟩ log a s' ∧
      log.length ≤ replies.length + (n + 1) := by
  induction replies generalizing s requests with
  | nil =>
    obtain ⟨e, he⟩ := answered_exhausted s
    obtain ⟨log, a, s', hrun, hle⟩ := hnext (.error e) ⟨[], requests ++ [listRequest c s.topology s.query]⟩
    refine ⟨_, a, s', Runs.scan_of (list_script c _ _ _) ?_, Nat.succ_le_succ hle⟩
    unfold Program.resumed
    rw [he]
    exact hrun
  | cons reply rest ih =>
    -- whatever the page says, one reply is used up
    have hrest : ∃ log a s', Runs (server c Script.transport)
        (Program.resumed s next (listed (readPage s.topology) (Script.next (reply :: rest))))
        ⟨rest, requests ++ [listRequest c s.topology s.query]⟩ log a s' ∧ log.length ≤ rest.length + (n + 1) := by
      unfold Program.resumed
      cases s.answered kind (listed (readPage s.topology) (Script.next (reply :: rest))) with
      | error e =>
        obtain ⟨log, a, s', hrun, hle⟩ := hnext (.error e) ⟨rest, requests ++ [listRequest c s.topology s.query]⟩
        exact ⟨log, a, s', hrun, Nat.le_succ_of_le hle⟩
      | ok verdict =>
        cases verdict with
        | settled present =>
          obtain ⟨log, a, s', hrun, hle⟩ := hnext (.ok present) ⟨rest, requests ++ [listRequest c s.topology s.query]⟩
          exact ⟨log, a, s', hrun, Nat.le_succ_of_le hle⟩
        | further onward => exact ih onward _
    obtain ⟨log, a, s', hrun, hle⟩ := hrest
    refine ⟨_, a, s', Runs.scan_of (list_script c _ _ _) hrun, ?_⟩
    rw [List.length_cons, List.length_cons]
    omega

/-- **Every run against a script ends**, with no more calls than there are replies and failures to give up after. -/
theorem runs_within {p : Program kind α} {n : Nat} (h : p.Within n) (s : Script) :
    ∃ log a s', Runs (server c Script.transport) p s log a s' ∧ log.length ≤ s.replies.length + n := by
  induction h generalizing s with
  | done n a => exact ⟨[], a, s, .done a s, Nat.zero_le _⟩
  | @scan n scan next _ ih => exact runs_within_scan ih scan s.replies s.requests
  | @mutate n t action patch next _ ih =>
    obtain ⟨log, a, s', hrun, hle⟩ :=
      ih (acknowledged (Script.next s.replies)) ⟨s.replies.tail, s.requests ++ [changeRequest c t action patch]⟩
    refine ⟨_, a, s', Runs.mutate_of (mutate_script c t action patch s) hrun, ?_⟩
    change log.length ≤ s.replies.tail.length + n at hle
    rw [List.length_tail] at hle
    rw [List.length_cons]
    omega

end CustomAttributes
end PolicyProvider
