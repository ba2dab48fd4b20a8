import Mathlib.Data.List.Forall2
import PolicyProvider.Proofs.Member.CustomAttributes
/-!
# Transparency — the global manager answers as the local one does

An operation takes the same steps through either manager, as long as the replies are the same: its two programs are
twins (`Operation.twin`), and twins stay twins call by call (`Twin.step`).  So a session has the same results, and the
requests it sends differ in nothing but the base of their paths (`session_transparent`).
-/
namespace PolicyProvider

def MemberError.isConversion : MemberError → Bool
  | .conversion _ => true
  | .create _ _ cause | .delete _ _ cause => cause.isConversion
  | _ => false

namespace CustomAttributes

/-- An operation against prepared replies: how it ended, and the requests sent so far with its own behind. -/
def conduct (c : Client) (t : Topology) (op : Operation) (replies : List Reply) (sent : List Request) :
    Option (Except MemberError Answer) × List Request :=
  let r := (op.action kind t).run.run (server c Script.transport) (replies.length + 2) ⟨replies, sent⟩
  (r.1.result?, r.2.requests)

/-- **Operations one after the other, each against replies of its own**: how they ended, and all requests sent. -/
def session (c : Client) (t : Topology) : List (Operation × List Reply) → List Request →
    List (Option (Except MemberError Answer)) × List Request
  | [], sent => ([], sent)
  | (op, replies) :: ops, sent =>
    let r := conduct c t op replies sent
    let rest := session c t ops r.2
    (r.1 :: rest.1, rest.2)

/-- The same request to either manager: only the base of the path differs. -/
def Counterpart (c : Client) (here there : Request) : Prop :=
  there.method = here.method ∧ there.authorization = here.authorization ∧ there.body = here.body ∧
    ∃ rest, here.url = c.baseUrl ++ "/policy/api/v1/infra" ++ rest ∧
      there.url = c.baseUrl ++ "/global-manager/api/v1/global-infra" ++ rest

def Unconverted {α : Type} (r : Except MemberError α) : Prop := ∀ e, r = .error e → e.isConversion = false

variable {c : Client} {α : Type}

theorem url_eq (base : String) (query : QueryParams) : c.url (customAttributesPath base) query =
    c.baseUrl ++ base ++ ("/context-profiles/custom-attributes" ++ query.text) := by
  unfold Client.url customAttributesPath
  simp only [String.append_assoc]

theorem counterpart_list (q : MemberQuery) :
    Counterpart c (listRequest c .localManager q) (listRequest c .globalManager q) :=
  ⟨rfl, rfl, rfl, _, url_eq _ _, url_eq _ _⟩

theorem counterpart_change (action : PatchAction) {patch : kind.Patch .localManager}
    {patch' : kind.Patch .globalManager} (h : patchTree .globalManager patch' = patchTree .localManager patch) :
    Counterpart c (changeRequest c .localManager action patch) (changeRequest c .globalManager action patch') := by
  refine ⟨rfl, rfl, ?_, _, url_eq _ _, url_eq _ _⟩
  unfold changeRequest
  simp only
  rw [h]

/-! ## Twins -/

/-- **Programs that take the same steps**, the one through the local manager and the other through the global one. -/
inductive Twin : Program kind (Except MemberError α) → Program kind (Except MemberError α) → Prop
  | done {r : Except MemberError α} (h : Unconverted r) : Twin (.done r) (.done r)
  | scan {s : Scan} {next next' : Except MemberError Bool → Program kind (Except MemberError α)}
      (h : ∀ r, Unconverted r → Twin (next r) (next' r)) :
      Twin (.scan { s with topology := .localManager } next) (.scan { s with topology := .globalManager } next')
  | mutate {action : PatchAction} {patch : kind.Patch .localManager} {patch' : kind.Patch .globalManager}
      {next next' : Except RemoteError Unit → Program kind (Except MemberError α)}
      (hpatch : patchTree .globalManager patch' = patchTree .localManager patch) (h : ∀ r, Twin (next r) (next' r)) :
      Twin (.mutate .localManager action patch next) (.mutate .globalManager action patch' next')

structure Alike (c : Client) (s s' : Script) : Prop where
  replies : s'.replies = s.replies
  requests : List.Forall₂ (Counterpart c) s.requests s'.requests

theorem Alike.next {s s' : Script} (h : Alike c s s') {r r' : Request} (hr : Counterpart c r r') :
    Alike c ⟨s.replies.tail, s.requests ++ [r]⟩ ⟨s'.replies.tail, s'.requests ++ [r']⟩ :=
  ⟨congrArg List.tail h.replies, List.rel_append h.requests (.cons hr .nil)⟩

theorem read_topology (s : Scan) (t : Topology) (page : PageView) :
    ({ s with topology := t } : Scan).read page = match s.read page with
      | .settled present => .settled present
      | .further onward => .further { onward with topology := t } := by
  have hread := s.reading page
  generalize s.read page = verdict at hread ⊢
  cases hread with
  | empty hcount => exact Scan.Reading.read_eq (.empty hcount)
  | present hcount hlists => exact Scan.Reading.read_eq (.present hcount hlists)
  | last hcount hlists hnext => exact Scan.Reading.read_eq (.last hcount hlists hnext)
  | further hcount hlists hnext hnew => exact Scan.Reading.read_eq (.further hcount hlists hnext hnew)

theorem unconverted_ok (a : α) : Unconverted (.ok a : Except MemberError α) := fun _ h => nomatch h

theorem Twin.resumed {s : Scan} {next next' : Except MemberError Bool → Program kind (Except MemberError α)}
    (h : ∀ r, Unconverted r → Twin (next r) (next' r)) (m : Except String Response) :
    Twin (Program.resumed { s with topology := .localManager } next (listed (readPage .localManager) m))
      (Program.resumed { s with topology := .globalManager } next' (listed (readPage .globalManager) m)) := by
  have hhere := resumed_listed { s with topology := .localManager } next m
  have hthere := resumed_listed { s with topology := .globalManager } next' m
  rw [hhere, hthere]
  cases seen m with
  | error e =>
    simp only
    by_cases he : e.isNotFound = true
    · rw [if_pos he, if_pos he]
      exact h _ (unconverted_ok false)
    · rw [if_neg he, if_neg he]
      exact h _ fun e' he' => by cases he'; rfl
  | ok page =>
    simp only [read_topology]
    cases s.read page with
    | settled present => exact h _ (unconverted_ok present)
    | further onward => exact .scan h

/-- **Twins stay twins** when the same reply meets the call of either. -/
theorem Twin.step {p p' : Program kind (Except MemberError α)} (h : Twin p p') {s s' : Script} (hs : Alike c s s') :
    Twin (Program.step (server c Script.transport) p s).1 (Program.step (server c Script.transport) p' s').1 ∧
      Alike c (Program.step (server c Script.transport) p s).2 (Program.step (server c Script.transport) p' s').2 := by
  cases h with
  | done h => exact ⟨.done h, hs⟩
  | @scan scan next next' h =>
    rw [Program.step_scan, Program.step_scan, list_script, list_script, hs.replies]
    exact ⟨.resumed h _, hs.replies ▸ hs.next (counterpart_list _)⟩
  | @mutate action patch patch' next next' hpatch h =>
    unfold Program.step
    simp only [mutate_script, hs.replies]
    exact ⟨h _, hs.replies ▸ hs.next (counterpart_change action hpatch)⟩

theorem Twin.run {p p' : Program kind (Except MemberError α)} (h : Twin p p') {s s' : Script} (hs : Alike c s s')
    (calls : Nat) :
    Twin (p.run (server c Script.transport) calls s).1 (p'.run (server c Script.transport) calls s').1 ∧
      Alike c (p.run (server c Script.transport) calls s).2 (p'.run (server c Script.transport) calls s').2 := by
  induction calls generalizing p p' s s' with
  | zero => exact ⟨h, hs⟩
  | succ calls ih => exact ih (h.step hs).1 (h.step hs).2

/-! ## Operations through either manager -/

theorem unconverted_found {id : MemberId} {r : Except MemberError Bool} (h : Unconverted r) :
    Unconverted ((Lifecycle.found kind id r).map Answer.member) := by
  intro e he
  cases r with
  | error cause =>
    cases he
    exact h _ rfl
  | ok present =>
    cases present with
    | false =>
      cases he
      rfl
    | true => cases he

theorem unconverted_presence {r : Except MemberError Bool} (h : Unconverted r) :
    Unconverted (r.map Answer.presence) := by
  intro e he
  cases r with
  | error cause =>
    cases he
    exact h _ rfl
  | ok present => cases he

theorem unconverted_target (op : Operation) : Unconverted (op.target kind) := by
  intro e he
  rcases Operation.target_error he with ⟨field, text, rfl⟩ | ⟨cause, rfl⟩
  · rfl
  · rfl

theorem twin_lookup (id : MemberId) {f : Except MemberError Bool → Except MemberError α}
    (h : ∀ r, Unconverted r → Unconverted (f r)) :
    Twin (.scan (Lifecycle.scanFor kind .localManager id.key id.member) fun r => .done (f r))
      (.scan (Lifecycle.scanFor kind .globalManager id.key id.member) fun r => .done (f r)) :=
  @Twin.scan α (Lifecycle.scanFor kind .localManager id.key id.member) _ _ fun r hr => .done (h r hr)

theorem patches_eq (key member : String) : ∃ patch patch', kind.patch .localManager key member = .ok patch ∧
    kind.patch .globalManager key member = .ok patch' ∧
      patchTree .globalManager patch' = patchTree .localManager patch := by
  obtain ⟨patch, hpatch, htree⟩ := patch_eq_ok .localManager key member
  obtain ⟨patch', hpatch', htree'⟩ := patch_eq_ok .globalManager key member
  exact ⟨patch, patch', hpatch, hpatch', htree'.trans htree.symm⟩

theorem twin_delete {id : String} {mid : MemberId} (htarget : Lifecycle.decode kind id = .ok mid) :
    Twin ((Operation.delete id).action kind .localManager).run
      ((Operation.delete id).action kind .globalManager).run := by
  obtain ⟨patch, patch', hpatch, hpatch', hsame⟩ := patches_eq mid.key mid.member
  rw [Operation.run_delete, Operation.run_delete, htarget]
  refine @Twin.scan _ (Lifecycle.scanFor kind .localManager mid.key mid.member) _ _ fun r hr => ?_
  cases r with
  | error e =>
    refine .done fun e' he => ?_
    cases he
    exact hr e rfl
  | ok present =>
    cases present with
    | false => exact .done (unconverted_ok _)
    | true =>
      simp only [hpatch, hpatch']
      refine .mutate hsame fun r => ?_
      cases r with
      | error e => exact .done fun e' he => by cases he; rfl
      | ok u => exact .done (unconverted_ok _)

theorem twin_create {key member : String} {mid : MemberId} (htarget : Lifecycle.encode kind key member = .ok mid) :
    Twin ((Operation.create key member).action kind .localManager).run
      ((Operation.create key member).action kind .globalManager).run := by
  obtain ⟨patch, patch', hpatch, hpatch', hsame⟩ := patches_eq key member
  rw [Operation.run_create, Operation.run_create, htarget]
  obtain ⟨rfl, rfl⟩ := Lifecycle.encode_eq_ok htarget
  simp only [hpatch, hpatch']
  refine .mutate hsame fun r => ?_
  cases r with
  | error e => exact .done fun e' he => by cases he; rfl
  | ok u => exact twin_lookup mid fun r hr => unconverted_found hr

/-- **An operation takes the same steps through either manager.** -/
theorem twin_operation (op : Operation) :
    Twin (op.action kind .localManager).run (op.action kind .globalManager).run := by
  cases htarget : op.target kind with
  | error e =>
    rw [Operation.run_refused kind _ htarget, Operation.run_refused kind _ htarget]
    refine .done fun e' he => ?_
    cases he
    exact unconverted_target op e htarget
  | ok mid =>
    cases op with
    | read id =>
      change Lifecycle.decode kind id = .ok mid at htarget
      rw [Operation.run_read, Operation.run_read, htarget]
      exact twin_lookup mid fun r hr => unconverted_found hr
    | adopt id =>
      change Lifecycle.decode kind id = .ok mid at htarget
      rw [Operation.run_adopt, Operation.run_adopt, Operation.run_read, Operation.run_read, htarget]
      exact twin_lookup mid fun r hr => unconverted_found hr
    | isPresent id =>
      change Lifecycle.decode kind id = .ok mid at htarget
      rw [Operation.run_isPresent, Operation.run_isPresent, htarget]
      exact twin_lookup mid fun r hr => unconverted_presence hr
    | delete id => exact twin_delete htarget
    | create key member => exact twin_create htarget

/-! ## Sessions through either manager -/

theorem conduct_twin (op : Operation) (replies : List Reply) {sent sent' : List Request}
    (hsent : List.Forall₂ (Counterpart c) sent sent') :
    ∃ answer, Unconverted answer ∧ (conduct c .localManager op replies sent).1 = some answer ∧
      (conduct c .globalManager op replies sent').1 = some answer ∧
      List.Forall₂ (Counterpart c) (conduct c .localManager op replies sent).2
        (conduct c .globalManager op replies sent').2 := by
  obtain ⟨log, answer, after, hrun, hle⟩ := @runs_within c _ _ _ (op.within kind .localManager) ⟨replies, sent⟩
  have halike : Alike c ⟨replies, sent⟩ ⟨replies, sent'⟩ := ⟨rfl, hsent⟩
  obtain ⟨htwin, hafter⟩ := (twin_operation op).run halike (replies.length + 2)
  rw [hrun.run_of_le hle] at htwin hafter
  unfold conduct
  rw [hrun.run_of_le hle]
  generalize ((op.action kind .globalManager).run.run (server c Script.transport) (replies.length + 2)
    ⟨replies, sent'⟩) = there at htwin hafter ⊢
  obtain ⟨left, after'⟩ := there
  cases htwin with
  | done h => exact ⟨answer, h, rfl, rfl, hafter.requests⟩

theorem session_twin (ops : List (Operation × List Reply)) {sent sent' : List Request}
    (hsent : List.Forall₂ (Counterpart c) sent sent') :
    ∃ answers : List (Except MemberError Answer),
      (session c .localManager ops sent).1 = answers.map some ∧
      (session c .globalManager ops sent').1 = answers.map some ∧
      List.Forall₂ (Counterpart c) (session c .localManager ops sent).2 (session c .globalManager ops sent').2 ∧
      ∀ answer ∈ answers, Unconverted answer := by
  induction ops generalizing sent sent' with
  | nil => exact ⟨[], rfl, rfl, hsent, fun _ h => absurd h List.not_mem_nil⟩
  | cons op ops ih =>
    obtain ⟨op, replies⟩ := op
    obtain ⟨answer, hanswer, hhere, hthere, hstep⟩ := conduct_twin op replies hsent
    obtain ⟨answers, hheres, htheres, hrest, hanswers⟩ := ih hstep
    refine ⟨answer :: answers, ?_, ?_, hrest, ?_⟩
    · unfold session
      simp only
      rw [hhere, hheres, List.map_cons]
    · unfold session
      simp only
      rw [hthere, htheres, List.map_cons]
    · intro a ha
      rcases List.mem_cons.1 ha with rfl | ha
      · exact hanswer
      · exact hanswers a ha

/-- **Operations have the same results through either manager**, for every session of them and whatever replies meet
their requests.  Every operation ends; through the global manager it sends the requests it sends through the local one,
in the same order, with the same queries and bodies, and only the base of their paths differs; and no operation ever
fails to convert a record. -/
theorem session_transparent (c : Client) (ops : List (Operation × List Reply)) :
    ∃ answers : List (Except MemberError Answer),
      (session c .localManager ops []).1 = answers.map some ∧ (session c .globalManager ops []).1 = answers.map some ∧
      List.Forall₂ (Counterpart c) (session c .localManager ops []).2 (session c .globalManager ops []).2 ∧
      ∀ answer ∈ answers, ∀ e, answer = .error e → e.isConversion = false :=
  session_twin ops .nil

end CustomAttributes
end PolicyProvider
