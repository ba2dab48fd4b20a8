import PolicyProvider.Proofs.Member.CustomAttributes
import PolicyProvider.Proofs.Provider.Operation
/-!
# Absence — a member is reported absent on evidence alone

A listing tells that a member is absent if there is nothing at its address, if its page counts as empty, or if it is the
last page and does not list the member.  A reply that cannot be made sense of tells nothing: it ends a scan with a
remote error (`heard`, `concluded`).  So an operation that reports an absence had its last listing answered by a reply
that tells it (`absence_on_evidence`).
-/
namespace PolicyProvider

open Program (Runs)

namespace CustomAttributes

def pageIn (t : Topology) (bytes : List UInt8) : Option (kind.Page t) :=
  (Json.parse? (Utf8.decodeLossy bytes).toList).bind (readPage t)

/-- **That a response tells that a member is absent**: nothing is there, or there is a page that counts as empty, or one
that neither lists the member nor leads on to a cursor that was not asked for before. -/
def TellsAbsence (t : Topology) (asked : List String) (key member : String) (r : Response) : Prop :=
  ∃ bytes, r.body = .complete bytes ∧ (r.status = 404 ∨
    200 ≤ r.status ∧ r.status < 300 ∧ ∃ page view, pageIn t bytes = some page ∧ kind.view t page = .ok view ∧
      (view.resultCount = some 0 ∨
        ¬ Holds t page key member ∧ ∀ next, view.cursor = some next → next = "" ∨ next ∈ asked))

/-- **That what met a listing makes no sense**: no answer, one that broke off, a success that is no page, or a refusal
other than that nothing is there. -/
def Illegible (t : Topology) : Except String Response → Prop
  | .error _ => True
  | .ok r => match r.body with
    | .broken => True
    | .complete bytes => if 200 ≤ r.status ∧ r.status < 300 then pageIn t bytes = none else r.status ≠ 404

inductive Heard (t : Topology) : Except String Response → Except RemoteError PageView → Prop
  | illegible {m : Except String Response} {e : RemoteError} (h : Illegible t m) (he : e.isNotFound = false) :
      Heard t m (.error e)
  | missing {r : Response} {bytes : List UInt8} {e : RemoteError} (hbody : r.body = .complete bytes)
      (hstatus : r.status = 404) (he : e.isNotFound = true) : Heard t (.ok r) (.error e)
  | page {r : Response} {bytes : List UInt8} {page : kind.Page t} {view : PageView} (hbody : r.body = .complete bytes)
      (hstatus : 200 ≤ r.status ∧ r.status < 300) (hpage : pageIn t bytes = some page)
      (hview : kind.view t page = .ok view) : Heard t (.ok r) (.ok view)

theorem isNotFound_errorOf (status : Nat) (text : String) :
    (Response.errorOf status text).isNotFound = decide (status = 404) := by
  unfold Response.errorOf
  simp only
  by_cases h404 : status = 404
  · rw [if_pos h404, decide_eq_true h404]
    rfl
  · rw [if_neg h404, decide_eq_false h404]
    split
    · rfl
    · split
      · rfl
      · split <;> rfl

theorem isSuccess_iff (r : Response) : r.isSuccess = true ↔ 200 ≤ r.status ∧ r.status < 300 := by
  unfold Response.isSuccess
  rw [Bool.and_eq_true, decide_eq_true_eq, decide_eq_true_eq]

theorem pageIn_eq (t : Topology) (bytes : List UInt8) : pageIn t bytes =
    ((Json.parse? (Utf8.decodeLossy bytes).toList).bind LocalPolicy.ProfilePage.ofTree?).map (pageOf t) := by
  unfold pageIn
  rw [Option.map_bind]
  exact congrArg (Option.bind _) (funext (readPage_eq t))

/-- **What a scan sees is what there is to see.** -/
theorem heard (t : Topology) (m : Except String Response) : Heard t m (seen m) := by
  cases m with
  | error reason => exact .illegible trivial rfl
  | ok r =>
    have hseen : seen (.ok r) = (r.content LocalPolicy.ProfilePage.ofTree?).map localView := rfl
    rw [hseen]
    unfold Response.content Response.text?
    cases hbody : r.body with
    | broken =>
      refine .illegible ?_ rfl
      unfold Illegible
      simp only [hbody]
    | complete bytes =>
      simp only
      by_cases hstatus : r.isSuccess = true
      · have hrange := (isSuccess_iff r).1 hstatus
        have hpage := pageIn_eq t bytes
        rw [if_pos hstatus]
        cases hlocal : (Json.parse? (Utf8.decodeLossy bytes).toList).bind LocalPolicy.ProfilePage.ofTree? with
        | none =>
          rw [hlocal] at hpage
          refine .illegible ?_ rfl
          unfold Illegible
          simp only [hbody, if_pos hrange]
          exact hpage
        | some page =>
          rw [hlocal] at hpage
          exact .page hbody hrange hpage (view_pageOf t page)
      · have hrange := mt (isSuccess_iff r).2 hstatus
        rw [if_neg hstatus]
        have hfound := isNotFound_errorOf r.status (Utf8.decodeLossy bytes)
        by_cases h404 : r.status = 404
        · rw [decide_eq_true h404] at hfound
          exact .missing hbody h404 hfound
        · rw [decide_eq_false h404] at hfound
          refine .illegible ?_ hfound
          unfold Illegible
          simp only [hbody, if_neg hrange]
          exact h404

theorem not_illegible_of_missing {t : Topology} {r : Response} {bytes : List UInt8} (hbody : r.body = .complete bytes)
    (hstatus : r.status = 404) : ¬ Illegible t (.ok r) := by
  unfold Illegible
  simp only [hbody, hstatus]
  rw [if_neg (by decide)]
  exact fun h => h rfl

theorem not_illegible_of_page {t : Topology} {r : Response} {bytes : List UInt8} {page : kind.Page t}
    (hbody : r.body = .complete bytes) (hstatus : 200 ≤ r.status ∧ r.status < 300)
    (hpage : pageIn t bytes = some page) : ¬ Illegible t (.ok r) := by
  unfold Illegible
  simp only [hbody, if_pos hstatus, hpage]
  exact fun h => nomatch h

/-! ## A scan and what its listings told -/

def cursors (log : List (Call kind)) : List String :=
  log.filterMap fun
    | .listing _ q _ => q.paging.cursor
    | .change .. => none

/-- That the last call was a listing, whose reply tells that a member is absent.  A scan under way has followed cursors
before the first of the calls; an operation begins with none. -/
def Evidence (t : Topology) (followed : List String) (key member : String) (replies : List Reply)
    (log : List (Call kind)) : Prop :=
  ∃ pre t' q answer r, log = pre ++ [.listing t' q answer] ∧ Script.next (replies.drop pre.length) = .ok r ∧
    TellsAbsence t (cursors log ++ followed) key member r

/-- That a listing whose reply makes no sense is the last call, and something follows from it. -/
def Halts (t : Topology) (replies : List Reply) (log : List (Call kind)) (failed : Prop) : Prop :=
  ∀ i t' q answer, log[i]? = some (.listing t' q answer) → Illegible t (Script.next (replies.drop i)) →
    i + 1 = log.length ∧ failed

theorem TellsAbsence.mono {t : Topology} {asked more : List String} {key member : String} {r : Response}
    (h : TellsAbsence t asked key member r) (hmore : ∀ x ∈ asked, x ∈ more) : TellsAbsence t more key member r := by
  obtain ⟨bytes, hbody, h404 | ⟨hlow, hhigh, page, view, hpage, hview, hcount | ⟨hlists, hnext⟩⟩⟩ := h
  · exact ⟨bytes, hbody, .inl h404⟩
  · exact ⟨bytes, hbody, .inr ⟨hlow, hhigh, page, view, hpage, hview, .inl hcount⟩⟩
  · refine ⟨bytes, hbody, .inr ⟨hlow, hhigh, page, view, hpage, hview, .inr ⟨hlists, ?_⟩⟩⟩
    intro next hcursor
    exact (hnext next hcursor).imp_right (hmore next)

structure Concluded (s : Scan) (replies : List Reply) (log : List (Call kind)) (r : Except MemberError Bool) :
    Prop where
  asked : ∀ cursor, s.cursor = some cursor → cursor ∈ cursors log
  absent : r = .ok false → Evidence s.topology s.followed s.key s.member replies log
  halts : Halts s.topology replies log (∃ e, r = .error (.remote e))
  failed : ∀ e, r = .error e → ∃ cause, e = .remote cause ∧ cause.isNotFound = false

theorem asked_of_first (s : Scan) (answer : Except RemoteError (kind.Page s.topology)) (log : List (Call kind)) :
    ∀ cursor, s.cursor = some cursor → cursor ∈ cursors (.listing s.topology s.query answer :: log) := by
  intro cursor hcursor
  exact List.mem_filterMap.2 ⟨_, List.mem_cons_self .., hcursor⟩

theorem halts_of_single {t : Topology} {replies : List Reply} {call : Call kind} {failed : Prop}
    (h : Illegible t (Script.next replies) → failed) : Halts t replies [call] failed := by
  intro i t' q answer hi hbad
  cases i with
  | zero => exact ⟨rfl, h hbad⟩
  | succ i => cases hi

variable {c : Client}

theorem Concluded.further {s : Scan} {next : String} {replies : List Reply} {log : List (Call kind)}
    {r : Except MemberError Bool} (answer : Except RemoteError (kind.Page s.topology))
    (hlegible : ¬ Illegible s.topology (Script.next replies))
    (h : Concluded { s with cursor := some next, followed := next :: s.followed } replies.tail log r) :
    Concluded s replies (.listing s.topology s.query answer :: log) r := by
  refine ⟨asked_of_first s answer log, fun hr => ?_, ?_, h.failed⟩
  · obtain ⟨pre, t', q, last, response, hlog, hreply, htells⟩ := h.absent hr
    refine ⟨.listing s.topology s.query answer :: pre, t', q, last, response, ?_, ?_, ?_⟩
    · rw [hlog, List.cons_append]
    · rwa [List.drop_tail] at hreply
    · refine htells.mono fun x hx => ?_
      have hcursors : ∀ y ∈ cursors log, y ∈ cursors (.listing s.topology s.query answer :: log) := by
        intro y hy
        obtain ⟨call, hcall, hcursor⟩ := List.mem_filterMap.1 hy
        exact List.mem_filterMap.2 ⟨call, List.mem_cons_of_mem _ hcall, hcursor⟩
      rcases List.mem_append.1 hx with hx | hx
      · exact List.mem_append_left _ (hcursors x hx)
      · rcases List.mem_cons.1 hx with rfl | hx
        · exact List.mem_append_left _ (hcursors x (h.asked x rfl))
        · exact List.mem_append_right _ hx
  · intro i t' q last hi hbad
    cases i with
    | zero => exact absurd hbad hlegible
    | succ i =>
      rw [← List.drop_tail] at hbad
      obtain ⟨hlast, hfailed⟩ := h.halts i t' q last hi hbad
      exact ⟨by rw [List.length_cons, hlast], hfailed⟩

theorem Concluded.settled {s : Scan} {replies : List Reply} {response : Response} {present : Bool}
    (answer : Except RemoteError (kind.Page s.topology)) (hreply : Script.next replies = .ok response)
    (hlegible : ¬ Illegible s.topology (.ok response))
    (htells : present = false → TellsAbsence s.topology s.followed s.key s.member response) :
    Concluded s replies [.listing s.topology s.query answer] (.ok present) := by
  refine ⟨asked_of_first s answer [], fun hr => ?_, ?_, fun e he => nomatch he⟩
  · refine ⟨[], _, _, answer, response, rfl, hreply, ?_⟩
    exact (htells (Except.ok.inj hr)).mono fun x hx => List.mem_append_right _ hx
  · refine halts_of_single fun hbad => ?_
    rw [hreply] at hbad
    exact absurd hbad hlegible

theorem concluded {s : Scan} {st st' : Script} {log : List (Call kind)} {r : Except MemberError Bool}
    (h : Runs (server c Script.transport) (.scan s .done) st log r st') : Concluded s st.replies log r := by
  induction log generalizing s st with
  | nil =>
    obtain ⟨rest, hlog, -⟩ := Program.runs_scan_done.1 h
    cases hlog
  | cons call log ih =>
    obtain ⟨rest, hlog, hrest⟩ := Program.runs_scan_done.1 h
    rw [list_script] at hlog hrest
    obtain ⟨rfl, rfl⟩ := List.cons.inj hlog
    rw [answered_listed] at hrest
    have hheard := heard s.topology (Script.next st.replies)
    generalize hm : Script.next st.replies = m at hrest hheard ⊢
    generalize hseen : seen m = sight at hrest hheard
    cases hheard with
    | @illegible _ e hbad he =>
      rw [judged_failed s (ne_true_of_eq_false he)] at hrest
      obtain ⟨rfl, rfl, -⟩ := hrest
      refine ⟨asked_of_first s _ [], (fun hr => nomatch hr), halts_of_single fun _ => ⟨e, rfl⟩, fun e' he' => ?_⟩
      cases he'
      exact ⟨e, rfl, he⟩
    | @missing response bytes e hbody hstatus he =>
      rw [judged_missing s he] at hrest
      obtain ⟨rfl, rfl, -⟩ := hrest
      exact .settled _ hm (not_illegible_of_missing hbody hstatus) fun _ => ⟨bytes, hbody, .inl hstatus⟩
    | @page response bytes page view hbody hstatus hpage hview =>
      have hlegible := not_illegible_of_page hbody hstatus hpage
      have hread := s.reading view
      rw [judged_page] at hrest
      generalize s.read view = verdict at hread hrest
      cases hread with
      | empty hcount =>
        obtain ⟨rfl, rfl, -⟩ := hrest
        refine .settled _ hm hlegible fun _ => ?_
        exact ⟨bytes, hbody, .inr ⟨hstatus.1, hstatus.2, page, view, hpage, hview, .inl hcount⟩⟩
      | present hcount hlists =>
        obtain ⟨rfl, rfl, -⟩ := hrest
        exact .settled _ hm hlegible fun h => nomatch h
      | last hcount hlists hlast =>
        obtain ⟨rfl, rfl, -⟩ := hrest
        have hend : ∀ next, view.cursor = some next → next = "" ∨ next ∈ s.followed := fun next hcursor =>
          Decidable.or_iff_not_imp_left.2 fun hne => hlast next (PageView.next?_eq_some.2 ⟨hcursor, hne⟩)
        have hnone := mt (lists_view_iff hview s.key s.member).2 (Bool.eq_false_iff.1 hlists)
        refine .settled _ hm hlegible fun _ => ?_
        exact ⟨bytes, hbody, .inr ⟨hstatus.1, hstatus.2, page, view, hpage, hview, .inr ⟨hnone, hend⟩⟩⟩
      | further hcount hlists hnext hnew => exact .further _ (hm ▸ hlegible) (ih hrest)

/-! ## Operations -/

/-- That a result says that a member is absent. -/
def SaysAbsent : Except MemberError Answer → Prop
  | .ok (.presence present) => present = false
  | .ok (.member r) => r.state = .absent
  | .error (.notFound _ _) => True
  | .error _ => False

structure Warranted (t : Topology) (id : MemberId) (replies : List Reply) (log : List (Call kind))
    (answer : Except MemberError Answer) : Prop where
  absent : SaysAbsent answer → Evidence t [] id.key id.member replies log
  halts : Halts t replies log (∃ e, answer = .error (.remote e))
  failed : ∀ e, answer = .error (.remote e) → e.isNotFound = false

variable {t : Topology} {id : MemberId}

theorem warranted_lookup {answer : Bool → Except MemberError Answer} {replies : List Reply} {log : List (Call kind)}
    {r : Except MemberError Bool} (h : Concluded (Lifecycle.scanFor kind t id.key id.member) replies log r)
    (hpresent : ¬ SaysAbsent (answer true)) (hremote : ∀ present e, answer present ≠ .error (.remote e)) :
    Warranted t id replies log (r >>= answer) := by
  cases r with
  | error e =>
    obtain ⟨cause, rfl, hcause⟩ := h.failed e rfl
    refine ⟨False.elim, fun i t' q last hi hbad => ?_, fun e' he' => ?_⟩
    · exact ⟨(h.halts i t' q last hi hbad).1, cause, rfl⟩
    · cases he'
      exact hcause
  | ok present =>
    refine ⟨fun habsent => ?_, fun i t' q last hi hbad => ?_, fun e he => absurd he (hremote present e)⟩
    · cases present with
      | true => exact absurd habsent hpresent
      | false => exact h.absent rfl
    · obtain ⟨-, e, he⟩ := h.halts i t' q last hi hbad
      cases he

theorem runs_lookup {α : Type} {s : Scan} {f : Except MemberError Bool → α} {st st' : Script} {log : List (Call kind)}
    {a : α} (h : Runs (server c Script.transport) (.scan s fun r => .done (f r)) st log a st') :
    ∃ r, a = f r ∧ Concluded s st.replies log r := by
  obtain ⟨log₁, r, mid, log₂, hscan, hrest, rfl⟩ := Program.runs_scan.1 h
  obtain ⟨rfl, rfl, rfl⟩ := Program.runs_done.1 hrest
  rw [List.append_nil]
  exact ⟨r, rfl, concluded hscan⟩

theorem found_map (id : MemberId) (r : Except MemberError Bool) : (Lifecycle.found kind id r).map Answer.member =
    r >>= fun present => if present then .ok (.member ⟨id, .present⟩) else .error (.notFound kind.name id.text) := by
  rcases r with e | _ | _ <;> rfl

theorem warranted_found {replies : List Reply} {log : List (Call kind)} {r : Except MemberError Bool}
    (h : Concluded (Lifecycle.scanFor kind t id.key id.member) replies log r) :
    Warranted t id replies log ((Lifecycle.found kind id r).map Answer.member) := by
  rw [found_map]
  refine warranted_lookup h (fun habsent => nomatch habsent) fun present e => ?_
  cases present
  · exact fun he => nomatch he
  · exact fun he => nomatch he

theorem Warranted.after_change {replies : List Reply} {log : List (Call kind)} {answer : Except MemberError Answer}
    {t' : Topology} {action : PatchAction} {patch : kind.Patch t'} {ack : Except RemoteError Unit}
    (h : Warranted t id replies.tail log answer) :
    Warranted t id replies (.change t' action patch ack :: log) answer := by
  refine ⟨fun habsent => ?_, fun i t₁ q last hi hbad => ?_, h.failed⟩
  · obtain ⟨pre, t₁, q, last, response, rfl, hreply, htells⟩ := h.absent habsent
    refine ⟨.change t' action patch ack :: pre, t₁, q, last, response, rfl, ?_, htells⟩
    rwa [List.drop_tail] at hreply
  · cases i with
    | zero => cases hi
    | succ i =>
      rw [← List.drop_tail] at hbad
      obtain ⟨hlast, hfailed⟩ := h.halts i t₁ q last hi hbad
      exact ⟨by rw [List.length_cons, hlast], hfailed⟩

theorem warranted_of_change {replies : List Reply} {t' : Topology} {action : PatchAction} {patch : kind.Patch t'}
    {ack : Except RemoteError Unit} {answer : Except MemberError Answer} (habsent : ¬ SaysAbsent answer)
    (hremote : ∀ e, answer ≠ .error (.remote e)) :
    Warranted t id replies [.change t' action patch ack] answer := by
  refine ⟨fun h => absurd h habsent, fun i t₁ q last hi => ?_, fun e he => absurd he (hremote e)⟩
  cases i with
  | zero => cases hi
  | succ i => cases hi

theorem warranted_create {key member : String} {st st' : Script} {log : List (Call kind)}
    {answer : Except MemberError Answer} (htarget : Lifecycle.encode kind key member = .ok id)
    (h : Runs (server c Script.transport) ((Operation.create key member).action kind t).run st log answer st') :
    Warranted t id st.replies log answer := by
  obtain ⟨patch, hpatch, -⟩ := patch_eq_ok t key member
  rw [Operation.run_create, htarget] at h
  simp only [hpatch] at h
  obtain ⟨rest, hrest, rfl⟩ := Program.runs_mutate.1 h
  rw [mutate_script] at hrest ⊢
  generalize acknowledged (Script.next st.replies) = ack at hrest ⊢
  cases ack with
  | error e =>
    obtain ⟨rfl, rfl, -⟩ := Program.runs_done.1 hrest
    exact warranted_of_change (fun h => nomatch h) fun e' he => nomatch he
  | ok u =>
    obtain ⟨r, rfl, hconcluded⟩ := runs_lookup hrest
    exact (warranted_found hconcluded).after_change

theorem warranted_found_change {replies : List Reply} {log : List (Call kind)}
    (h : Concluded (Lifecycle.scanFor kind t id.key id.member) replies log (.ok true)) {t' : Topology}
    {action : PatchAction} {patch : kind.Patch t'} {ack : Except RemoteError Unit} {answer : Except MemberError Answer}
    (habsent : ¬ SaysAbsent answer) (hremote : ∀ e, answer ≠ .error (.remote e)) :
    Warranted t id replies (log ++ [.change t' action patch ack]) answer := by
  refine ⟨fun ha => absurd ha habsent, fun i t₁ q last hi hbad => ?_, fun e he => absurd he (hremote e)⟩
  rcases Nat.lt_or_ge i log.length with hlt | hge
  · rw [List.getElem?_append_left hlt] at hi
    obtain ⟨-, e, he⟩ := h.halts i t₁ q last hi hbad
    cases he
  · rw [List.getElem?_append_right hge] at hi
    cases hk : i - log.length with
    | zero =>
      rw [hk] at hi
      cases hi
    | succ k =>
      rw [hk] at hi
      cases hi

theorem warranted_delete {text : String} {st st' : Script} {log : List (Call kind)}
    {answer : Except MemberError Answer} (htarget : Lifecycle.decode kind text = .ok id)
    (h : Runs (server c Script.transport) ((Operation.delete text).action kind t).run st log answer st') :
    Warranted t id st.replies log answer := by
  rw [Operation.run_delete, htarget] at h
  obtain ⟨log₁, r, mid, log₂, hscan, hrest, rfl⟩ := Program.runs_scan.1 h
  have hconcluded := concluded hscan
  have hlookup := @warranted_lookup t id
    (fun present => .ok (.member ⟨id, if present then .destroyed else .absent⟩)) _ _ _ hconcluded
    (fun h => nomatch h) fun present e he => nomatch he
  cases r with
  | error e =>
    obtain ⟨rfl, rfl, -⟩ := Program.runs_done.1 hrest
    rw [List.append_nil]
    exact hlookup
  | ok present =>
    cases present with
    | false =>
      obtain ⟨rfl, rfl, -⟩ := Program.runs_done.1 hrest
      rw [List.append_nil]
      exact hlookup
    | true =>
      obtain ⟨patch, hpatch, -⟩ := patch_eq_ok t id.key id.member
      simp only [hpatch] at hrest
      obtain ⟨rest, hack, rfl⟩ := Program.runs_mutate.1 hrest
      generalize ((server c Script.transport).mutate t .remove patch mid) = acked at hack ⊢
      obtain ⟨ack, after⟩ := acked
      cases ack with
      | error e =>
        obtain ⟨rfl, rfl, -⟩ := Program.runs_done.1 hack
        exact warranted_found_change hconcluded (fun h => nomatch h) fun e' he => nomatch he
      | ok u =>
        obtain ⟨rfl, rfl, -⟩ := Program.runs_done.1 hack
        exact warranted_found_change hconcluded (fun h => nomatch h) fun e' he => nomatch he

/-- **What an operation on a member says rests on what its listings told.** -/
theorem warranted {op : Operation} {st st' : Script} {log : List (Call kind)} {answer : Except MemberError Answer}
    (htarget : op.target kind = .ok id)
    (h : Runs (server c Script.transport) (op.action kind t).run st log answer st') :
    Warranted t id st.replies log answer := by
  cases op with
  | create key member => exact warranted_create htarget h
  | delete text => exact warranted_delete htarget h
  | read text =>
    rw [Operation.run_read, show Lifecycle.decode kind text = .ok id from htarget] at h
    obtain ⟨r, rfl, hconcluded⟩ := runs_lookup h
    exact warranted_found hconcluded
  | adopt text =>
    rw [Operation.run_adopt, Operation.run_read, show Lifecycle.decode kind text = .ok id from htarget] at h
    obtain ⟨r, rfl, hconcluded⟩ := runs_lookup h
    exact warranted_found hconcluded
  | isPresent text =>
    rw [Operation.run_isPresent, show Lifecycle.decode kind text = .ok id from htarget] at h
    obtain ⟨r, rfl, hconcluded⟩ := runs_lookup h
    have hlookup := @warranted_lookup t id (fun present => .ok (.presence present)) _ _ _ hconcluded
      (fun h => nomatch h) fun present e he => nomatch he
    cases r <;> exact hlookup

theorem warranted_refused {op : Operation} {e : MemberError} (htarget : op.target kind = .error e) :
    ¬ SaysAbsent (.error e) ∧ ∀ cause, e ≠ .remote cause := by
  rcases Operation.target_error htarget with ⟨field, text, rfl⟩ | ⟨cause, rfl⟩
  · exact ⟨False.elim, fun cause he => nomatch he⟩
  · exact ⟨False.elim, fun cause he => nomatch he⟩

/-! ## The managed resource -/

theorem within_read (resource : CustomAttributeResource) (state : Value) : (resource.read state).Within 1 := by
  unfold CustomAttributeResource.read
  cases CustomAttributeResource.stateId? state with
  | none => exact .done 1 _
  | some text =>
    cases resource.access with
    | none => exact .done 1 _
    | some access => exact (Lifecycle.within_read kind access.topology text).map _

theorem gone_of_read {resource : CustomAttributeResource} {state : Value} {st st' : Script} {log : List (Call kind)}
    {response : ReadResponse} (h : Runs (server c Script.transport) (resource.read state) st log response st')
    (hgone : response.state = none) :
    ∃ access text answer, resource.access = some access ∧ CustomAttributeResource.stateId? state = some text ∧
      SaysAbsent answer ∧
      Runs (server c Script.transport) ((Operation.read text).action kind access.topology).run st log answer st' := by
  rcases CustomAttributeResource.runs_read h with ⟨d, -, rfl, -⟩ | ⟨access, text, result, haccess, hstate, hrun, rfl⟩
  · cases hgone
  · refine ⟨access, text, result.map Answer.member, haccess, hstate, ?_, Program.runs_map.2 ⟨result, hrun, rfl⟩⟩
    cases result with
    | ok member => cases hgone
    | error e =>
      unfold CustomAttributeResource.readBack at hgone
      by_cases he : e.isNotFound = true
      · cases e with
        | notFound kind id => trivial
        | _ => cases he
      · simp only [if_neg he] at hgone
        cases hgone

/-- **No member is reported absent without evidence**, whatever the script of replies, the manager and the arguments.
Every operation ends.  If it reports an absence, be it `false`, an error that the member is not found, or a deletion
that had nothing to delete, its last call was a listing whose reply tells that the member is absent; and so it is if a
managed resource is read and found gone.  A listing whose reply makes no sense is the last call and ends the operation
with a remote error; and none ever ends with a remote error that something is not found. -/
theorem absence_on_evidence (c : Client) (t : Topology) (script : Script) :
    (∀ op : Operation, ∃ log answer script',
      Runs (server c Script.transport) (op.action kind t).run script log answer script' ∧
      (SaysAbsent answer → ∃ id, op.target kind = .ok id ∧ Evidence t [] id.key id.member script.replies log) ∧
      Halts t script.replies log (∃ e, answer = .error (.remote e)) ∧
      ∀ e, answer = .error (.remote e) → e.isNotFound = false) ∧
    ∀ (resource : CustomAttributeResource) (state : Value), ∃ log response script',
      Runs (server c Script.transport) (resource.read state) script log response script' ∧
      (response.state = none → ∃ access text id, resource.access = some access ∧
        CustomAttributeResource.stateId? state = some text ∧ Lifecycle.decode kind text = .ok id ∧
        Evidence access.topology [] id.key id.member script.replies log) := by
  constructor
  · intro op
    obtain ⟨log, answer, script', hrun, -⟩ := @runs_within c _ _ _ (op.within kind t) script
    refine ⟨log, answer, script', hrun, ?_⟩
    cases htarget : op.target kind with
    | ok id =>
      have h := warranted htarget hrun
      exact ⟨fun habsent => ⟨id, rfl, h.absent habsent⟩, h.halts, h.failed⟩
    | error e =>
      rw [Operation.run_refused kind t htarget] at hrun
      obtain ⟨rfl, rfl, -⟩ := Program.runs_done.1 hrun
      obtain ⟨habsent, hremote⟩ := warranted_refused htarget
      refine ⟨fun h => absurd h habsent, fun i t' q last hi => (by cases hi), fun cause he => ?_⟩
      cases he
      exact absurd rfl (hremote cause)
  · intro resource state
    obtain ⟨log, response, script', hrun, -⟩ := @runs_within c _ _ _ (within_read resource state) script
    refine ⟨log, response, script', hrun, fun hgone => ?_⟩
    obtain ⟨access, text, answer, haccess, hstate, habsent, hread⟩ := gone_of_read hrun hgone
    cases htarget : (Operation.read text).target kind with
    | ok id => exact ⟨access, text, id, haccess, hstate, htarget, (warranted htarget hread).absent habsent⟩
    | error e =>
      rw [Operation.run_refused kind access.topology htarget] at hread
      obtain ⟨-, rfl, -⟩ := Program.runs_done.1 hread
      exact absurd habsent (warranted_refused htarget).1

end CustomAttributes
end PolicyProvider
