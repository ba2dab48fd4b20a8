import PolicyProvider.Proofs.Json.Text
import PolicyProvider.Proofs.Manager.Query
import PolicyProvider.Proofs.Member.Absence
import PolicyProvider.Proofs.Member.Transparency
/-!
# Discipline — the requests that operations send

A listing asks for the members of one key, the first of a scan from the start and each further one at the cursor of the
page before (`Scanned`).  A change carries one member of one key (`Changes`).  An operation that creates a member adds
it and then looks for it; one that deletes a member removes it only if the last page it saw had it; all others look and
change nothing (`Disciplined`).  What a request says is read off its address and its body, so it does not matter what
characters keys, members and cursors have.
-/
namespace PolicyProvider

open Program (Runs)

namespace CustomAttributes

/-! ## What requests say -/

/-- That a request goes to the custom attributes of a topology, with the parameters given. -/
def Addressed (c : Client) (t : Topology) (params : List (String × String)) (r : Request) : Prop :=
  ∃ query, r.url = c.baseUrl ++ t.basePath ++ "/context-profiles/custom-attributes" ++ query ∧
    QueryParams.read? query.toList = some ⟨params⟩

/-- **That a request lists the custom members of a key**, from a cursor on if there is one. -/
structure Lists (c : Client) (t : Topology) (key : String) (cursor : Option String) (r : Request) : Prop where
  method : r.method = .get
  body : r.body = none
  addressed : Addressed c t
    ([("attribute_key", key), ("attribute_source", "CUSTOM")] ++ cursor.toList.map fun x => ("cursor", x)) r

/-- **That a request adds or removes one member of a key**; either manager reads its body so. -/
structure Changes (c : Client) (t : Topology) (action : PatchAction) (key member : String) (r : Request) : Prop where
  method : r.method = .post
  addressed : Addressed c t [("action", action.word)] r
  body : ∃ text tree, r.body = some text ∧ Json.parse? text.toList = some tree ∧
    LocalPolicy.CustomAttributes.ofTree? tree = some { datatype := some "STRING", key := some key, value := [member] } ∧
    GlobalPolicy.CustomAttributes.ofTree? tree = some { datatype := some "STRING", key := some key, value := [member] }

def Accepted (m : Except String Response) : Prop := ∃ r, m = .ok r ∧ 200 ≤ r.status ∧ r.status < 300

/-- That what met a listing is a success with a page, which shows this. -/
def Serves (t : Topology) (m : Except String Response) (page : kind.Page t) (view : PageView) : Prop :=
  ∃ r bytes, m = .ok r ∧ r.body = .complete bytes ∧ (200 ≤ r.status ∧ r.status < 300) ∧
    pageIn t bytes = some page ∧ kind.view t page = .ok view

/-- That what met a listing is a page with a member under a key, and does not count as empty. -/
def Finds (t : Topology) (key member : String) (m : Except String Response) : Prop :=
  ∃ page view, Serves t m page view ∧ view.resultCount ≠ some 0 ∧ Holds t page key member

/-- **The requests of a scan**, from a cursor on: each further one asks for the cursor of the page before. -/
inductive Scanned (c : Client) (t : Topology) (key : String) : List Reply → Option String → List Request → Prop
  | last {replies : List Reply} {cursor : Option String} {r : Request} (h : Lists c t key cursor r) :
      Scanned c t key replies cursor [r]
  | further {replies : List Reply} {cursor : Option String} {r : Request} {gets : List Request} {page : kind.Page t}
      {view : PageView} {next : String} (h : Lists c t key cursor r)
      (hserves : Serves t (Script.next replies) page view) (hcursor : view.cursor = some next)
      (rest : Scanned c t key replies.tail (some next) gets) : Scanned c t key replies cursor (r :: gets)

/-- **The requests that an operation may send** when replies meet them: none if its arguments name no member.  A
creation adds the member first, and looks for it if that was accepted.  A deletion looks for the member, and removes it
if the last listing found it.  All others only look. -/
def Disciplined (c : Client) (t : Topology) (op : Operation) (replies : List Reply) (sent : List Request) : Prop :=
  ((∀ key member, ¬ op.Names kind key member) → sent = []) ∧
    ∀ key member, op.Names kind key member → match op with
      | .create _ _ => ∃ post gets, sent = post :: gets ∧ Changes c t .add key member post ∧
          (Accepted (Script.next replies) → Scanned c t key replies.tail none gets) ∧
          (¬ Accepted (Script.next replies) → gets = [])
      | .delete _ => ∃ gets posts, sent = gets ++ posts ∧ Scanned c t key replies none gets ∧
          (Finds t key member (Script.next (replies.drop (gets.length - 1))) →
            ∃ post, posts = [post] ∧ Changes c t .remove key member post) ∧
          (¬ Finds t key member (Script.next (replies.drop (gets.length - 1))) → posts = [])
      | .read _ | .isPresent _ | .adopt _ => Scanned c t key replies none sent

variable {c : Client} {t : Topology}

theorem addressed_url {params : List (String × String)} {r : Request}
    (hurl : r.url = c.url (CustomAttributeApi.path t) ⟨params⟩) (hplain : QueryParams.Plain ⟨params⟩) :
    Addressed c t params r := by
  refine ⟨QueryParams.text ⟨params⟩, ?_, QueryParams.read?_text hplain⟩
  rw [hurl]
  unfold CustomAttributeApi.path
  rw [url_eq, ← String.append_assoc]

theorem lists_listRequest (key : String) (cursor : Option String) :
    Lists c t key cursor (listRequest c t { key, source := customSource, paging := { cursor } }) := by
  have hplain := AttributeQuery.plain_params { key, source := customSource, paging := { cursor } }
  refine ⟨rfl, rfl, addressed_url ?_ ?_⟩
  · cases cursor <;> rfl
  · cases cursor <;> exact hplain

theorem legible_toTree (x : LocalPolicy.CustomAttributes) : x.toTree.Legible := by
  refine Json.Tree.legible_write fun m hm tree htree => ?_
  have htext : ∀ {s : Option String}, tree ∈ s.map Json.Tree.ofString → tree.Legible := fun h => by
    obtain ⟨text, -, rfl⟩ := Option.map_eq_some_iff.1 h
    exact Json.Tree.legible_ofString text
  simp only [List.mem_cons, List.not_mem_nil, or_false] at hm
  rcases hm with rfl | rfl | rfl | rfl | rfl | rfl
  · exact htext htree
  · exact htext htree
  · cases htree
    exact Json.Tree.legible_ofStrings _
  · exact htext htree
  · exact htext htree
  · obtain ⟨b, -, rfl⟩ := Option.map_eq_some_iff.1 htree
    exact Json.Tree.legible_bool b

theorem changes_changeRequest {action : PatchAction} {key member : String} {patch : kind.Patch t}
    (hpatch : patchTree t patch = (record key member).toTree) :
    Changes c t action key member (changeRequest c t action patch) := by
  refine ⟨rfl, addressed_url rfl ?_, _, (record key member).toTree, rfl, ?_, ?_, ?_⟩
  · intro p hp
    obtain rfl := List.mem_singleton.1 hp
    exact (by decide : '=' ∉ "action".toList ∧ '&' ∉ "action".toList)
  · rw [hpatch, String.toList_ofList]
    exact Json.Tree.parse?_written (legible_toTree _)
  · exact ofTree?_toTree (record key member)
  · rw [ofTree?_toGlobal, ofTree?_toTree]
    rfl

/-! ## What meets them -/

theorem acknowledged_eq_ok {m : Except String Response} : acknowledged m = .ok () ↔ Accepted m := by
  cases m with
  | error reason => exact ⟨(fun h => nomatch h), fun ⟨_, h, _⟩ => nomatch h⟩
  | ok r =>
    change r.acknowledgement = .ok () ↔ _
    unfold Response.acknowledgement
    by_cases hstatus : r.isSuccess = true
    · rw [if_pos hstatus]
      exact ⟨fun _ => ⟨r, rfl, (isSuccess_iff r).1 hstatus⟩, fun _ => rfl⟩
    · rw [if_neg hstatus]
      refine ⟨(fun h => nomatch h), ?_⟩
      rintro ⟨r', hr, hrange⟩
      cases hr
      exact absurd ((isSuccess_iff r).2 hrange) hstatus

/-- **The page that a scan sees is the one that is served.** -/
theorem serves_iff {m : Except String Response} {view : PageView} :
    (∃ page, Serves t m page view) ↔ seen m = .ok view := by
  have hheard := heard t m
  constructor
  · rintro ⟨page, r, bytes, rfl, hbody, hstatus, hpage, hview⟩
    generalize seen (.ok r) = sight at hheard
    cases hheard with
    | illegible hbad => exact absurd hbad (not_illegible_of_page hbody hstatus hpage)
    | missing hbody' h404 =>
      rw [h404] at hstatus
      exact absurd hstatus (by decide)
    | page hbody' hstatus' hpage' hview' =>
      obtain rfl := Body.complete.inj (hbody.symm.trans hbody')
      obtain rfl := Option.some.inj (hpage.symm.trans hpage')
      rw [Except.ok.inj (hview'.symm.trans hview)]
  · intro h
    rw [h] at hheard
    cases hheard with
    | page hbody hstatus hpage hview => exact ⟨_, _, _, rfl, hbody, hstatus, hpage, hview⟩

theorem Serves.lists_iff {m : Except String Response} {page : kind.Page t} {view : PageView} (h : Serves t m page view)
    (key member : String) : view.lists key member = true ↔ Holds t page key member := by
  obtain ⟨r, bytes, -, -, -, -, hview⟩ := h
  exact lists_view_iff hview key member

theorem finds_iff {key member : String} {m : Except String Response} : Finds t key member m ↔
    ∃ view, seen m = .ok view ∧ view.resultCount ≠ some 0 ∧ view.lists key member = true := by
  constructor
  · rintro ⟨page, view, hserves, hcount, hholds⟩
    exact ⟨view, serves_iff.1 ⟨page, hserves⟩, hcount, (hserves.lists_iff key member).2 hholds⟩
  · rintro ⟨view, hseen, hcount, hlists⟩
    obtain ⟨page, hserves⟩ := serves_iff.2 hseen
    exact ⟨page, view, hserves, hcount, (hserves.lists_iff key member).1 hlists⟩

/-! ## Scans -/

structure Searched (c : Client) (s : Scan) (replies : List Reply) (log : List (Call kind))
    (r : Except MemberError Bool) : Prop where
  scanned : Scanned c s.topology s.key replies s.cursor (log.map (request c))
  found : r = .ok true ↔ Finds s.topology s.key s.member (Script.next (replies.drop (log.length - 1)))

theorem lists_query {s : Scan} (hsource : s.source = customSource) :
    Lists c s.topology s.key s.cursor (listRequest c s.topology s.query) := by
  obtain ⟨t, source, key, member, cursor, followed⟩ := s
  subst hsource
  exact lists_listRequest key cursor

theorem searched_of_single {s : Scan} (hsource : s.source = customSource) {replies : List Reply}
    {r : Except MemberError Bool} (answer : Except RemoteError (kind.Page s.topology))
    (h : r = .ok true ↔ Finds s.topology s.key s.member (Script.next replies)) :
    Searched c s replies [.listing s.topology s.query answer] r :=
  ⟨.last (lists_query hsource), h⟩

theorem Searched.further {s : Scan} {next : String} {replies : List Reply} {log : List (Call kind)}
    {r : Except MemberError Bool} {page : kind.Page s.topology} {view : PageView}
    (h : Searched c { s with cursor := some next, followed := next :: s.followed } replies.tail log r)
    (hsource : s.source = customSource) (answer : Except RemoteError (kind.Page s.topology))
    (hserves : Serves s.topology (Script.next replies) page view) (hcursor : view.cursor = some next) :
    Searched c s replies (.listing s.topology s.query answer :: log) r := by
  refine ⟨.further (lists_query hsource) hserves hcursor h.scanned, ?_⟩
  cases log with
  | nil => cases h.scanned
  | cons call log =>
    rw [h.found, List.drop_tail]
    rfl

/-- **A scan sends listings alone**, each at the cursor of the page before, and the last one tells what it found. -/
theorem searched {s : Scan} (hsource : s.source = customSource) {st st' : Script} {log : List (Call kind)}
    {r : Except MemberError Bool} (h : Runs (server c Script.transport) (.scan s .done) st log r st') :
    Searched c s st.replies log r := by
  induction log generalizing s st with
  | nil =>
    obtain ⟨rest, hlog, -⟩ := Program.runs_scan_done.1 h
    cases hlog
  | cons call log ih =>
    obtain ⟨rest, hlog, hrest⟩ := Program.runs_scan_done.1 h
    rw [list_script] at hlog hrest
    obtain ⟨rfl, rfl⟩ := List.cons.inj hlog
    rw [answered_listed] at hrest
    cases hseen : seen (Script.next st.replies) with
    | error e =>
      -- no page, so nothing is found, and the scan ends
      have hnot : ¬ Finds s.topology s.key s.member (Script.next st.replies) := by
        rw [finds_iff, hseen]
        exact fun ⟨_, h, _⟩ => nomatch h
      rw [hseen] at hrest
      by_cases he : e.isNotFound = true
      · rw [judged_missing s he] at hrest
        obtain ⟨rfl, rfl, -⟩ := hrest
        exact searched_of_single hsource _ ⟨(fun h => nomatch h), fun h => absurd h hnot⟩
      · rw [judged_failed s he] at hrest
        obtain ⟨rfl, rfl, -⟩ := hrest
        exact searched_of_single hsource _ ⟨(fun h => nomatch h), fun h => absurd h hnot⟩
    | ok view =>
      have hfinds : Finds s.topology s.key s.member (Script.next st.replies) ↔
          view.resultCount ≠ some 0 ∧ view.lists s.key s.member = true := by
        rw [finds_iff, hseen]
        exact ⟨fun ⟨_, h, hview⟩ => Except.ok.inj h ▸ hview, fun hview => ⟨view, rfl, hview⟩⟩
      have hread := s.reading view
      rw [hseen] at hrest
      rw [judged_page] at hrest
      generalize s.read view = verdict at hread hrest
      cases hread with
      | empty hcount =>
        obtain ⟨rfl, rfl, -⟩ := hrest
        exact searched_of_single hsource _ ⟨(fun h => nomatch h), fun h => absurd hcount (hfinds.1 h).1⟩
      | present hcount hlists =>
        obtain ⟨rfl, rfl, -⟩ := hrest
        exact searched_of_single hsource _ ⟨fun _ => hfinds.2 ⟨hcount, hlists⟩, fun _ => rfl⟩
      | last hcount hlists hlast =>
        obtain ⟨rfl, rfl, -⟩ := hrest
        refine searched_of_single hsource _ ⟨(fun h => nomatch h), fun h => ?_⟩
        rw [(hfinds.1 h).2] at hlists
        cases hlists
      | @further next hcount hlists hnext hnew =>
        have hmore := @ih { s with cursor := some next, followed := next :: s.followed } hsource _ hrest
        obtain ⟨page, hserves⟩ := serves_iff.2 hseen
        exact hmore.further hsource _ hserves (PageView.next?_eq_some.1 hnext).1

theorem searched_lookup {α : Type} {id : MemberId} {f : Except MemberError Bool → α} {st st' : Script}
    {log : List (Call kind)} {a : α}
    (h : Runs (server c Script.transport)
      (.scan (Lifecycle.scanFor kind t id.key id.member) fun r => .done (f r)) st log a st') :
    Scanned c t id.key st.replies none (log.map (request c)) := by
  obtain ⟨log₁, r, mid, log₂, hscan, hrest, rfl⟩ := Program.runs_scan.1 h
  obtain ⟨rfl, -, -⟩ := Program.runs_done.1 hrest
  rw [List.append_nil]
  exact (searched rfl hscan).scanned

/-! ## Operations -/

theorem names_target_iff {op : Operation} {key member : String} :
    op.Names kind key member ↔ ∃ id, op.target kind = .ok id ∧ id.key = key ∧ id.member = member := by
  refine Operation.names_iff fun k hk => ?_
  have hkey : k = "DOMAIN_NAME" ∨ k = "CUSTOM_URL" := by simpa [kind, keys] using hk
  rcases hkey with rfl | rfl <;> decide

/-- **A creation adds its member first**, and looks for it if that was accepted. -/
theorem sent_create {key member : String} {id : MemberId} (htarget : Lifecycle.encode kind key member = .ok id)
    {st st' : Script} {log : List (Call kind)} {answer : Except MemberError Answer}
    (h : Runs (server c Script.transport) ((Operation.create key member).action kind t).run st log answer st') :
    ∃ post gets, log.map (request c) = post :: gets ∧ Changes c t .add id.key id.member post ∧
      (Accepted (Script.next st.replies) → Scanned c t id.key st.replies.tail none gets) ∧
      (¬ Accepted (Script.next st.replies) → gets = []) := by
  obtain ⟨rfl, rfl⟩ := Lifecycle.encode_eq_ok htarget
  obtain ⟨patch, hpatch, htree⟩ := patch_eq_ok t id.key id.member
  rw [Operation.run_create, htarget] at h
  simp only [hpatch] at h
  obtain ⟨rest, hrest, rfl⟩ := Program.runs_mutate.1 h
  refine ⟨_, rest.map (request c), rfl, changes_changeRequest htree, ?_⟩
  rw [mutate_script] at hrest
  rw [← acknowledged_eq_ok]
  cases hack : acknowledged (Script.next st.replies) with
  | error e =>
    rw [hack] at hrest
    obtain ⟨rfl, -, -⟩ := Program.runs_done.1 hrest
    exact ⟨(fun h => nomatch h), fun _ => rfl⟩
  | ok u =>
    rw [hack] at hrest
    exact ⟨fun _ => searched_lookup hrest, fun h => absurd rfl h⟩

/-- **A deletion removes its member** if the last listing found it, and only then. -/
theorem sent_delete {text : String} {id : MemberId} (htarget : Lifecycle.decode kind text = .ok id)
    {st st' : Script} {log : List (Call kind)} {answer : Except MemberError Answer}
    (h : Runs (server c Script.transport) ((Operation.delete text).action kind t).run st log answer st') :
    ∃ gets posts, log.map (request c) = gets ++ posts ∧ Scanned c t id.key st.replies none gets ∧
      (Finds t id.key id.member (Script.next (st.replies.drop (gets.length - 1))) →
        ∃ post, posts = [post] ∧ Changes c t .remove id.key id.member post) ∧
      (¬ Finds t id.key id.member (Script.next (st.replies.drop (gets.length - 1))) → posts = []) := by
  obtain ⟨patch, hpatch, htree⟩ := patch_eq_ok t id.key id.member
  rw [Operation.run_delete, htarget] at h
  obtain ⟨log₁, r, mid, log₂, hscan, hrest, rfl⟩ := Program.runs_scan.1 h
  obtain ⟨hscanned, hfound⟩ := searched rfl hscan
  refine ⟨log₁.map (request c), log₂.map (request c), List.map_append, hscanned, ?_⟩
  rw [List.length_map]
  change r = .ok true ↔ Finds t id.key id.member (Script.next (st.replies.drop (log₁.length - 1))) at hfound
  rw [← hfound]
  rcases r with e | _ | _
  · obtain ⟨rfl, -, -⟩ := Program.runs_done.1 hrest
    exact ⟨(fun h => nomatch h), fun _ => rfl⟩
  · obtain ⟨rfl, -, -⟩ := Program.runs_done.1 hrest
    exact ⟨(fun h => nomatch h), fun _ => rfl⟩
  · simp only [hpatch] at hrest
    obtain ⟨rest, hack, rfl⟩ := Program.runs_mutate.1 hrest
    refine ⟨fun _ => ?_, fun h => absurd rfl h⟩
    have hend : rest = [] := by
      generalize ((server c Script.transport).mutate t .remove patch mid) = acked at hack
      obtain ⟨ack, after⟩ := acked
      cases ack with
      | error e => exact (Program.runs_done.1 hack).1
      | ok u => exact (Program.runs_done.1 hack).1
    subst hend
    exact ⟨_, rfl, changes_changeRequest htree⟩

/-- **An operation sends what it may send.** -/
theorem disciplined {op : Operation} {st st' : Script} {log : List (Call kind)} {answer : Except MemberError Answer}
    (h : Runs (server c Script.transport) (op.action kind t).run st log answer st') :
    Disciplined c t op st.replies (log.map (request c)) := by
  constructor
  · intro hnone
    cases htarget : op.target kind with
    | ok id => exact absurd (names_target_iff.2 ⟨id, htarget, rfl, rfl⟩) (hnone id.key id.member)
    | error e =>
      rw [Operation.run_refused kind t htarget] at h
      obtain ⟨rfl, -, -⟩ := Program.runs_done.1 h
      rfl
  · intro key member hnames
    obtain ⟨id, htarget, rfl, rfl⟩ := names_target_iff.1 hnames
    cases op with
    | create k m => exact sent_create htarget h
    | delete text => exact sent_delete htarget h
    | _ =>
      obtain ⟨f, hrun⟩ := Operation.run_looks kind t rfl htarget
      rw [hrun] at h
      exact searched_lookup h

/-! ## Sessions -/

theorem conduct_disciplined (op : Operation) (replies : List Reply) (before : List Request) :
    ∃ answer sent, conduct c t op replies before = (some answer, before ++ sent) ∧ Disciplined c t op replies sent := by
  obtain ⟨log, answer, after, hrun, hle⟩ := @runs_within c _ _ _ (op.within kind t) ⟨replies, before⟩
  refine ⟨answer, log.map (request c), ?_, disciplined hrun⟩
  unfold conduct
  rw [hrun.run_of_le hle]
  exact congrArg (Prod.mk (some answer)) (runs_script hrun).requests

theorem session_sent (ops : List (Operation × List Reply)) (before : List Request) :
    ∃ (answers : List (Except MemberError Answer)) (sent : List (List Request)),
      session c t ops before = (answers.map some, before ++ sent.flatten) ∧
      List.Forall₂ (fun op requests => Disciplined c t op.1 op.2 requests) ops sent := by
  induction ops generalizing before with
  | nil => exact ⟨[], [], by rw [List.flatten_nil, List.append_nil]; rfl, .nil⟩
  | cons op ops ih =>
    obtain ⟨op, replies⟩ := op
    obtain ⟨answer, requests, hconduct, hfirst⟩ := @conduct_disciplined c t op replies before
    obtain ⟨answers, sent, hsession, hrest⟩ := ih (before ++ requests)
    refine ⟨answer :: answers, requests :: sent, ?_, .cons hfirst hrest⟩
    unfold session
    simp only
    rw [hconduct, hsession, List.flatten_cons, List.append_assoc]
    rfl

/-- **Every operation keeps to the discipline**, for every session of them, through either manager and whatever replies
meet their requests.  Every operation ends, and all that is sent is what the operations send, one after the other: none
of it if the arguments name no member; a creation sends the addition of its member first, and listings only if that was
accepted; a deletion sends listings, and then the removal of its member if and only if the last of them found it; and
all others send listings alone. -/
theorem session_disciplined (c : Client) (t : Topology) (ops : List (Operation × List Reply)) :
    ∃ (answers : List (Except MemberError Answer)) (sent : List (List Request)),
      (session c t ops []).1 = answers.map some ∧ (session c t ops []).2 = sent.flatten ∧
      List.Forall₂ (fun op requests => Disciplined c t op.1 op.2 requests) ops sent := by
  obtain ⟨answers, sent, hsession, hdisciplined⟩ := @session_sent c t ops []
  exact ⟨answers, sent, congrArg Prod.fst hsession, congrArg Prod.snd hsession, hdisciplined⟩

end CustomAttributes
end PolicyProvider
