import PolicyProvider.Proofs.Provider.State
/-!
# Outcome — operations on a managed custom attribute are done whole or not at all

A creation, a reading and an import answer with a state that is written whole and no problem, or with one error and what
they were given; a reading may also answer that the resource is gone.  `Created`, `Refreshed`, `Taken` and `Deleted`
list the answers there are.  There is no problem just if the operation on the member came to its end, and the resource
is gone just if the scan for its member ended without it.  Nothing is asked of a manager where the key and text to
create are not known texts, or where a state has no id (`all_or_nothing`).
-/
namespace PolicyProvider

open Program (Runs)
open CustomAttributes (kind server)

namespace CustomAttributeResource

/-! ## Answers -/

def Plans (planned : Value) (key member : String) : Prop :=
  planned.get? (.ofName "key") = some (.string key) ∧ planned.get? (.ofName "attribute") = some (.string member)

def Identified (state : Value) (id : String) : Prop :=
  state.get? (.ofName "id") = some (.string id) ∧ id ≠ ""

/-- **That the member which a state plans is created**, and the calls that this takes. -/
def Makes (c : Client) (resource : CustomAttributeResource) (planned : Value) (st : Script) (log : List (Call kind))
    (st' : Script) : Prop :=
  ∃ (access : ProviderAccess) (key member : String) (made : SubResource), resource.access = some access ∧
    Plans planned key member ∧
    Runs (server c Script.transport) (Lifecycle.create kind access.topology key member).run st log (.ok made) st'

/-- **That the scan for the member of an id comes to its end**, with the member or without it, and the calls that this
takes. -/
def LooksUp (c : Client) (resource : CustomAttributeResource) (text : String) (present : Bool) (st : Script)
    (log : List (Call kind)) (st' : Script) : Prop :=
  ∃ (access : ProviderAccess) (id : MemberId), resource.access = some access ∧ text = id.text ∧
    id.key ∈ CustomAttributes.keys ∧
    Runs (server c Script.transport) (Lifecycle.find kind access.topology id.key id.member).run st log (.ok present) st'

/-- **That the member of a state's id is deleted**, or was gone already, and the calls that this takes. -/
def Removes (c : Client) (resource : CustomAttributeResource) (prior : Value) (st : Script) (log : List (Call kind))
    (st' : Script) : Prop :=
  ∃ (access : ProviderAccess) (text : String) (removed : SubResource), resource.access = some access ∧
    Identified prior text ∧
    Runs (server c Script.transport) (Lifecycle.delete kind access.topology text).run st log (.ok removed) st'

/-- **That one state is another with nothing but its id, key and text written anew.** -/
structure Rewritten (before after : Value) : Prop where
  object : after = .object after.members
  others : ∀ name, name ∉ ["id", "key", "attribute"] → after.get? (.ofName name) = before.get? (.ofName name)
  canonical : before.Canonical → after.Canonical

/-- **What a creation may answer**: the planned state with the id of its member, or one error. -/
inductive Created (planned : Value) : ChangeResponse → Prop
  | written {key member : String} {state : Value} (hplans : Plans planned key member)
      (hsettled : Settled state key member) (hrest : Rewritten planned state) : Created planned ⟨state, []⟩
  | failed {d : Diagnostic} (hd : d.isError = true) : Created planned ⟨planned, [d]⟩

/-- **What a reading may answer**: that the resource is gone, the current state with the key and text of its id, or one
error. -/
inductive Refreshed (current : Value) : ReadResponse → Prop
  | gone : Refreshed current ⟨none, []⟩
  | written {key member : String} {state : Value}
      (hid : current.get? (.ofName "id") = some (.string (key ++ "~" ++ member))) (hsettled : Settled state key member)
      (hrest : Rewritten current state) : Refreshed current ⟨some state, []⟩
  | failed {d : Diagnostic} (hd : d.isError = true) : Refreshed current ⟨some current, [d]⟩

/-- **What an import may answer**: one resource whose state has the key and text of the id and nothing else, or one
error. -/
inductive Taken (request : ImportRequest) : ImportResponse → Prop
  | written {key member : String} {state : Value} (hid : request.id = key ++ "~" ++ member)
      (hsettled : Settled state key member) (hrest : Rewritten Value.empty state) :
      Taken request ⟨[⟨request.typeName, state⟩], []⟩
  | failed {d : Diagnostic} (hd : d.isError = true) : Taken request ⟨[], [d]⟩

/-- **What a deletion may answer**: no problem, or one error. -/
inductive Deleted : List Diagnostic → Prop
  | done : Deleted []
  | failed {d : Diagnostic} (hd : d.isError = true) : Deleted [d]

theorem rewritten_writeState (state : Value) (id : MemberId) : Rewritten state (writeState state id).1 where
  object := by rw [writeState_eq]; rfl
  others := by
    intro name hname
    simp only [List.mem_cons, List.not_mem_nil, or_false, not_or] at hname
    obtain ⟨hid, hkey, hattribute⟩ := hname
    rw [writeState_eq, Value.get?_ofName, Value.members_object, Entries.get?_put_of_ne hattribute,
      Entries.get?_put_of_ne hkey, Entries.get?_put_of_ne hid, Value.get?_ofName]
  canonical := fun h => canonical_writeState h id

theorem rewritten_of_started (text : String) (id : MemberId) :
    Rewritten Value.empty (writeState (.object [("id", .string text)]) id).1 := by
  obtain ⟨hobject, hothers, hcanonical⟩ := rewritten_writeState (.object [("id", .string text)]) id
  refine ⟨hobject, fun name hname => ?_, fun _ => hcanonical (by simp [Value.Canonical, Value.NamesAscend])⟩
  have hid : name ≠ "id" := fun h => hname (by simp [h])
  rw [hothers name hname, Value.get?_ofName, Value.get?_ofName]
  exact Entries.get?_put_of_ne hid _ []

theorem plannedParts_eq_ok {planned : Value} {key member : String} :
    plannedParts planned = .ok (key, member) ↔ Plans planned key member := by
  unfold Plans plannedParts
  rw [← Value.getString_eq_ok, ← Value.getString_eq_ok]
  cases planned.getString (.ofName "key") with
  | error e => exact ⟨(fun h => nomatch h), fun h => nomatch h.1⟩
  | ok k =>
    cases planned.getString (.ofName "attribute") with
    | error e => exact ⟨(fun h => nomatch h), fun h => nomatch h.2⟩
    | ok m =>
      change Except.ok (k, m) = Except.ok (key, member) ↔ _
      simp

theorem stateId?_eq_some {state : Value} {id : String} : stateId? state = some id ↔ Identified state id := by
  unfold Identified stateId?
  rw [← Value.getString_eq_ok]
  cases state.getString (.ofName "id") with
  | error e => exact ⟨(fun h => nomatch h), fun h => nomatch h.1⟩
  | ok text =>
    by_cases htext : text = ""
    · simp [htext, eq_comm]
    · simp [htext]
      rintro rfl
      exact htext

theorem Identified.exists_iff {state : Value} {text : String} (h : Identified state text) {P : String → Prop} :
    (∃ text, Identified state text ∧ P text) ↔ P text := by
  constructor
  · rintro ⟨text', h', hp⟩
    have hsame := (stateId?_eq_some.2 h').symm.trans (stateId?_eq_some.2 h)
    rwa [Option.some.inj hsame] at hp
  · exact fun hp => ⟨text, h, hp⟩

end CustomAttributeResource

/-! ## How a reading ends -/

namespace Lifecycle

variable {c : Client} {t : Topology} {text : String} {st st' : Script} {log : List (Call kind)}
  {result : Except MemberError SubResource}

theorem runs_read (h : Runs (server c Script.transport) (read kind t text).run st log result st') :
    (∃ id present, decode kind text = .ok id ∧ result = found kind id present ∧
      Runs (server c Script.transport) (find kind t id.key id.member).run st log present st') ∨
    ∃ e, decode kind text = .error e ∧ result = .error e := by
  rw [run_read] at h
  cases hdecode : decode kind text with
  | error e =>
    simp only [hdecode] at h
    exact .inr ⟨e, rfl, (Program.runs_done.1 h).2.1⟩
  | ok id =>
    simp only [hdecode] at h
    obtain ⟨log₁, present, mid, log₂, hscan, hrest, rfl⟩ := Program.runs_scan.1 h
    obtain ⟨rfl, rfl, rfl⟩ := Program.runs_done.1 hrest
    rw [List.append_nil]
    exact .inl ⟨id, present, rfl, rfl, hscan⟩

theorem result_of_find {id : MemberId} {present : Bool}
    (h : Runs (server c Script.transport) (read kind t text).run st log result st')
    (hdecode : decode kind text = .ok id)
    (hscan : Runs (server c Script.transport) (find kind t id.key id.member).run st log (.ok present) st') :
    result = found kind id (.ok present) := by
  rcases runs_read h with ⟨id', looked, hdecode', rfl, hscan'⟩ | ⟨e, hdecode', -⟩
  · cases hdecode.symm.trans hdecode'
    obtain ⟨-, rfl, -⟩ := hscan'.unique hscan
    rfl
  · cases hdecode.symm.trans hdecode'

/-- **A reading finds its member just if its scan does.** -/
theorem found_iff (h : Runs (server c Script.transport) (read kind t text).run st log result st') :
    (∃ r, result = .ok r) ↔ ∃ id, decode kind text = .ok id ∧
      Runs (server c Script.transport) (find kind t id.key id.member).run st log (.ok true) st' := by
  constructor
  · rintro ⟨r, rfl⟩
    rcases runs_read h with ⟨id, present, hdecode, hfound, hscan⟩ | ⟨e, -, heq⟩
    · rcases present with cause | _ | _
      · cases hfound
      · cases hfound
      · exact ⟨id, hdecode, hscan⟩
    · cases heq
  · rintro ⟨id, hdecode, hscan⟩
    exact ⟨_, result_of_find h hdecode hscan⟩

theorem notFound_iff (h : Runs (server c Script.transport) (read kind t text).run st log result st') :
    (∃ e, result = .error e ∧ e.isNotFound = true) ↔ ∃ id, decode kind text = .ok id ∧
      Runs (server c Script.transport) (find kind t id.key id.member).run st log (.ok false) st' := by
  constructor
  · rintro ⟨e, rfl, he⟩
    rcases runs_read h with ⟨id, present, hdecode, hfound, hscan⟩ | ⟨e', hdecode, heq⟩
    · rcases present with cause | _ | _
      · -- a scan never fails for want of its member
        obtain ⟨cause', rfl, -⟩ := (CustomAttributes.concluded hscan).failed cause rfl
        cases hfound
        cases he
      · exact ⟨id, hdecode, hscan⟩
      · cases hfound
    · cases heq
      rcases @Operation.target_error kind (.read text) e hdecode with ⟨field, problem, rfl⟩ | ⟨cause, rfl⟩ <;> cases he
  · rintro ⟨id, hdecode, hscan⟩
    exact ⟨_, result_of_find h hdecode hscan, rfl⟩

end Lifecycle

/-! ## Operations -/

namespace CustomAttributeResource

section Operations

variable {c : Client} {st st' : Script} {log : List (Call kind)} {resource : CustomAttributeResource}

/-- However a creation fails, it answers with the planned state and one error. -/
theorem created_error (planned : Value) (e : MemberError) :
    ∃ d : Diagnostic, d.isError = true ∧ created planned (.error e) = ⟨planned, [d]⟩ := by
  cases e <;> exact ⟨_, rfl, rfl⟩

theorem created_of_create {planned : Value} {response : ChangeResponse}
    (h : Runs (server c Script.transport) (resource.create planned) st log response st') :
    Created planned response ∧ (response.diagnostics = [] ↔ Makes c resource planned st log st') ∧
      ((∀ key member, ¬ Plans planned key member) → st' = st) := by
  rcases runs_create h with ⟨d, hd, rfl, rfl, hrefused⟩ | ⟨access, key, text, result, haccess, hparts, hrun, rfl⟩
  · refine ⟨.failed hd, ⟨(fun h => nomatch h), ?_⟩, fun _ => rfl⟩
    rintro ⟨access, key, member, made, haccess, hplans, -⟩
    rw [haccess, plannedParts_eq_ok.2 hplans] at hrefused
    rcases hrefused with h | ⟨e, h⟩ <;> cases h
  · have hplans := plannedParts_eq_ok.1 hparts
    refine ⟨?_, ?_, fun hnone => absurd hplans (hnone key text)⟩
    · cases result with
      | error e =>
        obtain ⟨d, hd, heq⟩ := created_error planned e
        rw [heq]
        exact .failed hd
      | ok member =>
        obtain ⟨hallowed, rfl, rfl⟩ := Lifecycle.encode_eq_ok_iff.1 (Lifecycle.encode_of_created hrun)
        unfold created
        simp only [writeState_clean]
        exact .written hplans (settled_writeState planned hallowed) (rewritten_writeState planned member.id)
    · cases result with
      | error e =>
        obtain ⟨d, -, heq⟩ := created_error planned e
        rw [heq]
        refine ⟨(fun h => nomatch h), ?_⟩
        rintro ⟨access', key', member', made, haccess', hplans', hmade⟩
        cases haccess.symm.trans haccess'
        cases hparts.symm.trans (plannedParts_eq_ok.2 hplans')
        cases (hrun.unique hmade).2.1
      | ok member => exact ⟨fun _ => ⟨access, key, text, member, haccess, hplans, hrun⟩, fun _ => writeState_clean _ _⟩

theorem looksUp_iff {access : ProviderAccess} (haccess : resource.access = some access) {text : String}
    {present : Bool} : LooksUp c resource text present st log st' ↔
    ∃ id, Lifecycle.decode kind text = .ok id ∧
      Runs (server c Script.transport) (Lifecycle.find kind access.topology id.key id.member).run st log (.ok present)
        st' := by
  constructor
  · rintro ⟨access', id, hsome, htext, hallowed, hscan⟩
    cases haccess.symm.trans hsome
    exact ⟨id, Lifecycle.decode_eq_ok_iff.2 ⟨htext, hallowed⟩, hscan⟩
  · rintro ⟨id, hdecode, hscan⟩
    obtain ⟨htext, hallowed⟩ := Lifecycle.decode_eq_ok_iff.1 hdecode
    exact ⟨access, id, haccess, htext, hallowed, hscan⟩

theorem readBack_state_eq_none {current : Value} {result : Except MemberError SubResource} :
    (readBack current result).state = none ↔ ∃ e, result = .error e ∧ e.isNotFound = true := by
  cases result with
  | ok member => exact ⟨(fun h => nomatch h), fun ⟨_, h, _⟩ => nomatch h⟩
  | error e =>
    unfold readBack
    by_cases he : e.isNotFound = true
    · simp [he]
    · simp [he]

theorem readBack_diagnostics_eq_nil {current : Value} {result : Except MemberError SubResource} :
    (readBack current result).diagnostics = [] ↔
      (∃ e, result = .error e ∧ e.isNotFound = true) ∨ ∃ r, result = .ok r := by
  cases result with
  | ok member => exact ⟨fun _ => .inr ⟨member, rfl⟩, fun _ => writeState_clean _ _⟩
  | error e =>
    unfold readBack
    by_cases he : e.isNotFound = true
    · simp [he]
    · simp [he]

theorem refreshed_of_read {current : Value} {response : ReadResponse}
    (h : Runs (server c Script.transport) (resource.read current) st log response st') :
    Refreshed current response ∧
      (response.state = none ↔ ∃ text, Identified current text ∧ LooksUp c resource text false st log st') ∧
      (response.diagnostics = [] ↔
        ∃ text, Identified current text ∧ ∃ present, LooksUp c resource text present st log st') ∧
      ((∀ text, ¬ Identified current text) → st' = st) := by
  rcases runs_read h with ⟨d, hd, rfl, rfl, hrefused⟩ | ⟨access, text, result, haccess, hid, hrun, rfl⟩
  · have hnever : ∀ text present, Identified current text → ¬ LooksUp c resource text present st' log st' := by
      rintro text present hidentified ⟨access, id, haccess, -⟩
      rw [stateId?_eq_some.2 hidentified, haccess] at hrefused
      rcases hrefused with h | h <;> cases h
    refine ⟨.failed hd, ⟨(fun h => nomatch h), ?_⟩, ⟨(fun h => nomatch h), ?_⟩, fun _ => rfl⟩
    · exact fun ⟨text, hidentified, hlooks⟩ => absurd hlooks (hnever text false hidentified)
    · exact fun ⟨text, hidentified, present, hlooks⟩ => absurd hlooks (hnever text present hidentified)
  · have hidentified := stateId?_eq_some.1 hid
    refine ⟨?_, ?_, ?_, fun hnone => absurd hidentified (hnone text)⟩
    · cases result with
      | error e =>
        by_cases he : e.isNotFound = true
        · simp only [readBack, if_pos he]
          exact .gone
        · simp only [readBack, if_neg he]
          exact .failed rfl
      | ok member =>
        obtain ⟨rfl, hallowed⟩ := Lifecycle.decode_eq_ok_iff.1 (Lifecycle.decode_of_read hrun)
        unfold readBack
        simp only [writeState_clean]
        refine .written ?_ (settled_writeState current hallowed) (rewritten_writeState current member.id)
        rw [hidentified.1, MemberId.text, MemberId.joined_eq]
    · rw [hidentified.exists_iff, looksUp_iff haccess, readBack_state_eq_none, Lifecycle.notFound_iff hrun]
    · rw [hidentified.exists_iff, Bool.exists_bool, looksUp_iff haccess, looksUp_iff haccess,
        readBack_diagnostics_eq_nil, Lifecycle.notFound_iff hrun, Lifecycle.found_iff hrun]

theorem deleted_of_delete {prior : Value} {problems : List Diagnostic}
    (h : Runs (server c Script.transport) (resource.delete prior) st log problems st') :
    Deleted problems ∧ (problems = [] ↔ Removes c resource prior st log st') ∧
      ((∀ text, ¬ Identified prior text) → st' = st) := by
  rcases runs_delete h with ⟨d, hd, rfl, rfl, hrefused⟩ | ⟨access, text, result, haccess, hid, hrun, rfl⟩
  · refine ⟨.failed hd, ⟨(fun h => nomatch h), ?_⟩, fun _ => rfl⟩
    rintro ⟨access, text, removed, haccess, hidentified, -⟩
    rw [stateId?_eq_some.2 hidentified, haccess] at hrefused
    rcases hrefused with h | h <;> cases h
  · have hidentified := stateId?_eq_some.1 hid
    cases result with
    | ok member =>
      exact ⟨.done, ⟨fun _ => ⟨access, text, member, haccess, hidentified, hrun⟩, fun _ => rfl⟩,
        fun hnone => absurd hidentified (hnone text)⟩
    | error e =>
      refine ⟨.failed rfl, ⟨(fun h => nomatch h), ?_⟩, fun hnone => absurd hidentified (hnone text)⟩
      rintro ⟨access', text', removed, haccess', hidentified', hremoved⟩
      cases haccess.symm.trans haccess'
      cases hid.symm.trans (stateId?_eq_some.2 hidentified')
      cases (hrun.unique hremoved).2.1

theorem taken_of_import {request : ImportRequest} {response : ImportResponse}
    (h : Runs (server c Script.transport) (resource.importState request) st log response st') :
    Taken request response ∧ (response.diagnostics = [] ↔ LooksUp c resource request.id true st log st') := by
  rcases runs_importState h with ⟨d, hd, rfl, hrefused⟩ | ⟨access, result, haccess, hrun, rfl⟩
  · refine ⟨.failed hd, (fun h => nomatch h), ?_⟩
    rintro ⟨access, id, haccess, htext, -⟩
    rw [haccess, htext] at hrefused
    rcases hrefused with h | h
    · exact absurd h id.text_ne_empty
    · cases h
  · rw [looksUp_iff haccess, ← Lifecycle.found_iff hrun]
    cases result with
    | error e => exact ⟨.failed rfl, (fun h => nomatch h), fun ⟨_, h⟩ => nomatch h⟩
    | ok member =>
      obtain ⟨htext, hallowed⟩ := Lifecycle.decode_eq_ok_iff.1 (Lifecycle.decode_of_read hrun)
      simp only [imported, List.map_cons, List.map_nil, List.flatMap_cons, List.flatMap_nil, List.append_nil,
        writeState_clean]
      refine ⟨?_, fun _ => ⟨member, rfl⟩, fun _ => trivial⟩
      exact .written (htext.trans (MemberId.joined_eq _ _)) (settled_writeState _ hallowed)
        (rewritten_of_started request.id member.id)

theorem within_delete (resource : CustomAttributeResource) (prior : Value) : (resource.delete prior).Within 2 := by
  unfold delete
  cases stateId? prior with
  | none => exact .done 2 _
  | some text =>
    cases resource.access with
    | none => exact .done 2 _
    | some access => exact (Lifecycle.within_delete kind access.topology text).map _

end Operations

/-- **Operations are done whole or not at all**, whatever the script of replies, the resource and what it is given.
Every operation ends.  A creation answers with the planned state and the id, key and text of its member, or with the
planned state and one error; a reading answers that the resource is gone, or with the current state and the key and text
of its id, or with the current state and one error; an import answers with one resource that has the id, and the key and
text that it names, or with one error.  There is no error just if the member was created or deleted, or the scan for it
came to its end, for an import with the member; and the resource is gone just if that scan ended without it.  A creation
without a planned key and text that are known texts, and a reading or a deletion without an id, ask nothing of the
manager. -/
theorem all_or_nothing (c : Client) (resource : CustomAttributeResource) (script : Script) :
    (∀ planned, ∃ log response script',
      Runs (server c Script.transport) (resource.create planned) script log response script' ∧
      Created planned response ∧ (response.diagnostics = [] ↔ Makes c resource planned script log script') ∧
      ((∀ key member, ¬ Plans planned key member) → script' = script)) ∧
    (∀ current, ∃ log response script',
      Runs (server c Script.transport) (resource.read current) script log response script' ∧
      Refreshed current response ∧
      (response.state = none ↔ ∃ text, Identified current text ∧ LooksUp c resource text false script log script') ∧
      (response.diagnostics = [] ↔
        ∃ text, Identified current text ∧ ∃ present, LooksUp c resource text present script log script') ∧
      ((∀ text, ¬ Identified current text) → script' = script)) ∧
    (∀ prior, ∃ log problems script',
      Runs (server c Script.transport) (resource.delete prior) script log problems script' ∧
      Deleted problems ∧ (problems = [] ↔ Removes c resource prior script log script') ∧
      ((∀ text, ¬ Identified prior text) → script' = script)) ∧
    ∀ request, ∃ log response script',
      Runs (server c Script.transport) (resource.importState request) script log response script' ∧
      Taken request response ∧ (response.diagnostics = [] ↔ LooksUp c resource request.id true script log script') := by
  refine ⟨fun planned => ?_, fun current => ?_, fun prior => ?_, fun request => ?_⟩
  · obtain ⟨log, response, script', hrun, -⟩ := @CustomAttributes.runs_within c _ _ _
      (within_create resource planned) script
    exact ⟨log, response, script', hrun, created_of_create hrun⟩
  · obtain ⟨log, response, script', hrun, -⟩ :=
      @CustomAttributes.runs_within c _ _ _ (CustomAttributes.within_read resource current) script
    exact ⟨log, response, script', hrun, refreshed_of_read hrun⟩
  · obtain ⟨log, problems, script', hrun, -⟩ := @CustomAttributes.runs_within c _ _ _
      (within_delete resource prior) script
    exact ⟨log, problems, script', hrun, deleted_of_delete hrun⟩
  · obtain ⟨log, response, script', hrun, -⟩ :=
      @CustomAttributes.runs_within c _ _ _ (within_importState resource request) script
    exact ⟨log, response, script', hrun, taken_of_import hrun⟩

end CustomAttributeResource
end PolicyProvider
