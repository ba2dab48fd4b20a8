import PolicyProvider.Proofs.Member.Absence
import PolicyProvider.Proofs.Schema.Plan
/-!
# State — what a managed custom attribute is remembered by

A state that a creation, a reading or an import hands back without a problem names a member by its id, its key and its
text (`Settled`).  Reading the member of such a state writes the same three again and so gives back the very state
(`writeState_eq_self`), and planning from it carries the id over and replaces the resource for a key or text that is
another (`plan_eq`, `state_settles`).
-/
namespace PolicyProvider

open Program (Runs)
open PlannedChange (markIf)
open CustomAttributes (kind server)

namespace CustomAttributeResource

/-- **That a state is settled on a member**: its id is the key and the member's text with a tilde between them. -/
structure Settled (state : Value) (key member : String) : Prop where
  id_eq : state.get? (.ofName "id") = some (.string (key ++ "~" ++ member))
  key_eq : state.get? (.ofName "key") = some (.string key)
  member_eq : state.get? (.ofName "attribute") = some (.string member)
  allowed : key ∈ CustomAttributes.keys
  nonempty : member ≠ ""

namespace Settled

variable {state : Value} {key member : String}

theorem isNull (h : Settled state key member) : state.isNull = false := Value.isNull_of_get? h.id_eq

theorem isSet_id (h : Settled state key member) : (state.under "id").isSet = true := by
  rw [Value.under_eq h.id_eq]
  rfl

theorem eq_object (h : Settled state key member) : state = .object state.members := by
  have hid := h.id_eq
  cases state with
  | object members => rfl
  | _ => cases hid

theorem exists_id (h : Settled state key member) :
    ∃ id : MemberId, id.key = key ∧ id.member = member ∧ id.text = key ++ "~" ++ member := by
  have hkeys : ∀ k ∈ CustomAttributes.keys, k ≠ "" ∧ idSeparator ∉ k.toList := by decide
  obtain ⟨hne, hsep⟩ := hkeys key h.allowed
  exact ⟨⟨key, member, hne, hsep, h.nonempty⟩, rfl, rfl, MemberId.joined_eq key member⟩

end Settled

/-! ## Writing a state -/

theorem writeState_eq (state : Value) (id : MemberId) :
    writeState state id =
      (.object (Entries.put "attribute" (.string id.member)
        (Entries.put "key" (.string id.key) (Entries.put "id" (.string id.text) state.members))), []) := by
  simp [writeState, writeText, Value.set_ofName]

theorem writeState_clean (state : Value) (id : MemberId) : (writeState state id).2 = [] := by
  rw [writeState_eq]

theorem settled_writeState (state : Value) {id : MemberId} (hid : id.key ∈ CustomAttributes.keys) :
    Settled (writeState state id).1 id.key id.member := by
  have htext : id.text = id.key ++ "~" ++ id.member := MemberId.joined_eq id.key id.member
  rw [writeState_eq]
  constructor
  · simp [Value.get?_ofName, Entries.get?_put, htext]
  · simp [Value.get?_ofName, Entries.get?_put]
  · simp [Value.get?_ofName, Entries.get?_put]
  · exact hid
  · exact id.member_ne_empty

theorem canonical_writeState {state : Value} (h : state.Canonical) (id : MemberId) :
    (writeState state id).1.Canonical := by
  have hstring : ∀ s, (Value.string s).Canonical := fun s => by simp [Value.Canonical, Value.NamesAscend]
  rw [writeState_eq]
  have hid := Value.canonical_put "id" (Value.canonical_members h) (hstring id.text)
  have hkey := Value.canonical_put "key" hid (hstring id.key)
  exact Value.canonical_put "attribute" hkey (hstring id.member)

/-- **Writing the member that a state is settled on changes nothing.** -/
theorem writeState_eq_self {state : Value} {id : MemberId} (hstate : state.Canonical)
    (h : Settled state id.key id.member) : writeState state id = (state, []) := by
  have hnames : Entries.Ascending state.members := (Value.canonical_object.1 (Value.canonical_members hstate)).1
  have hid := h.id_eq
  have hkey := h.key_eq
  have hmember := h.member_eq
  rw [Value.get?_ofName] at hid hkey hmember
  rw [← MemberId.joined_eq id.key id.member] at hid
  have hid' : Entries.put "id" (.string id.text) state.members = state.members := Entries.put_eq_self hnames hid
  rw [writeState_eq, hid', Entries.put_eq_self hnames hkey, Entries.put_eq_self hnames hmember, ← h.eq_object]

end CustomAttributeResource

/-! ## What a creation or a reading found -/

namespace Lifecycle

variable {σ : Type} {K : MemberKind} {srv : CollectionServer K σ} {t : Topology} {st st' : σ} {log : List (Call K)}
  {r : SubResource}

theorem id_of_found {id : MemberId} {present : Except MemberError Bool} (h : Except.ok r = found K id present) :
    r.id = id := by
  rcases present with e | _ | _
  · cases h
  · cases h
  · cases h
    rfl

theorem encode_of_created {key member : String} (h : Runs srv (create K t key member).run st log (.ok r) st') :
    encode K key member = .ok r.id := by
  rw [run_create] at h
  cases hencode : encode K key member with
  | error e =>
    simp only [hencode] at h
    cases (Program.runs_done.1 h).2.1
  | ok id =>
    simp only [hencode] at h
    cases hpatch : K.patch t key member with
    | error e =>
      simp only [hpatch] at h
      cases (Program.runs_done.1 h).2.1
    | ok patch =>
      simp only [hpatch] at h
      obtain ⟨rest, hrest, -⟩ := Program.runs_mutate.1 h
      cases hanswer : (srv.mutate t .add patch st).1 with
      | error e =>
        simp only [hanswer] at hrest
        cases (Program.runs_done.1 hrest).2.1
      | ok u =>
        simp only [hanswer] at hrest
        obtain ⟨log₁, present, mid, log₂, -, hfound, -⟩ := Program.runs_scan.1 hrest
        rw [id_of_found (Program.runs_done.1 hfound).2.1]

theorem decode_of_read {text : String} (h : Runs srv (read K t text).run st log (.ok r) st') :
    decode K text = .ok r.id := by
  rw [run_read] at h
  cases hdecode : decode K text with
  | error e =>
    simp only [hdecode] at h
    cases (Program.runs_done.1 h).2.1
  | ok id =>
    simp only [hdecode] at h
    obtain ⟨log₁, present, mid, log₂, -, hfound, -⟩ := Program.runs_scan.1 h
    rw [id_of_found (Program.runs_done.1 hfound).2.1]

end Lifecycle

namespace CustomAttributeResource

variable {σ : Type} {srv : CollectionServer kind σ} {st st' : σ} {log : List (Call kind)}

/-- **That a state may be kept**: it is settled on a member, and the one it was made from is still a finite map. -/
def Kept (origin state : Value) : Prop :=
  (∃ key member, Settled state key member) ∧ (origin.Canonical → state.Canonical)

theorem kept_writeState (origin : Value) {id : MemberId} (hid : id.key ∈ CustomAttributes.keys) :
    Kept origin (writeState origin id).1 :=
  ⟨⟨id.key, id.member, settled_writeState origin hid⟩, fun h => canonical_writeState h id⟩

theorem kept_of_create {resource : CustomAttributeResource} {planned : Value} {response : ChangeResponse}
    (h : Runs srv (resource.create planned) st log response st')
    (hclean : Diagnostic.hasErrors response.diagnostics = false) : Kept planned response.state := by
  rcases runs_create h with ⟨d, hd, rfl, -, -⟩ | ⟨access, key, text, result, -, -, hrun, rfl⟩
  · simp [Diagnostic.hasErrors, hd] at hclean
  · cases result with
    | error e => cases e <;> cases hclean
    | ok member =>
      obtain ⟨hallowed, hkey, -⟩ := Lifecycle.encode_eq_ok_iff.1 (Lifecycle.encode_of_created hrun)
      exact kept_writeState planned (hkey ▸ hallowed)

theorem kept_of_read {resource : CustomAttributeResource} {current : Value} {response : ReadResponse}
    (h : Runs srv (resource.read current) st log response st')
    (hclean : Diagnostic.hasErrors response.diagnostics = false) : ∀ state ∈ response.state, Kept current state := by
  rcases runs_read h with ⟨d, hd, rfl, -, -⟩ | ⟨access, text, result, -, -, hrun, rfl⟩
  · simp [Diagnostic.hasErrors, hd] at hclean
  · cases result with
    | error e =>
      unfold readBack at hclean ⊢
      by_cases he : e.isNotFound = true
      · simp [he]
      · simp only [if_neg he] at hclean
        cases hclean
    | ok member =>
      obtain ⟨-, hallowed⟩ := Lifecycle.decode_eq_ok_iff.1 (Lifecycle.decode_of_read hrun)
      rintro state ⟨⟩
      exact kept_writeState current hallowed

theorem kept_of_import {resource : CustomAttributeResource} {request : ImportRequest} {response : ImportResponse}
    (h : Runs srv (resource.importState request) st log response st')
    (hclean : Diagnostic.hasErrors response.diagnostics = false) :
    ∀ i ∈ response.imported, Kept (.object [("id", .string request.id)]) i.state := by
  rcases runs_importState h with ⟨d, hd, rfl, -⟩ | ⟨access, result, -, hrun, rfl⟩
  · simp [Diagnostic.hasErrors, hd] at hclean
  · cases result with
    | error e => cases hclean
    | ok member =>
      obtain ⟨-, hallowed⟩ := Lifecycle.decode_eq_ok_iff.1 (Lifecycle.decode_of_read hrun)
      intro i hi
      simp only [imported, List.map_cons, List.map_nil, List.mem_singleton] at hi
      subst hi
      exact kept_writeState _ hallowed

/-! ## Reading a settled state -/

theorem stateId?_of_settled {state : Value} {key member : String} (h : Settled state key member) :
    stateId? state = some (key ++ "~" ++ member) := by
  obtain ⟨id, rfl, rfl, htext⟩ := h.exists_id
  have hne : id.key ++ "~" ++ id.member ≠ "" := htext ▸ id.text_ne_empty
  unfold stateId?
  rw [Value.getString_eq_ok.2 h.id_eq]
  exact if_neg hne

/-- **A reading of a settled state** scans for its member and makes of that what it found. -/
theorem read_settled {state : Value} {key member : String} (hstate : state.Canonical) (h : Settled state key member)
    (access : ProviderAccess) :
    ∃ failed : MemberError → ReadResponse,
      (⟨some access⟩ : CustomAttributeResource).read state =
        .scan (Lifecycle.scanFor kind access.topology key member) fun
          | .ok true => .done ⟨some state, []⟩
          | .ok false => .done ⟨none, []⟩
          | .error e => .done (failed e) := by
  obtain ⟨id, rfl, rfl, htext⟩ := h.exists_id
  have hdecode : Lifecycle.decode kind (id.key ++ "~" ++ id.member) = .ok id :=
    Lifecycle.decode_eq_ok_iff.2 ⟨htext.symm, h.allowed⟩
  refine ⟨fun e => readBack state (.error e), ?_⟩
  unfold read
  simp only [stateId?_of_settled h, Lifecycle.run_read, hdecode]
  refine congrArg (Program.scan _) (funext fun r => ?_)
  rcases r with e | _ | _
  · rfl
  · rfl
  · change Program.done (readBack state (.ok ⟨id, .present⟩)) = _
    simp only [readBack, writeState_eq_self hstate h]

/-! ## Planning -/

theorem differs_string (was will : String) :
    Attribute.differs (.string was) (.string will) = decide (will ≠ was) := by
  by_cases h : will = was
  · simp [Attribute.differs, Value.isNull, Value.isUnknown, Value.same, h]
  · simp [Attribute.differs, Value.isNull, Value.isUnknown, Value.same, h, Ne.symm h]

theorem plan_eq {prior proposed : Value} (config : Value) (hid : (prior.under "id").isSet = true)
    (hprior : prior.isNull = false) (hproposed : proposed.isNull = false) :
    plan prior proposed config =
      { state := .object (Entries.put "attribute" (proposed.under "attribute") (Entries.put "key" (proposed.under "key")
          (Entries.put "id" (if (proposed.under "id").isSet then proposed.under "id" else prior.under "id")
            proposed.members)))
        requiresReplace :=
          markIf (Attribute.differs (prior.under "attribute") (proposed.under "attribute"))
            (markIf (Attribute.differs (prior.under "key") (proposed.under "key")) [] (.ofName "key"))
            (.ofName "attribute")
        diagnostics := [] } := by
  unfold plan Schema.plan
  rw [if_neg (by simp [hproposed])]
  -- the attributes are planned in turn, the id first
  simp only [schema, List.foldl_cons, List.foldl_nil, PlannedChange.planAttribute_eq]
  rw [Attribute.drafted_of_requiresReplace rfl rfl hprior, Attribute.drafted_of_requiresReplace rfl rfl hprior,
    Attribute.drafted_of_useStateForUnknown rfl rfl hid hprior]
  rfl

theorem markIf_markIf_names (first second : Bool) :
    markIf second (markIf first [] (.ofName "key")) (.ofName "attribute") =
      (if first then [.ofName "key"] else []) ++ if second then [.ofName "attribute"] else [] := by
  revert first second
  decide

section Settled

variable {state proposed : Value} {key member key' member' : String}

/-- **The planned change of a settled state**, if the id is left open and a key and a text are proposed. -/
theorem plan_settled (h : Settled state key member) (hid : (proposed.under "id").isSet = false)
    (hkey : proposed.get? (.ofName "key") = some (.string key'))
    (hmember : proposed.get? (.ofName "attribute") = some (.string member')) (config : Value) :
    plan state proposed config =
      { state := .object (Entries.put "attribute" (.string member') (Entries.put "key" (.string key')
          (Entries.put "id" (.string (key ++ "~" ++ member)) proposed.members)))
        requiresReplace :=
          (if key' = key then [] else [.ofName "key"]) ++ if member' = member then [] else [.ofName "attribute"]
        diagnostics := [] } := by
  rw [plan_eq config h.isSet_id h.isNull (Value.isNull_of_get? hkey), markIf_markIf_names, hid, Value.under_eq hkey,
    Value.under_eq hmember, Value.under_eq h.id_eq, Value.under_eq h.key_eq, Value.under_eq h.member_eq, differs_string,
    differs_string]
  simp

theorem get?_plan_id (h : Settled state key member) (hid : (proposed.under "id").isSet = false)
    (hkey : proposed.get? (.ofName "key") = some (.string key'))
    (hmember : proposed.get? (.ofName "attribute") = some (.string member')) (config : Value) :
    (plan state proposed config).state.get? (.ofName "id") = state.get? (.ofName "id") := by
  rw [plan_settled h hid hkey hmember, h.id_eq, Value.get?_ofName]
  simp [Entries.get?_put]

theorem get?_plan_of_ne (h : Settled state key member) (hid : (proposed.under "id").isSet = false)
    (hkey : proposed.get? (.ofName "key") = some (.string key'))
    (hmember : proposed.get? (.ofName "attribute") = some (.string member')) (config : Value) {name : String}
    (hname : name ≠ "id") : (plan state proposed config).state.get? (.ofName name) = proposed.get? (.ofName name) := by
  rw [plan_settled h hid hkey hmember, Value.get?_ofName, Value.members_object, Entries.get?_put, Entries.get?_put,
    Entries.get?_put_of_ne hname]
  by_cases hattribute : name = "attribute"
  · rw [if_pos hattribute, hattribute, hmember]
  · by_cases hk : name = "key"
    · rw [if_neg hattribute, if_pos hk, hk, hkey]
    · rw [if_neg hattribute, if_neg hk, Value.get?_ofName]

theorem canonical_plan (h : Settled state key member) (hid : (proposed.under "id").isSet = false)
    (hkey : proposed.get? (.ofName "key") = some (.string key'))
    (hmember : proposed.get? (.ofName "attribute") = some (.string member')) (config : Value)
    (hproposed : proposed.Canonical) : (plan state proposed config).state.Canonical := by
  have hstring : ∀ s, (Value.string s).Canonical := fun s => by simp [Value.Canonical, Value.NamesAscend]
  rw [plan_settled h hid hkey hmember]
  exact Value.canonical_put _ (Value.canonical_put _
    (Value.canonical_put _ (Value.canonical_members hproposed) (hstring _))
    (hstring _)) (hstring _)

/-- **Planning what is there already changes nothing.** -/
theorem plan_eq_self (h : Settled state key member) (hstate : state.Canonical) (hproposed : proposed.Canonical)
    (hid : (proposed.under "id").isSet = false)
    (hsame : ∀ name, name ≠ "id" → proposed.get? (.ofName name) = state.get? (.ofName name)) (config : Value) :
    plan state proposed config = ⟨state, [], []⟩ := by
  have hkey : proposed.get? (.ofName "key") = some (.string key) := by rw [hsame "key" (by decide), h.key_eq]
  have hmember : proposed.get? (.ofName "attribute") = some (.string member) := by
    rw [hsame "attribute" (by decide), h.member_eq]
  have hplan := plan_settled h hid hkey hmember config
  have hcanonical := canonical_plan h hid hkey hmember config hproposed
  have hget : ∀ name, (plan state proposed config).state.get? (.ofName name) = state.get? (.ofName name) := by
    intro name
    by_cases hname : name = "id"
    · rw [hname, get?_plan_id h hid hkey hmember config]
    · rw [get?_plan_of_ne h hid hkey hmember config hname, hsame name hname]
  -- maps with the same value under every name are the same
  rw [hplan] at hcanonical hget ⊢
  simp only [Value.get?_ofName, Value.members_object] at hget
  rw [Value.eq_object_of_get? hstate h.eq_object hcanonical fun name => by rw [hget, Value.get?_ofName]]
  simp

theorem runs_read_settled (h : Settled state key member) (hstate : state.Canonical) {access : ProviderAccess}
    (hfind : Runs srv (Lifecycle.find kind access.topology key member).run st log (.ok true) st') :
    Runs srv ((⟨some access⟩ : CustomAttributeResource).read state) st log ⟨some state, []⟩ st' := by
  obtain ⟨failed, hread⟩ := read_settled hstate h access
  rw [hread]
  exact Program.runs_scan.2 ⟨log, .ok true, st', [], hfind, .done _ _, (List.append_nil log).symm⟩

end Settled

/-! ## Every run ends -/

theorem within_create (resource : CustomAttributeResource) (planned : Value) : (resource.create planned).Within 2 := by
  unfold create
  cases resource.access with
  | none => exact .done 2 _
  | some access =>
    cases plannedParts planned with
    | error e => exact .done 2 _
    | ok parts => exact (Lifecycle.within_create kind access.topology parts.1 parts.2).map _

theorem within_importState (resource : CustomAttributeResource) (request : ImportRequest) :
    (resource.importState request).Within 1 := by
  unfold importState
  simp only
  split
  · exact .done 1 _
  · cases resource.access with
    | none => exact .done 1 _
    | some access => exact (Lifecycle.within_read kind access.topology request.id).map _

/-- **States are canonical and converge**, whatever the script of replies.  Every creation, reading and import ends, and
a state that it hands back without an error is settled on a member.  Of such a state, a later reading that finds the
member gives back the state itself.  Planned from it, a proposal of a key and a text that leaves the id open keeps the
id, takes everything else as proposed, and replaces the resource for just those of key and text that are others; a
proposal of what is there already plans the state itself. -/
theorem state_settles (c : Client) (script : Script) :
    (∀ (resource : CustomAttributeResource) (planned : Value), ∃ log response script',
      Runs (server c Script.transport) (resource.create planned) script log response script' ∧
      (Diagnostic.hasErrors response.diagnostics = false → Kept planned response.state)) ∧
    (∀ (resource : CustomAttributeResource) (current : Value), ∃ log response script',
      Runs (server c Script.transport) (resource.read current) script log response script' ∧
      (Diagnostic.hasErrors response.diagnostics = false → ∀ state ∈ response.state, Kept current state)) ∧
    (∀ (resource : CustomAttributeResource) (request : ImportRequest), ∃ log response script',
      Runs (server c Script.transport) (resource.importState request) script log response script' ∧
      (Diagnostic.hasErrors response.diagnostics = false → ∀ i ∈ response.imported, Kept Value.empty i.state)) ∧
    ∀ (state : Value) (key member : String), Settled state key member → state.Canonical →
      (∀ access log script',
        Runs (server c Script.transport) (Lifecycle.find kind access.topology key member).run script log (.ok true)
          script' →
        Runs (server c Script.transport) ((⟨some access⟩ : CustomAttributeResource).read state) script log
          ⟨some state, []⟩ script') ∧
      ∀ (proposed config : Value) (key' member' : String), (proposed.under "id").isSet = false →
        proposed.get? (.ofName "key") = some (.string key') →
        proposed.get? (.ofName "attribute") = some (.string member') →
        let change := plan state proposed config
        change.state.get? (.ofName "id") = state.get? (.ofName "id") ∧
        (∀ name, name ≠ "id" → change.state.get? (.ofName name) = proposed.get? (.ofName name)) ∧
        change.diagnostics = [] ∧
        change.requiresReplace =
          (if key' = key then [] else [.ofName "key"]) ++ (if member' = member then [] else [.ofName "attribute"]) ∧
        (proposed.Canonical →
          (∀ name, name ≠ "id" → proposed.get? (.ofName name) = state.get? (.ofName name)) →
          change = ⟨state, [], []⟩) := by
  refine ⟨fun resource planned => ?_, fun resource current => ?_, fun resource request => ?_, ?_⟩
  · obtain ⟨log, response, script', hrun, -⟩ := @CustomAttributes.runs_within c _ _ _
      (within_create resource planned) script
    exact ⟨log, response, script', hrun, kept_of_create hrun⟩
  · obtain ⟨log, response, script', hrun, -⟩ :=
      @CustomAttributes.runs_within c _ _ _ (CustomAttributes.within_read resource current) script
    exact ⟨log, response, script', hrun, kept_of_read hrun⟩
  · obtain ⟨log, response, script', hrun, -⟩ :=
      @CustomAttributes.runs_within c _ _ _ (within_importState resource request) script
    refine ⟨log, response, script', hrun, fun hclean i hi => ?_⟩
    obtain ⟨hsettled, hcanonical⟩ := kept_of_import hrun hclean i hi
    have hstart : (Value.object [("id", .string request.id)]).Canonical := by
      simp [Value.Canonical, Value.NamesAscend]
    exact ⟨hsettled, fun _ => hcanonical hstart⟩
  · intro state key member h hstate
    refine ⟨fun access log script' hfind => runs_read_settled h hstate hfind, ?_⟩
    intro proposed config key' member' hid hkey hmember
    refine ⟨get?_plan_id h hid hkey hmember config, fun name hname => get?_plan_of_ne h hid hkey hmember config hname,
      ?_, ?_, fun hproposed hsame => plan_eq_self h hstate hproposed hid hsame config⟩
    · rw [plan_settled h hid hkey hmember]
    · rw [plan_settled h hid hkey hmember]

end CustomAttributeResource
end PolicyProvider
