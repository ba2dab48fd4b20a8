import PolicyProvider.Proofs.Member.Discipline
import PolicyProvider.Proofs.Provider.Outcome
import PolicyProvider.Proofs.Provider.Replacement
import PolicyProvider.Proofs.Schema.Stability
/-!
# Creation — what becomes of a configuration without a problem

A configuration is checked twice: its types and its key when it is validated, and its key and its text when the member
is made.  The two agree on keys, and on every text but the empty one, which validation lets through and no member may
have.  So the planned creation of a valid configuration adds its member, and does nothing else before that, exactly if
the text is not empty (`creation_adds_iff`).
-/
namespace PolicyProvider

open Program (Runs)
open CustomAttributes (kind server)

namespace CustomAttributeResource

/-! ## What is planned -/

section

variable {config proposed : Value}

theorem proposed_self (config : Value) : Proposed .null config config where
  id_eq := by
    by_cases hnull : (config.under "id").isNull = true
    · cases hid : config.under "id" with
      | null => rfl
      | _ => simp [hid, Value.isNull] at hnull
    · rw [if_neg hnull]
  key_eq := rfl
  member_eq := rfl

theorem plan_new (hproposed : proposed.isNull = false) (config : Value) : (plan .null proposed config).state =
    ((proposed.put "id" (if (proposed.under "id").isNull then .unknown else proposed.under "id")).put "key"
      (proposed.under "key")).put "attribute" (proposed.under "attribute") := by
  unfold plan
  rw [PlannedChange.plan_state schema .null hproposed]
  rfl

theorem plans_new {key member : String} (hconfig : Configured config) (hproposed : Proposed .null config proposed)
    (hkey : config.under "key" = .string key) (hmember : config.under "attribute" = .string member) :
    Plans (plan .null proposed config).state key member := by
  rw [plan_new (isNull_proposed hconfig hproposed), hproposed.key_eq, hproposed.member_eq, hkey, hmember]
  constructor <;> simp [Value.put, Value.get?_ofName, Entries.get?_put]

theorem Configured.known (h : Configured config) (hkey : config.under "key" ≠ .unknown)
    (hmember : config.under "attribute" ≠ .unknown) :
    ∃ key member, config.under "key" = .string key ∧ config.under "attribute" = .string member ∧
      key ∈ CustomAttributes.keys := by
  obtain ⟨key, hallowed, hkey⟩ := h.key_given.resolve_left hkey
  obtain ⟨member, hmember⟩ := h.member_given.resolve_left hmember
  exact ⟨key, member, hkey, hmember, hallowed⟩

end

/-! ## What is sent -/

section

variable {c : Client} {access : ProviderAccess} {planned : Value} {key member : String} {st st' : Script}
  {log : List (Call kind)} {response : ChangeResponse}

theorem create_of_plans (hplans : Plans planned key member) :
    (⟨some access⟩ : CustomAttributeResource).create planned =
      (Lifecycle.create kind access.topology key member).run.map (created planned) := by
  have hparts : plannedParts planned = .ok (key, member) := plannedParts_eq_ok.2 hplans
  unfold create
  rw [hparts]

/-- **The first request of a creation adds the member.** -/
theorem adds_of_create (hplans : Plans planned key member) (hallowed : key ∈ CustomAttributes.keys) (hne : member ≠ "")
    (h : Runs (server c Script.transport) ((⟨some access⟩ : CustomAttributeResource).create planned)
      st log response st') :
    ∃ post rest, st'.requests = st.requests ++ post :: rest ∧
      CustomAttributes.Changes c access.topology .add key member post := by
  have hnames : (Operation.create key member).Names kind key member := ⟨hallowed, hne, rfl, rfl⟩
  obtain ⟨id, htarget, rfl, rfl⟩ := CustomAttributes.names_target_iff.1 hnames
  rw [create_of_plans hplans] at h
  obtain ⟨result, hrun, -⟩ := Program.runs_map.1 h
  have haction : Runs (server c Script.transport)
      ((Operation.create id.key id.member).action kind access.topology).run st log (result.map Answer.member) st' :=
    Program.runs_map.2 ⟨result, hrun, rfl⟩
  obtain ⟨post, gets, hsent, hchanges, -⟩ := CustomAttributes.sent_create htarget haction
  exact ⟨post, gets, by rw [(CustomAttributes.runs_script h).requests, hsent], hchanges⟩

/-- **A creation without a text is refused** before anything is sent. -/
theorem refused_of_create (hplans : Plans planned key "") (hallowed : key ∈ CustomAttributes.keys)
    (h : Runs (server c Script.transport) ((⟨some access⟩ : CustomAttributeResource).create planned)
      st log response st') :
    st' = st ∧ response = ⟨planned,
      [.error "Failed to create custom attribute" (IdError.emptyPart (key ++ "~") "attribute").message]⟩ := by
  have hencode : Lifecycle.encode kind key "" = .error (.malformedId (.emptyPart (key ++ "~") "attribute")) := by
    have hkeys : ∀ k ∈ CustomAttributes.keys,
        MemberId.ofParts k "" = .error (.emptyPart (k ++ "~") "attribute") := by decide
    rw [Lifecycle.encode_of_valid (Lifecycle.validateKey_of_mem hallowed), hkeys key hallowed]
    rfl
  rw [create_of_plans hplans] at h
  obtain ⟨result, hrun, rfl⟩ := Program.runs_map.1 h
  rw [Lifecycle.run_create, hencode] at hrun
  obtain ⟨-, rfl, rfl⟩ := Program.runs_done.1 hrun
  exact ⟨rfl, rfl⟩

end

/-- **When the planned creation of a valid configuration adds its member.**  Let a configuration have no problem and a
known key and text, and let a new resource be proposed for it.  Then, whatever the script of replies and the manager,
the creation of the planned state ends, and it sends the addition of the member, before anything else, exactly if the
text is not empty.  If it is empty, the creation sends nothing and ends with the error that the id has an empty part. -/
theorem creation_adds_iff {config proposed : Value} (hvalid : validate config = [])
    (hkey : config.under "key" ≠ .unknown) (hmember : config.under "attribute" ≠ .unknown)
    (hproposed : Proposed .null config proposed) :
    ∃ key member, config.under "key" = .string key ∧ config.under "attribute" = .string member ∧
      key ∈ CustomAttributes.keys ∧
      ∀ (c : Client) (access : ProviderAccess) (script : Script),
        let planned := (plan .null proposed config).state
        ∃ log response script',
          Runs (server c Script.transport) ((⟨some access⟩ : CustomAttributeResource).create planned)
            script log response script' ∧
          ((∃ post rest, script'.requests = script.requests ++ post :: rest ∧
            CustomAttributes.Changes c access.topology .add key member post) ↔ member ≠ "") ∧
          (member = "" → script' = script ∧ response = ⟨planned,
            [.error "Failed to create custom attribute" (IdError.emptyPart (key ++ "~") "attribute").message]⟩) := by
  have hconfig := configured_of_validate hvalid
  obtain ⟨key, member, hkey, hmember, hallowed⟩ := hconfig.known hkey hmember
  have hplans := plans_new hconfig hproposed hkey hmember
  refine ⟨key, member, hkey, hmember, hallowed, fun c access script => ?_⟩
  obtain ⟨log, response, script', hrun, -⟩ :=
    @CustomAttributes.runs_within c _ _ _ (within_create ⟨some access⟩ (plan .null proposed config).state) script
  refine ⟨log, response, script', hrun, ⟨?_, fun hne => adds_of_create hplans hallowed hne hrun⟩, ?_⟩
  · rintro ⟨post, rest, hsent, -⟩ rfl
    obtain ⟨rfl, -⟩ := refused_of_create hplans hallowed hrun
    simp at hsent
  · rintro rfl
    exact refused_of_create hplans hallowed hrun

def tilded : Value := .object [("attribute", .string "a~b"), ("id", .unknown), ("key", .string "CUSTOM_URL")]

/-- A configuration without a text, but not without a value for it. -/
def textless : Value := .object [("attribute", .string ""), ("key", .string "DOMAIN_NAME")]

theorem creation_adds_tilded : validate tilded = [] ∧ tilded.under "key" ≠ .unknown ∧
    tilded.under "attribute" ≠ .unknown ∧ Proposed .null tilded tilded ∧
    ∀ (c : Client) (access : ProviderAccess) (script : Script), ∃ log response script',
      Runs (server c Script.transport)
        ((⟨some access⟩ : CustomAttributeResource).create (plan .null tilded tilded).state)
        script log response script' ∧
      ∃ post rest, script'.requests = script.requests ++ post :: rest ∧
        CustomAttributes.Changes c access.topology .add "CUSTOM_URL" "a~b" post := by
  have hvalid : validate tilded = [] := rfl
  have hkey : tilded.under "key" ≠ .unknown := fun h => nomatch h
  have hmember : tilded.under "attribute" ≠ .unknown := fun h => nomatch h
  refine ⟨hvalid, hkey, hmember, proposed_self tilded, fun c access script => ?_⟩
  obtain ⟨key, member, hk, hm, -, hcreation⟩ := creation_adds_iff hvalid hkey hmember (proposed_self tilded)
  cases hk
  cases hm
  obtain ⟨log, response, script', hrun, hadds, -⟩ := hcreation c access script
  exact ⟨log, response, script', hrun, hadds.2 (by decide)⟩

/-- **A configuration without a text has no problem, and yet its creation sends nothing**, whatever the manager. -/
theorem nothing_added_for_textless : validate textless = [] ∧ textless.under "key" = .string "DOMAIN_NAME" ∧
    textless.under "attribute" = .string "" ∧
    ∀ (c : Client) (access : ProviderAccess) (script : Script), ∃ log script',
      Runs (server c Script.transport)
        ((⟨some access⟩ : CustomAttributeResource).create (plan .null textless textless).state) script log
        ⟨(plan .null textless textless).state,
          [.error "Failed to create custom attribute" (IdError.emptyPart "DOMAIN_NAME~" "attribute").message]⟩ script' ∧
      script'.requests = script.requests := by
  have hvalid : validate textless = [] := rfl
  refine ⟨hvalid, rfl, rfl, fun c access script => ?_⟩
  have hplans := plans_new (configured_of_validate hvalid) (proposed_self textless) rfl rfl
  obtain ⟨log, response, script', hrun, -⟩ :=
    @CustomAttributes.runs_within c _ _ _ (within_create ⟨some access⟩ (plan .null textless textless).state) script
  obtain ⟨rfl, rfl⟩ := refused_of_create hplans (by decide) hrun
  exact ⟨log, _, hrun, rfl⟩

end CustomAttributeResource
end PolicyProvider
