import PolicyProvider.Proofs.Provider.State
import PolicyProvider.Proofs.Schema.Validation
/-!
# Replacement — when a change of a managed custom attribute replaces it

A changed key or text replaces the resource if it is known when the change is planned.  One that is still unknown does
not, and the plan then puts the unknown value into the state of the resource that is kept.  So an update in place, which
the resource refuses, is planned exactly if a key or text is unknown and no known one is another
(`updates_in_place_iff`).
-/
namespace PolicyProvider
namespace CustomAttributeResource

/-- **That a state is proposed for a configuration**: each attribute is as it is configured, except that the id is as it
was where the configuration leaves it null. -/
structure Proposed (prior config proposed : Value) : Prop where
  id_eq : proposed.under "id" = if (config.under "id").isNull then prior.under "id" else config.under "id"
  key_eq : proposed.under "key" = config.under "key"
  member_eq : proposed.under "attribute" = config.under "attribute"

def Agree (a b : Value) : Prop := ∀ name ∈ ["id", "key", "attribute"], a.under name = b.under name

/-! ## Valid configurations -/

structure Configured (config : Value) : Prop where
  id_open : (config.under "id").isSet = false
  key_given : config.under "key" = .unknown ∨ ∃ key ∈ CustomAttributes.keys, config.under "key" = .string key
  member_given : config.under "attribute" = .unknown ∨ ∃ member, config.under "attribute" = .string member

theorem eq_unknown {v : Value} (h : v.isUnknown = true) : v = .unknown := by
  cases v with
  | unknown => rfl
  | _ => cases h

theorem configured_of_validate {config : Value} (h : validate config = []) : Configured config := by
  have hclean : Diagnostic.hasErrors (Schema.validate schema config) = false :=
    (congrArg Diagnostic.hasErrors h).trans Diagnostic.hasErrors_nil
  have hattributes := (Schema.hasErrors_validate_iff schema config).1 hclean
  simp only [schema, List.forall_mem_cons, Attribute.hasErrors_problems_iff] at hattributes
  obtain ⟨hid, hkey, hmember, -⟩ := hattributes
  constructor
  · rw [Value.isSet_eq]
    rcases hid with hunknown | ⟨hnull, -⟩ | ⟨-, hfree, -⟩
    · simp [hunknown]
    · simp [hnull]
    · simp at hfree
  · rcases hkey with hunknown | ⟨-, hrequired⟩ | ⟨hset, -, htype, hchecks⟩
    · exact .inl (eq_unknown hunknown)
    · cases hrequired
    · obtain ⟨key, hkey⟩ := ValueType.eq_string_of_accepts htype hset
      have hcheck := hchecks.1
      rw [hkey] at hcheck
      exact .inr ⟨key, Validator.mem_of_check hcheck, hkey⟩
  · rcases hmember with hunknown | ⟨-, hrequired⟩ | ⟨hset, -, htype, -⟩
    · exact .inl (eq_unknown hunknown)
    · cases hrequired
    · exact .inr (ValueType.eq_string_of_accepts htype hset)

/-! ## The planned change -/

theorem differs_eq_false_iff {was : String} {will : Value} (h : will = .unknown ∨ ∃ s, will = .string s) :
    Attribute.differs (.string was) will = false ↔ will = .unknown ∨ will = .string was := by
  rcases h with rfl | ⟨s, rfl⟩
  · simp [Attribute.differs, Value.isUnknown]
  · simp [differs_string]

theorem requiresReplace_eq_nil_iff (first second : Bool) :
    ((if first then [Path.ofName "key"] else []) ++ if second then [Path.ofName "attribute"] else []) = [] ↔
      first = false ∧ second = false := by
  cases first <;> cases second <;> simp

section

variable {prior config proposed : Value} {key member : String}

theorem isNull_proposed (hconfig : Configured config) (hproposed : Proposed prior config proposed) :
    proposed.isNull = false := by
  have hkey := hproposed.key_eq
  cases proposed with
  | null =>
    rcases hconfig.key_given with hunknown | ⟨k, -, hk⟩
    · rw [hunknown] at hkey
      cases hkey
    · rw [hk] at hkey
      cases hkey
  | _ => rfl

theorem planned_id (hconfig : Configured config) (hproposed : Proposed prior config proposed) :
    (if (proposed.under "id").isSet then proposed.under "id" else prior.under "id") = prior.under "id" := by
  rw [hproposed.id_eq]
  by_cases hnull : (config.under "id").isNull = true
  · simp [hnull]
  · have hopen := hconfig.id_open
    simp [hnull, hopen]

/-- **The planned change for a valid configuration.** -/
theorem plan_configured (hprior : Settled prior key member) (hconfig : Configured config)
    (hproposed : Proposed prior config proposed) :
    (Agree (plan prior proposed config).state prior ↔
      config.under "key" = .string key ∧ config.under "attribute" = .string member) ∧
    ((plan prior proposed config).requiresReplace = [] ↔
      (config.under "key" = .unknown ∨ config.under "key" = .string key) ∧
      (config.under "attribute" = .unknown ∨ config.under "attribute" = .string member)) := by
  have hplan := plan_eq config hprior.isSet_id hprior.isNull (isNull_proposed hconfig hproposed)
  rw [planned_id hconfig hproposed, markIf_markIf_names, Value.under_eq hprior.key_eq,
    Value.under_eq hprior.member_eq, hproposed.key_eq, hproposed.member_eq] at hplan
  have hunder : ∀ name (es : List (String × Value)), (Value.object es).under name = (Entries.get? name es).getD .null :=
    fun name es => by rw [Value.under, Value.get?_ofName, Value.members_object]
  rw [hplan]
  constructor
  · simp [Agree, hunder, Entries.get?_put, Value.under_eq hprior.key_eq, Value.under_eq hprior.member_eq]
  · have hkey := @differs_eq_false_iff key _ (hconfig.key_given.imp_right fun ⟨k, _, hk⟩ => ⟨k, hk⟩)
    have hmember := @differs_eq_false_iff member _ hconfig.member_given
    rw [requiresReplace_eq_nil_iff, hkey, hmember]

/-- **When an update in place is planned.**  For a valid configuration, the planned state is another than the prior one
and yet nothing is replaced exactly if the key or the text is unknown, and each of the two is unknown or as it was. -/
theorem updates_in_place_iff (hprior : Settled prior key member) (hvalid : validate config = [])
    (hproposed : Proposed prior config proposed) :
    (¬ Agree (plan prior proposed config).state prior ∧ (plan prior proposed config).requiresReplace = []) ↔
      (config.under "key" = .unknown ∨ config.under "attribute" = .unknown) ∧
      (config.under "key" = .unknown ∨ config.under "key" = .string key) ∧
      (config.under "attribute" = .unknown ∨ config.under "attribute" = .string member) := by
  obtain ⟨hagree, hreplace⟩ := plan_configured hprior (configured_of_validate hvalid) hproposed
  rw [hagree, hreplace]
  -- where nothing is replaced, the plan is another just if one of the two is unknown
  refine and_congr_left fun ⟨hkey, hmember⟩ => ?_
  constructor
  · intro hother
    rcases hkey with hunknown | hkey
    · exact .inl hunknown
    · exact .inr (hmember.resolve_right fun h => hother ⟨hkey, h⟩)
  · rintro hunknown ⟨hkey, hmember⟩
    rw [hkey, hmember] at hunknown
    rcases hunknown with h | h <;> cases h

end

def held : Value :=
  .object [("attribute", .string "a.com"), ("id", .string "DOMAIN_NAME~a.com"), ("key", .string "DOMAIN_NAME")]

def openText : Value := .object [("attribute", .unknown), ("key", .string "DOMAIN_NAME")]

def openBoth : Value := .object [("attribute", .unknown), ("key", .unknown)]

theorem settled_held : Settled held "DOMAIN_NAME" "a.com" :=
  ⟨rfl, rfl, rfl, by decide, by decide⟩

theorem updates_in_place_on_open_both :
    Settled held "DOMAIN_NAME" "a.com" ∧ validate openBoth = [] ∧
      Proposed held openBoth
        (.object [("attribute", .unknown), ("id", .string "DOMAIN_NAME~a.com"), ("key", .unknown)]) ∧
      ¬ Agree (plan held (.object [("attribute", .unknown), ("id", .string "DOMAIN_NAME~a.com"), ("key", .unknown)])
        openBoth).state held ∧
      (plan held (.object [("attribute", .unknown), ("id", .string "DOMAIN_NAME~a.com"), ("key", .unknown)])
        openBoth).requiresReplace = [] := by
  have hvalid : validate openBoth = [] := rfl
  have hproposed : Proposed held openBoth
      (.object [("attribute", .unknown), ("id", .string "DOMAIN_NAME~a.com"), ("key", .unknown)]) := ⟨rfl, rfl, rfl⟩
  refine ⟨settled_held, hvalid, hproposed, ?_⟩
  exact (updates_in_place_iff settled_held hvalid hproposed).2 ⟨.inl rfl, .inl rfl, .inl rfl⟩

/-- **A text that is still unknown is planned into the state that is kept.** -/
theorem kept_with_open_text :
    Settled held "DOMAIN_NAME" "a.com" ∧ validate openText = [] ∧
      Proposed held openText
        (.object [("attribute", .unknown), ("id", .string "DOMAIN_NAME~a.com"), ("key", .string "DOMAIN_NAME")]) ∧
      ¬ (Agree (plan held
          (.object [("attribute", .unknown), ("id", .string "DOMAIN_NAME~a.com"), ("key", .string "DOMAIN_NAME")])
          openText).state held ∨
        (plan held
          (.object [("attribute", .unknown), ("id", .string "DOMAIN_NAME~a.com"), ("key", .string "DOMAIN_NAME")])
          openText).requiresReplace ≠ []) := by
  have hvalid : validate openText = [] := rfl
  have hproposed : Proposed held openText
      (.object [("attribute", .unknown), ("id", .string "DOMAIN_NAME~a.com"), ("key", .string "DOMAIN_NAME")]) :=
    ⟨rfl, rfl, rfl⟩
  obtain ⟨hagree, hreplace⟩ := plan_configured settled_held (configured_of_validate hvalid) hproposed
  refine ⟨settled_held, hvalid, hproposed, ?_⟩
  rintro (h | h)
  · cases (hagree.1 h).2
  · exact h (hreplace.2 ⟨.inr rfl, .inl rfl⟩)

end CustomAttributeResource
end PolicyProvider
