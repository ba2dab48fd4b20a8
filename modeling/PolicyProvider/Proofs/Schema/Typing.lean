import PolicyProvider.Proofs.Schema.Locality
import PolicyProvider.Proofs.Schema.PartType
import PolicyProvider.Proofs.Schema.Validation
/-!
# Typing — planned values have the types that are declared

A configuration without an error has, under each declared name, a value of every type that is declared for it, and one
that is not null where a declaration requires it.  What is planned under a name is the configured value, the prior one
or unknown, so it has these types too if the prior state has them; and a value that is not null is planned as one that
is not null (`plan_typed`).
-/
namespace PolicyProvider

namespace Attribute

theorem accepts_of_problems {a : Attribute} {v : Value} (h : Diagnostic.hasErrors (a.problems v) = false) :
    a.type.accepts v = true := by
  rcases (a.hasErrors_problems_iff v).1 h with hunknown | ⟨hnull, -⟩ | ⟨-, -, haccepts, -⟩
  · cases v with
    | unknown => exact a.type.accepts_unknown
    | _ => cases hunknown
  · rw [Value.isNull_iff.1 hnull]
    exact a.type.accepts_null
  · exact haccepts

theorem isNull_of_problems {a : Attribute} {v : Value} (h : Diagnostic.hasErrors (a.problems v) = false)
    (hrequired : a.required = true) : v.isNull = false := by
  cases v with
  | null =>
    rcases (a.hasErrors_problems_iff .null).1 h with hunknown | ⟨-, hoptional⟩ | ⟨hset, -⟩
    · cases hunknown
    · rw [hrequired] at hoptional
      cases hoptional
    · cases hset
  | _ => rfl

theorem accepts_drafted {a : Attribute} {type : ValueType} {prior proposed : Value}
    (hprior : type.accepts (prior.under a.name) = true) (hproposed : type.accepts (proposed.under a.name) = true) :
    type.accepts (a.drafted prior proposed).1 = true := by
  rcases a.drafted_plan_cases prior proposed with hplan | hplan | hplan
  · rw [hplan, hproposed]
  · rw [hplan, hprior]
  · rw [hplan, type.accepts_unknown]

theorem isNull_drafted {a : Attribute} {proposed : Value} (h : (proposed.under a.name).isNull = false) (prior : Value) :
    (a.drafted prior proposed).1.isNull = false := by
  have hdrawn : a.drawn proposed = proposed.under a.name := drawn_eq_under fun _ => h
  rw [drafted_plan, hdrawn]
  split
  · exact h
  · unfold carriedOver
    split
    · rename_i hcarried
      obtain ⟨-, -, hset⟩ := hcarried
      rw [Value.isSet_eq] at hset
      simp_all
    · exact h

end Attribute

namespace Schema

/-- **That a state has the declared types**: under each declared name a value of the type, be it none or null. -/
def Typed (s : Schema) (state : Value) : Prop := ∀ a ∈ s.attributes, a.type.accepts (state.under a.name) = true

/-- **That a state is proposed for a configuration**: each attribute is as it is configured or, where it is computed and
configured as null, as it was. -/
def Proposes (s : Schema) (prior config proposed : Value) : Prop :=
  ∀ a ∈ s.attributes, proposed.under a.name = config.under a.name ∨
    a.computed = true ∧ (config.under a.name).isNull = true ∧ proposed.under a.name = prior.under a.name

variable {s : Schema} {prior config proposed : Value}

theorem typed_null (s : Schema) : s.Typed .null := fun a _ => a.type.accepts_null

theorem Proposes.typed (h : s.Proposes prior config proposed)
    (hvalid : Diagnostic.hasErrors (s.validate config) = false) (hprior : s.Typed prior) : s.Typed proposed := by
  intro a ha
  rcases h a ha with hconfig | ⟨-, -, hwas⟩
  · rw [hconfig]
    exact Attribute.accepts_of_problems ((s.hasErrors_validate_iff config).1 hvalid a ha)
  · rw [hwas]
    exact hprior a ha

theorem Proposes.isNull (h : s.Proposes prior config proposed)
    (hvalid : Diagnostic.hasErrors (s.validate config) = false) {a : Attribute} (ha : a ∈ s.attributes)
    (hrequired : a.required = true) : (proposed.under a.name).isNull = false := by
  have hconfigured : (config.under a.name).isNull = false :=
    Attribute.isNull_of_problems ((s.hasErrors_validate_iff config).1 hvalid a ha) hrequired
  rcases h a ha with hconfig | ⟨-, hnull, -⟩
  · rw [hconfig, hconfigured]
  · rw [hconfigured] at hnull
    cases hnull

theorem get?_plan (hproposed : proposed.isNull = false) (prior config : Value) {a : Attribute} (ha : a ∈ s.attributes) :
    ∃ b ∈ s.attributes, b.name = a.name ∧
      (s.plan prior proposed config).state.get? (.ofName a.name) = some (b.drafted prior proposed).1 :=
  (PlannedChange.planned s prior hproposed config).get?_of_declared ⟨a, ha, rfl⟩

/-- **Planning preserves types**, for every schema, its names given once or more often, and whatever its checks and
modifiers are.  Let no error be found in a configuration, whatever it is warned of, let the prior state be null or have
the declared types, and let a state be proposed for the two.  Then there is a planned value under each declared name,
unless null is proposed; it has the type of each declaration, and it is not null where a declaration requires it. -/
theorem plan_typed (hvalid : Diagnostic.hasErrors (s.validate config) = false)
    (hprior : prior.isNull = true ∨ s.Typed prior) (hproposed : s.Proposes prior config proposed) :
    ∀ a ∈ s.attributes,
      (proposed.isNull = false → ((s.plan prior proposed config).state.get? (.ofName a.name)).isSome = true) ∧
      a.type.accepts ((s.plan prior proposed config).state.under a.name) = true ∧
      (a.required = true → ((s.plan prior proposed config).state.under a.name).isNull = false) := by
  intro a ha
  have hwas : s.Typed prior := by
    rcases hprior with hnull | htyped
    · rw [Value.isNull_iff.1 hnull]
      exact s.typed_null
    · exact htyped
  have htyped : s.Typed proposed := hproposed.typed hvalid hwas
  cases hnull : proposed.isNull with
  | true =>
    have hplan : s.plan prior proposed config = { state := proposed } := if_pos hnull
    rw [hplan]
    exact ⟨(fun h => nomatch h), htyped a ha, fun hrequired => hproposed.isNull hvalid ha hrequired⟩
  | false =>
    obtain ⟨b, -, hname, hget⟩ := get?_plan hnull prior config ha
    have hunder : (s.plan prior proposed config).state.under a.name = (b.drafted prior proposed).1 :=
      Value.under_eq hget
    refine ⟨fun _ => by rw [hget]; rfl, ?_, fun hrequired => ?_⟩
    · rw [hunder]
      refine Attribute.accepts_drafted ?_ ?_
      · rw [hname]
        exact hwas a ha
      · rw [hname]
        exact htyped a ha
    · rw [hunder]
      refine Attribute.isNull_drafted ?_ prior
      rw [hname]
      exact hproposed.isNull hvalid ha hrequired

def portLeftOpen : Diagnostic := .warning "Port left open" "0 stands for every port"

/-- A schema with a type inside another, a name declared twice, and a check of its own that warns of all values. -/
def nested : Schema :=
  { attributes :=
      [{ name := "id", type := .string, computed := true, modifiers := [.useStateForUnknown] },
        { name := "rules", type := .list (.object [("port", .number), ("tags", .set .string)]), required := true,
          validators := [.other "no port left open" fun _ _ => [portLeftOpen]], modifiers := [.requiresReplace] },
        { name := "rules", type := .list (.map .number), optional := true, modifiers := [.useStateForUnknown] }] }

def bare : Value := .object [("id", .string "a"), ("rules", .list [.object []])]

def ported : Value := .object [("rules", .list [.object [("port", .number (.ofBits 0))]])]

def reported : Value := .object [("id", .string "a"), ("rules", .list [.object [("port", .number (.ofBits 0))]])]

/-- The new rule draws a warning, and is planned with the type of either declaration. -/
theorem plan_typed_on_nested :
    nested.validate ported = [portLeftOpen] ∧ Diagnostic.hasErrors (nested.validate ported) = false ∧
      nested.Typed bare ∧ nested.Proposes bare ported reported ∧
      (ValueType.list (.object [("port", .number), ("tags", .set .string)])).accepts
        ((nested.plan bare reported ported).state.under "rules") = true ∧
      (ValueType.list (.map .number)).accepts ((nested.plan bare reported ported).state.under "rules") = true ∧
      ((nested.plan bare reported ported).state.under "rules").isNull = false := by
  have hwarned : nested.validate ported = [portLeftOpen] := rfl
  have hvalid : Diagnostic.hasErrors (nested.validate ported) = false := rfl
  have htyped : nested.Typed bare := by
    simp only [Typed, nested, List.forall_mem_cons, List.not_mem_nil, false_imp_iff, implies_true, and_true]
    exact ⟨rfl, rfl, rfl⟩
  have hproposed : nested.Proposes bare ported reported := by
    simp only [Proposes, nested, List.forall_mem_cons, List.not_mem_nil, false_imp_iff, implies_true, and_true]
    exact ⟨.inr ⟨trivial, rfl, rfl⟩, .inl rfl, .inl rfl⟩
  have hplan := plan_typed hvalid (.inr htyped) hproposed
  obtain ⟨-, hfirst, hrequired⟩ := hplan _ (List.mem_cons_of_mem _ (List.mem_cons_self ..))
  obtain ⟨-, hsecond, -⟩ := hplan _ (List.mem_cons_of_mem _ (List.mem_cons_of_mem _ (List.mem_cons_self ..)))
  exact ⟨hwarned, hvalid, htyped, hproposed, hfirst, hsecond, hrequired rfl⟩

end Schema
end PolicyProvider
