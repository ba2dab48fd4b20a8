import PolicyProvider.Proofs.Occurrence
import PolicyProvider.Proofs.Schema.Plan
/-!
# Locality — every attribute is planned by itself

What the modifiers of a declaration leave of its plan is said without running them (`adjusted_plan`), and so is whether
one of them asks for a replacement (`adjusted_asks`).  Planning goes through the declarations one after the other: what
is planned for a name is what the last declaration of it makes, and the paths that force a replacement are those of the
declarations that ask for one, each where it was asked for first (`Planned`).  So a name is planned by its own
declarations and values, whatever else the schema and the states hold (`plan_local`).
-/
namespace PolicyProvider

namespace Attribute

/-! ## The modifiers of one declaration -/

/-- What modifiers leave of a plan: the prior value, if there is one, in place of an open plan that one of them carries
it over to. -/
def carriedOver (was plan : Value) (modifiers : List Modifier) : Value :=
  if .useStateForUnknown ∈ modifiers ∧ plan.isSet = false ∧ was.isSet = true then was else plan

theorem adjusted_concat (was : Value) (modifiers : List Modifier) (m : Modifier) (start : Value × Bool) :
    adjusted was (modifiers ++ [m]) start =
      ((m.apply { state := was, config := .null, plan := (adjusted was modifiers start).1 }).plan,
        (adjusted was modifiers start).2 ||
          (m.apply { state := was, config := .null, plan := (adjusted was modifiers start).1 }).requiresReplace) := by
  unfold adjusted
  rw [List.foldl_concat]

theorem adjusted_plan (was plan : Value) (asked : Bool) (modifiers : List Modifier) :
    (adjusted was modifiers (plan, asked)).1 = carriedOver was plan modifiers := by
  induction modifiers using List.reverseRecOn with
  | nil => simp [adjusted, carriedOver]
  | append_singleton modifiers m ih =>
    rw [adjusted_concat, ih]
    cases m with
    | requiresReplace => simp [Modifier.apply, carriedOver]
    | useStateForUnknown =>
      unfold carriedOver
      by_cases hopen : plan.isSet = false ∧ was.isSet = true
      · by_cases hmem : Modifier.useStateForUnknown ∈ modifiers <;> simp [Modifier.apply, hopen, hmem]
      · -- nothing is open, or there is nothing to carry over
        have hkeep : (!plan.isSet && was.isSet) = false := by
          cases hplan : plan.isSet <;> cases hwas : was.isSet <;> simp_all
        rw [if_neg fun h => hopen h.2, if_neg fun h => hopen h.2]
        simp [Modifier.apply, hkeep]

/-- **Modifiers ask for a replacement** exactly if one of those that may do so finds that the plan, as those before it
leave it, differs from the prior value. -/
theorem adjusted_asks (was plan : Value) (modifiers : List Modifier) :
    (adjusted was modifiers (plan, false)).2 = true ↔
      ∃ before after, modifiers = before ++ .requiresReplace :: after ∧
        differs was (carriedOver was plan before) = true := by
  induction modifiers using List.reverseRecOn with
  | nil => simp [adjusted]
  | append_singleton modifiers m ih =>
    rw [adjusted_concat, Bool.or_eq_true, ih, adjusted_plan]
    constructor
    · rintro (⟨before, after, rfl, hdiffers⟩ | hasks)
      · exact ⟨before, after ++ [m], by simp, hdiffers⟩
      · cases m with
        | requiresReplace => exact ⟨modifiers, [], rfl, hasks⟩
        | useStateForUnknown => cases hasks
    · -- the one that asks is the last modifier, or one of those before it
      rintro ⟨before, after, hsplit, hdiffers⟩
      cases after using List.reverseRecOn with
      | nil =>
        obtain ⟨rfl, hm⟩ := List.append_inj' hsplit rfl
        cases hm
        exact .inr hdiffers
      | append_singleton after last =>
        rw [← List.cons_append, ← List.append_assoc] at hsplit
        obtain ⟨rfl, -⟩ := List.append_inj' hsplit rfl
        exact .inl ⟨before, after, rfl, hdiffers⟩

/-- The plan that modifiers start from: the proposed value, open where a computed attribute is left null. -/
def drawn (a : Attribute) (proposed : Value) : Value :=
  if a.computed && (proposed.under a.name).isNull then .unknown else proposed.under a.name

theorem drawn_eq_under {a : Attribute} {proposed : Value}
    (h : a.computed = true → (proposed.under a.name).isNull = false) : a.drawn proposed = proposed.under a.name := by
  unfold drawn
  rw [if_neg]
  rw [Bool.and_eq_true]
  rintro ⟨hcomputed, hnull⟩
  rw [h hcomputed] at hnull
  cases hnull

/-- **That a declaration asks for a replacement**: the resource is there already, and one of the modifiers that may ask
finds the plan to differ. -/
def Asks (a : Attribute) (prior proposed : Value) : Prop :=
  prior.isNull = false ∧ ∃ before after, a.modifiers = before ++ .requiresReplace :: after ∧
    differs (prior.under a.name) (carriedOver (prior.under a.name) (a.drawn proposed) before) = true

theorem drafted_eq (a : Attribute) (prior proposed : Value) :
    a.drafted prior proposed = if prior.isNull then (a.drawn proposed, false)
      else adjusted (prior.under a.name) a.modifiers (a.drawn proposed, false) := rfl

theorem drafted_plan (a : Attribute) (prior proposed : Value) :
    (a.drafted prior proposed).1 =
      if prior.isNull then a.drawn proposed
      else carriedOver (prior.under a.name) (a.drawn proposed) a.modifiers := by
  rw [drafted_eq]
  split
  · rfl
  · exact adjusted_plan _ _ _ _

theorem drafted_asks {a : Attribute} {prior proposed : Value} :
    (a.drafted prior proposed).2 = true ↔ a.Asks prior proposed := by
  rw [drafted_eq, Asks]
  cases hprior : prior.isNull with
  | true => simp
  | false => simp [adjusted_asks]

instance (a : Attribute) (prior proposed : Value) : Decidable (a.Asks prior proposed) :=
  decidable_of_iff _ drafted_asks

theorem Asks.carries {a : Attribute} {prior proposed : Value} (h : a.Asks prior proposed) :
    .requiresReplace ∈ a.modifiers ∧ (prior.under a.name).isNull = false := by
  obtain ⟨-, before, after, hsplit, hdiffers⟩ := h
  refine ⟨by simp [hsplit], ?_⟩
  unfold differs at hdiffers
  cases hnull : (prior.under a.name).isNull with
  | false => rfl
  | true => simp [hnull] at hdiffers

/-- **The planned value** is the proposed one, the prior one, or open. -/
theorem drafted_plan_cases (a : Attribute) (prior proposed : Value) :
    (a.drafted prior proposed).1 = proposed.under a.name ∨ (a.drafted prior proposed).1 = prior.under a.name ∨
      (a.drafted prior proposed).1 = .unknown := by
  have hdrawn : a.drawn proposed = proposed.under a.name ∨ a.drawn proposed = .unknown := by
    unfold drawn
    split
    · exact .inr rfl
    · exact .inl rfl
  rw [drafted_eq]
  split
  · exact hdrawn.imp_right .inr
  · rw [adjusted_plan, carriedOver]
    split
    · exact .inr (.inl rfl)
    · exact hdrawn.imp_right .inr

theorem drafted_congr {a : Attribute} {prior prior' proposed proposed' : Value}
    (hprior : prior'.under a.name = prior.under a.name) (hproposed : proposed'.under a.name = proposed.under a.name)
    (hnull : prior'.isNull = prior.isNull) : a.drafted prior' proposed' = a.drafted prior proposed := by
  rw [drafted_eq, drafted_eq, drawn, drawn, hprior, hproposed, hnull]

end Attribute

namespace PlannedChange

/-! ## One declaration after the other -/

/-- **The change when some declarations are planned**: there are no problems, a name has what its last declaration makes
of it, or else what is proposed, and the marked paths are those of the declarations that ask for a replacement, in the
order of the first that ask. -/
structure Planned (prior proposed : Value) (declared : List Attribute) (change : PlannedChange) : Prop where
  diagnostics : change.diagnostics = []
  state : ∀ name, change.state.get? (.ofName name) =
    ((declared.filter (·.name = name)).getLast?.map fun a => (a.drafted prior proposed).1).or
      (proposed.get? (.ofName name))
  requiresReplace : change.requiresReplace =
    ((declared.filter fun a => a.Asks prior proposed).map Attribute.path).eraseDups

variable {prior proposed : Value} {declared : List Attribute} {change : PlannedChange}

theorem mark_eraseDups (paths : List Path) (path : Path) : mark paths.eraseDups path = (paths ++ [path]).eraseDups := by
  unfold mark
  by_cases h : path ∈ paths
  · rw [Occurrence.eraseDups_concat_of_mem h, if_pos (List.mem_eraseDups.2 h)]
  · rw [Occurrence.eraseDups_concat_of_not_mem h, if_neg (mt List.mem_eraseDups.1 h)]

theorem Planned.step (h : Planned prior proposed declared change) (config : Value) (a : Attribute) :
    Planned prior proposed (declared ++ [a]) (planAttribute prior proposed config change a) := by
  rw [planAttribute_eq]
  refine ⟨h.diagnostics, fun name => ?_, ?_⟩
  · rw [Value.get?_ofName, Value.members_object, Entries.get?_put, List.filter_append]
    by_cases hname : name = a.name
    · simp [hname]
    · have hstate := h.state name
      rw [Value.get?_ofName] at hstate
      rw [if_neg hname, hstate]
      simp [Ne.symm hname]
  · rw [List.filter_append, List.map_append]
    by_cases hasks : a.Asks prior proposed
    · rw [markIf, if_pos (Attribute.drafted_asks.2 hasks), h.requiresReplace, mark_eraseDups]
      simp [hasks]
    · rw [markIf, if_neg (mt Attribute.drafted_asks.1 hasks), h.requiresReplace]
      simp [hasks]

/-- **Planning through a schema.** -/
theorem planned (s : Schema) (prior : Value) {proposed : Value} (h : proposed.isNull = false) (config : Value) :
    Planned prior proposed s.attributes (s.plan prior proposed config) := by
  have hplan : s.plan prior proposed config =
      s.attributes.foldl (planAttribute prior proposed config) { state := proposed } := by
    rw [Schema.plan, if_neg (by simp [h])]
  rw [hplan]
  induction s.attributes using List.reverseRecOn with
  | nil => exact ⟨rfl, fun name => rfl, rfl⟩
  | append_singleton declared a ih =>
    rw [List.foldl_concat]
    exact ih.step config a

theorem plan_config (s : Schema) (prior proposed config config' : Value) :
    s.plan prior proposed config' = s.plan prior proposed config := by
  have hstep : planAttribute prior proposed config' = planAttribute prior proposed config := by
    funext change a
    rw [planAttribute_eq, planAttribute_eq]
  rw [Schema.plan, Schema.plan, hstep]

namespace Planned

theorem get?_of_undeclared (h : Planned prior proposed declared change) {name : String}
    (hname : ∀ a ∈ declared, a.name ≠ name) : change.state.get? (.ofName name) = proposed.get? (.ofName name) := by
  have hnone : declared.filter (·.name = name) = [] := by
    rw [List.filter_eq_nil_iff]
    simpa using hname
  rw [h.state, hnone]
  rfl

theorem exists_last {name : String} (hname : ∃ a ∈ declared, a.name = name) :
    ∃ a, (declared.filter (·.name = name)).getLast? = some a := by
  obtain ⟨a, ha, hnamed⟩ := hname
  have hne : declared.filter (·.name = name) ≠ [] := List.ne_nil_of_mem (List.mem_filter.2 ⟨ha, by simpa using hnamed⟩)
  exact ⟨_, List.getLast?_eq_some_getLast hne⟩

theorem get?_of_declared (h : Planned prior proposed declared change) {name : String}
    (hname : ∃ a ∈ declared, a.name = name) :
    ∃ a ∈ declared, a.name = name ∧ change.state.get? (.ofName name) = some (a.drafted prior proposed).1 := by
  obtain ⟨a, hlast⟩ := exists_last hname
  obtain ⟨ha, hnamed⟩ := List.mem_filter.1 (List.mem_of_getLast? hlast)
  refine ⟨a, ha, by simpa using hnamed, ?_⟩
  rw [h.state, hlast]
  rfl

theorem mem_requiresReplace (h : Planned prior proposed declared change) {path : Path} :
    path ∈ change.requiresReplace ↔ ∃ a ∈ declared, a.Asks prior proposed ∧ a.path = path := by
  rw [h.requiresReplace, List.mem_eraseDups]
  simp [and_assoc]

theorem ofName_mem_requiresReplace (h : Planned prior proposed declared change) {name : String} :
    .ofName name ∈ change.requiresReplace ↔ ∃ a ∈ declared.filter (·.name = name), a.Asks prior proposed := by
  have hpath : ∀ a : Attribute, a.path = .ofName name ↔ a.name = name := by
    intro a
    simp [Attribute.path, Path.ofName]
  rw [h.mem_requiresReplace]
  constructor
  · rintro ⟨a, ha, hasks, hname⟩
    exact ⟨a, List.mem_filter.2 ⟨ha, by simpa using (hpath a).1 hname⟩, hasks⟩
  · rintro ⟨a, ha, hasks⟩
    obtain ⟨hmem, hname⟩ := List.mem_filter.1 ha
    exact ⟨a, hmem, hasks, (hpath a).2 (by simpa using hname)⟩

theorem congr (h : Planned prior proposed declared change) {prior' proposed' : Value} {declared' : List Attribute}
    {change' : PlannedChange} (h' : Planned prior' proposed' declared' change') {name : String}
    (hname : ∃ a ∈ declared, a.name = name)
    (hdeclared : declared'.filter (·.name = name) = declared.filter (·.name = name))
    (hprior : prior'.under name = prior.under name) (hproposed : proposed'.under name = proposed.under name)
    (hnull : prior'.isNull = prior.isNull) :
    change'.state.get? (.ofName name) = change.state.get? (.ofName name) ∧
      (.ofName name ∈ change'.requiresReplace ↔ .ofName name ∈ change.requiresReplace) := by
  have hdrafted : ∀ a ∈ declared.filter (·.name = name), a.drafted prior' proposed' = a.drafted prior proposed := by
    intro a ha
    obtain ⟨-, hnamed⟩ := List.mem_filter.1 ha
    obtain rfl : a.name = name := by simpa using hnamed
    exact Attribute.drafted_congr hprior hproposed hnull
  constructor
  · obtain ⟨a, hlast⟩ := exists_last hname
    rw [h'.state, h.state, hdeclared, hlast, Option.map_some, Option.map_some, hdrafted a (List.mem_of_getLast? hlast)]
    rfl
  · rw [h'.ofName_mem_requiresReplace, h.ofName_mem_requiresReplace, hdeclared]
    refine exists_congr fun a => and_congr_right fun ha => ?_
    rw [← Attribute.drafted_asks, ← Attribute.drafted_asks, hdrafted a ha]

end Planned

/-- **Planning is local to each attribute and never fails**, for every schema, its names given once or more often, and
every proposal that does not destroy the resource.  It reports no problem and does not look at the configuration.  A
name that is not declared reads as proposed.  A declared name is planned as proposed, as before, or as unknown; that
value, and whether the name is marked for replacement, are the same wherever the declarations of that name, its prior
and its proposed value, and whether there is a prior state, are the same.  The marked paths are those of the
declarations that ask for a replacement, each once and in the order of the first that ask; there are none if there is no
prior state, and each has a declaration that may ask and a prior value. -/
theorem plan_local (s : Schema) (prior config : Value) {proposed : Value} (hproposed : proposed.isNull = false) :
    (s.plan prior proposed config).diagnostics = [] ∧
    (∀ config', s.plan prior proposed config' = s.plan prior proposed config) ∧
    (∀ name, (∀ a ∈ s.attributes, a.name ≠ name) →
      (s.plan prior proposed config).state.get? (.ofName name) = proposed.get? (.ofName name)) ∧
    (∀ name, (∃ a ∈ s.attributes, a.name = name) →
      (∃ value, (s.plan prior proposed config).state.get? (.ofName name) = some value ∧
        (value = proposed.under name ∨ value = prior.under name ∨ value = .unknown)) ∧
      ∀ (s' : Schema) (prior' proposed' config' : Value), proposed'.isNull = false →
        s'.attributes.filter (·.name = name) = s.attributes.filter (·.name = name) →
        prior'.under name = prior.under name → proposed'.under name = proposed.under name →
        prior'.isNull = prior.isNull →
        (s'.plan prior' proposed' config').state.get? (.ofName name) =
            (s.plan prior proposed config).state.get? (.ofName name) ∧
          (.ofName name ∈ (s'.plan prior' proposed' config').requiresReplace ↔
            .ofName name ∈ (s.plan prior proposed config).requiresReplace)) ∧
    (s.plan prior proposed config).requiresReplace =
      ((s.attributes.filter fun a => a.Asks prior proposed).map Attribute.path).eraseDups ∧
    (s.plan prior proposed config).requiresReplace.Nodup ∧
    (prior.isNull = true → (s.plan prior proposed config).requiresReplace = []) ∧
    ∀ path ∈ (s.plan prior proposed config).requiresReplace, ∃ a ∈ s.attributes, a.path = path ∧
      .requiresReplace ∈ a.modifiers ∧ (prior.under a.name).isNull = false := by
  have hplanned := planned s prior hproposed config
  refine ⟨hplanned.diagnostics, plan_config s prior proposed config, ?_, ?_, hplanned.requiresReplace, ?_, ?_, ?_⟩
  · intro name hname
    exact hplanned.get?_of_undeclared hname
  · intro name hname
    constructor
    · obtain ⟨a, -, rfl, hget⟩ := hplanned.get?_of_declared hname
      exact ⟨_, hget, a.drafted_plan_cases prior proposed⟩
    · intro s' prior' proposed' config' hproposed' hdeclared hprior hvalue hnull
      exact hplanned.congr (planned s' prior' hproposed' config') hname hdeclared hprior hvalue hnull
  · rw [hplanned.requiresReplace]
    exact Occurrence.nodup_eraseDups _
  · intro hnull
    rw [List.eq_nil_iff_forall_not_mem]
    intro path hpath
    obtain ⟨a, -, hasks, -⟩ := hplanned.mem_requiresReplace.1 hpath
    rw [hasks.1] at hnull
    cases hnull
  · intro path hpath
    obtain ⟨a, ha, hasks, rfl⟩ := hplanned.mem_requiresReplace.1 hpath
    exact ⟨a, ha, rfl, hasks.carries⟩

def twice : Schema :=
  { attributes :=
      [{ name := "size", type := .number, modifiers := [.requiresReplace] },
        { name := "zone", type := .string, modifiers := [.useStateForUnknown, .requiresReplace] },
        { name := "size", type := .number, computed := true, modifiers := [.useStateForUnknown] }] }

/-- The first declaration asks for a replacement, whatever the second one makes of the value. -/
theorem plan_local_on_twice :
    (Value.object [("color", .bool true)]).isNull = false ∧
      let change := twice.plan (.object [("size", .string "m"), ("zone", .string "a")])
        (.object [("color", .bool true)]) .null
      change.requiresReplace = [.ofName "size"] ∧ change.state.get? (.ofName "color") = some (.bool true) := by
  refine ⟨rfl, ?_⟩
  have hproposed : (Value.object [("color", .bool true)]).isNull = false := rfl
  obtain ⟨-, -, hcolor, -, hmarked, -⟩ :=
    plan_local twice (.object [("size", .string "m"), ("zone", .string "a")]) .null hproposed
  have hdeclared : ∀ a ∈ twice.attributes, a.name ≠ "color" := by simp [twice]
  exact ⟨hmarked.trans (by decide), hcolor "color" hdeclared⟩

end PlannedChange
end PolicyProvider
