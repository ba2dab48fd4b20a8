import PolicyProvider.Proofs.Schema.Locality
/-!
# Stability — planning what is planned already

A plan is the proposed state with a value put under the name of each declaration, in turn (`plan_state`), so that the
last declaration of a name decides.  What that one makes of its own plan is the same again (`drafted_again`): a carried
value is set, so it is neither opened nor carried over once more.  Hence planning a planned state gives it back, and
planning a prior state onto itself, if it has a value for each declaration and none of them is open to be computed,
changes nothing and replaces nothing (`plan_stable`).
-/
namespace PolicyProvider

namespace Value

def isNaN : Value → Bool
  | .number n => n.isNaN
  | _ => false

/-- **That no number in a value is NaN**, so that the value is the same as itself. -/
def NaNFree (v : Value) : Prop := v.Everywhere fun w => w.isNaN = false

instance (v : Value) : Decidable v.NaNFree := inferInstanceAs (Decidable (v.Everywhere fun w => w.isNaN = false))

theorem same_self {v : Value} (h : v.NaNFree) : v.same v = true := by
  unfold NaNFree at h
  induction v using induction with
  | number n =>
    rw [everywhere_number] at h
    simp only [isNaN] at h
    simp [same, Binary64.numEq, h]
  | list items ih =>
    rw [everywhere_list] at h
    have hitems : ∀ vs : List Value, (∀ v ∈ vs, v.same v = true) → sameItems vs vs = true := by
      intro vs hvs
      induction vs with
      | nil => simp [sameItems]
      | cons v vs ihvs => simp_all [sameItems]
    rw [same]
    exact hitems items fun v hv => ih v hv (h.2 v hv)
  | object members ih =>
    rw [everywhere_object] at h
    have hmembers : ∀ ms : List (String × Value), (∀ m ∈ ms, m.2.same m.2 = true) → sameMembers ms ms = true := by
      intro ms hms
      induction ms with
      | nil => simp [sameMembers]
      | cons m ms ihms => simp_all [sameMembers]
    rw [same]
    exact hmembers members fun m hm => ih m hm (h.2 m hm)
  | _ => simp [same]

theorem NaNFree.under {v : Value} (h : v.NaNFree) (name : String) : (v.under name).NaNFree := by
  cases hget : v.get? (.ofName name) with
  | none => simp [Value.under, hget, NaNFree, isNaN]
  | some w =>
    rw [under_eq hget]
    cases v with
    | object members =>
      rw [get?_ofName, members_object] at hget
      exact (everywhere_object.1 h).2 _ (Entries.mem_of_get? hget)
    | _ => cases hget

end Value

namespace Attribute

/-! ## One declaration -/

theorem carriedOver_self (v : Value) (modifiers : List Modifier) : carriedOver v v modifiers = v := by
  unfold carriedOver
  split <;> rfl

theorem isNull_drawn {a : Attribute} (hcomputed : a.computed = true) (proposed : Value) :
    (a.drawn proposed).isNull = false := by
  unfold drawn
  split
  · rfl
  · rename_i hwanted
    simpa [hcomputed] using hwanted

/-- **What a declaration makes of its own plan** is that plan again. -/
theorem drafted_again {a : Attribute} {prior proposed planned : Value}
    (h : planned.under a.name = (a.drafted prior proposed).1) :
    (a.drafted prior planned).1 = (a.drafted prior proposed).1 := by
  have hdrawn : planned.under a.name = a.drawn proposed → a.drawn planned = a.drawn proposed := by
    intro hsame
    rw [← hsame]
    exact drawn_eq_under fun hcomputed => by rw [hsame, isNull_drawn hcomputed]
  rw [drafted_plan] at h ⊢
  rw [drafted_plan]
  split
  · rename_i hprior
    rw [if_pos hprior] at h
    exact hdrawn h
  · rename_i hprior
    rw [if_neg hprior] at h
    by_cases hcarried : .useStateForUnknown ∈ a.modifiers ∧ (a.drawn proposed).isSet = false ∧
        (prior.under a.name).isSet = true
    · -- the prior value is set, so it is planned from as it is, and nothing is left to carry over
      have hplan : carriedOver (prior.under a.name) (a.drawn proposed) a.modifiers = prior.under a.name :=
        if_pos hcarried
      have hset := hcarried.2.2
      rw [hplan] at h ⊢
      rw [drawn_eq_under fun _ => ?_, h, carriedOver_self]
      rw [h]
      cases hwas : prior.under a.name <;> simp_all [Value.isSet, Value.isNull]
    · have hplan : carriedOver (prior.under a.name) (a.drawn proposed) a.modifiers = a.drawn proposed := if_neg hcarried
      rw [hplan] at h
      rw [hdrawn h]

theorem not_asks_self {a : Attribute} {prior : Value} (hfree : prior.NaNFree)
    (h : a.drawn prior = prior.under a.name) : ¬ a.Asks prior prior := by
  rintro ⟨-, before, after, -, hdiffers⟩
  rw [h, carriedOver_self] at hdiffers
  simp [differs, Value.same_self (hfree.under a.name)] at hdiffers

end Attribute

namespace PlannedChange

/-! ## All declarations, in turn -/

def filled (f : Attribute → Value) (declared : List Attribute) (state : Value) : Value :=
  declared.foldl (fun state a => state.put a.name (f a)) state

def IsLast (declared : List Attribute) (a : Attribute) : Prop :=
  ∃ before after, declared = before ++ a :: after ∧ ∀ b ∈ after, b.name ≠ a.name

variable (f : Attribute → Value)

theorem filled_cons (a : Attribute) (declared : List Attribute) (state : Value) :
    filled f (a :: declared) state = filled f declared (state.put a.name (f a)) := rfl

theorem filled_put {declared : List Attribute} {name : String} (hname : ∀ a ∈ declared, a.name ≠ name)
    (state w : Value) : filled f declared (state.put name w) = (filled f declared state).put name w := by
  induction declared generalizing state with
  | nil => rfl
  | cons a declared ih =>
    obtain ⟨hne, hrest⟩ := List.forall_mem_cons.1 hname
    rw [filled_cons, filled_cons, Value.put_comm hne, ih hrest]

theorem filled_put_of_mem {declared : List Attribute} {name : String} (hname : ∃ a ∈ declared, a.name = name)
    (state w : Value) : filled f declared (state.put name w) = filled f declared state := by
  induction declared generalizing state with
  | nil => simp at hname
  | cons a declared ih =>
    rw [filled_cons, filled_cons]
    by_cases hne : a.name = name
    · rw [hne, Value.put_put]
    · have hrest : ∃ b ∈ declared, b.name = name := by simpa [hne] using hname
      rw [Value.put_comm hne, ih hrest]

theorem put_filled {declared : List Attribute} {a : Attribute} (hlast : IsLast declared a) (state : Value) :
    (filled f declared state).put a.name (f a) = filled f declared state := by
  obtain ⟨before, after, rfl, hafter⟩ := hlast
  have hsplit : filled f (before ++ a :: after) state = (filled f after (filled f before state)).put a.name (f a) := by
    rw [← filled_put f hafter]
    exact List.foldl_append
  rw [hsplit, Value.put_put]

theorem filled_eq_self {declared : List Attribute} {state : Value}
    (h : ∀ a, IsLast declared a → state.put a.name (f a) = state) : filled f declared state = state := by
  induction declared with
  | nil => rfl
  | cons a declared ih =>
    have hrest : filled f declared state = state := by
      refine ih fun b hb => h b ?_
      obtain ⟨before, after, rfl, hafter⟩ := hb
      exact ⟨a :: before, after, rfl, hafter⟩
    rw [filled_cons]
    by_cases hlater : ∃ b ∈ declared, b.name = a.name
    · rw [filled_put_of_mem f hlater, hrest]
    · have hlast : IsLast (a :: declared) a := ⟨[], declared, rfl, fun b hb hname => hlater ⟨b, hb, hname⟩⟩
      rw [h a hlast, hrest]

theorem isNull_filled {declared : List Attribute} {state : Value} (h : state.isNull = false) :
    (filled f declared state).isNull = false := by
  induction declared generalizing state with
  | nil => exact h
  | cons a declared ih => exact ih (Value.isNull_put state a.name (f a))

/-- **The planned state**: the proposed one, with a value put for each declaration in turn. -/
theorem plan_state (s : Schema) (prior : Value) {proposed : Value} (h : proposed.isNull = false) (config : Value) :
    (s.plan prior proposed config).state = filled (fun a => (a.drafted prior proposed).1) s.attributes proposed := by
  have hstep : ∀ (change : PlannedChange) (a : Attribute),
      (planAttribute prior proposed config change a).state = change.state.put a.name (a.drafted prior proposed).1 := by
    intro change a
    rw [planAttribute_eq]
    rfl
  rw [Schema.plan, if_neg (by simp [h])]
  exact (List.foldl_hom PlannedChange.state fun change a => (hstep change a).symm).symm

theorem plan_again (s : Schema) (prior proposed config config' : Value) :
    (s.plan prior (s.plan prior proposed config).state config').state = (s.plan prior proposed config).state := by
  cases hproposed : proposed.isNull with
  | true =>
    have hdestroyed : ∀ config, s.plan prior proposed config = { state := proposed } := fun config => if_pos hproposed
    rw [hdestroyed, hdestroyed]
  | false =>
    rw [plan_state s prior hproposed config]
    have hplanned := @isNull_filled (fun a => (a.drafted prior proposed).1) s.attributes proposed hproposed
    rw [plan_state s prior hplanned]
    refine filled_eq_self _ fun a hlast => ?_
    have hput := put_filled (fun a => (a.drafted prior proposed).1) hlast proposed
    have hunder := congrArg (Value.under · a.name) hput.symm
    simp only [Value.under_put_self] at hunder
    rw [Attribute.drafted_again hunder]
    exact hput

/-! ## A prior state onto itself -/

/-- **That a state has a value for each declaration**, and none that is null where it is to be computed. -/
def Complete (s : Schema) (state : Value) : Prop :=
  ∀ a ∈ s.attributes, ∃ value, state.get? (.ofName a.name) = some value ∧ (a.computed = true → value.isNull = false)

theorem Complete.drawn_eq {s : Schema} {state : Value} (h : Complete s state) {a : Attribute} (ha : a ∈ s.attributes) :
    a.drawn state = state.under a.name := by
  obtain ⟨value, hget, hcomputed⟩ := h a ha
  exact Attribute.drawn_eq_under fun hc => by rw [Value.under_eq hget, hcomputed hc]

theorem state_plan_self {s : Schema} {prior : Value} (h : Complete s prior) (hcanonical : prior.Canonical)
    (hprior : prior.isNull = false) (config : Value) : (s.plan prior prior config).state = prior := by
  rw [plan_state s prior hprior]
  refine filled_eq_self _ fun a hlast => ?_
  have ha : a ∈ s.attributes := by
    obtain ⟨before, after, hsplit, -⟩ := hlast
    simp [hsplit]
  obtain ⟨value, hget, -⟩ := h a ha
  rw [Attribute.drafted_plan, if_neg (by simp [hprior]), h.drawn_eq ha, Attribute.carriedOver_self, Value.under_eq hget]
  exact Value.put_eq_self hcanonical hget

theorem requiresReplace_plan_self {s : Schema} {prior : Value} (h : Complete s prior) (hfree : prior.NaNFree)
    (hprior : prior.isNull = false) (config : Value) : (s.plan prior prior config).requiresReplace = [] := by
  rw [List.eq_nil_iff_forall_not_mem]
  intro path hpath
  obtain ⟨a, ha, hasks, -⟩ := (planned s prior hprior config).mem_requiresReplace.1 hpath
  exact Attribute.not_asks_self hfree (h.drawn_eq ha) hasks

/-- **Planning is stable**, for every schema, its names given once or more often.  What is planned from a prior state
and any proposal is planned from the same prior state to be the same again, whatever the configurations are.  And a
prior state without NaN that has a value under each declared name, and none that is null where it is to be computed, is
planned onto itself as it is, with nothing replaced and no problem. -/
theorem plan_stable (s : Schema) (prior : Value) :
    (∀ proposed config config', (s.plan prior (s.plan prior proposed config).state config').state =
      (s.plan prior proposed config).state) ∧
    (prior.Canonical → prior.NaNFree → Complete s prior → ∀ config, s.plan prior prior config = ⟨prior, [], []⟩) := by
  refine ⟨plan_again s prior, fun hcanonical hfree hcomplete config => ?_⟩
  cases hprior : prior.isNull with
  | true => exact if_pos hprior
  | false =>
    calc s.plan prior prior config
        = ⟨(s.plan prior prior config).state, (s.plan prior prior config).requiresReplace,
            (s.plan prior prior config).diagnostics⟩ := rfl
      _ = ⟨prior, [], []⟩ := by
        rw [state_plan_self hcomplete hcanonical hprior, requiresReplace_plan_self hcomplete hfree hprior,
          (planned s prior hprior config).diagnostics]

def sized : Value :=
  .object [("color", .list [.number (.ofBits 0), .unknown]), ("size", .number (.ofBits 4607182418800017408)),
    ("zone", .string "a")]

theorem plan_stable_on_twice :
    sized.Canonical ∧ sized.NaNFree ∧ Complete twice sized ∧ twice.plan sized sized .null = ⟨sized, [], []⟩ := by
  have hcanonical : sized.Canonical := by decide
  have hfree : sized.NaNFree := by decide
  have hcomplete : Complete twice sized := by
    simp only [Complete, twice, List.forall_mem_cons, List.not_mem_nil, false_imp_iff, implies_true, and_true]
    exact ⟨⟨_, rfl, fun _ => rfl⟩, ⟨_, rfl, fun _ => rfl⟩, ⟨_, rfl, fun _ => rfl⟩⟩
  exact ⟨hcanonical, hfree, hcomplete, (plan_stable twice sized).2 hcanonical hfree hcomplete .null⟩

end PlannedChange
end PolicyProvider
