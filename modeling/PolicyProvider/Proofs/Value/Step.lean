import PolicyProvider.Proofs.Value.Path
/-!
# Step — one step into a value

A step of reading leads to a place: under a name or at an index.  A step of setting enters a member of an object or an
item of a list (`Enters`), or stops there (`Stops`): `setAt` does no more than enter, set behind the step, and put back
what came of it (`Enters.setAt`, `Stops.setAt`).  So what holds of setting is proved along its way (`setAt_induction`);
where there is something to read, that is the way of reading (`setAt_of_get?`).
-/
namespace PolicyProvider

/-- Where a step leads: an attribute name and an element key lead to the same place. -/
def Step.place : Step → String ⊕ Int
  | .name s => .inl s
  | .key s => .inl s
  | .index i => .inr i

theorem Step.place_eq_inl {step : Step} {name : String} (h : step.member? = some name) : step.place = .inl name := by
  cases step with
  | index i => cases h
  | _ => exact congrArg Sum.inl (Option.some.inj h)

namespace Path

def places (p : Path) : List (String ⊕ Int) := p.steps.map Step.place

/-- That a path is the first part of another, or all of it. -/
def Leads (p q : Path) : Prop := p.places <+: q.places

/-- That neither of two paths leads to the other. -/
def Apart (p q : Path) : Prop := ¬ p.Leads q ∧ ¬ q.Leads p

instance (p q : Path) : Decidable (p.Leads q) := inferInstanceAs (Decidable (_ <+: _))

instance (p q : Path) : Decidable (p.Apart q) := inferInstanceAs (Decidable (_ ∧ _))

theorem root_leads (p : Path) : root.Leads p := List.nil_prefix

theorem not_leads_root {step : Step} {rest : List Step} : ¬ Leads ⟨step :: rest⟩ ⟨[]⟩ := by
  simp [Leads, places]

theorem leads_cons {s t : Step} {rest rest' : List Step} :
    Leads ⟨s :: rest⟩ ⟨t :: rest'⟩ ↔ s.place = t.place ∧ Leads ⟨rest⟩ ⟨rest'⟩ := by
  simp [Leads, places]

theorem apart_cons {s t : Step} {rest rest' : List Step} :
    Apart ⟨s :: rest⟩ ⟨t :: rest'⟩ ↔ s.place ≠ t.place ∨ Apart ⟨rest⟩ ⟨rest'⟩ := by
  unfold Apart
  rw [leads_cons, leads_cons, eq_comm (a := t.place)]
  by_cases hplace : s.place = t.place <;> simp [hplace]

theorem Apart.ne_root {p q : Path} (h : p.Apart q) : p ≠ .root := by
  rintro rfl
  exact h.1 (root_leads q)

end Path

namespace Value

/-! ## Reading -/

theorem get?_cons (v : Value) (step : Step) (rest : List Step) :
    v.get? ⟨step :: rest⟩ = (v.step? step).bind fun w => w.get? ⟨rest⟩ := by
  unfold get?
  rw [List.foldlM_cons]
  rfl

theorem step?_object {step : Step} {name : String} (h : step.member? = some name) (members : List (String × Value)) :
    (object members).step? step = Entries.get? name members := by
  cases step with
  | index i => cases h
  | _ =>
    cases h
    rfl

theorem step?_of_place {s t : Step} (h : s.place = t.place) (v : Value) : v.step? s = v.step? t := by
  cases s <;> cases t <;> cases h <;> cases v <;> rfl

theorem get?_of_places {p q : Path} (h : p.places = q.places) (v : Value) : v.get? p = v.get? q := by
  obtain ⟨steps⟩ := p
  obtain ⟨others⟩ := q
  induction steps generalizing v others with
  | nil =>
    cases others with
    | nil => rfl
    | cons t others => cases h
  | cons s rest ih =>
    cases others with
    | nil => cases h
    | cons t others =>
      obtain ⟨hplace, hrest⟩ := List.cons.inj h
      have hbehind : ∀ w : Value, w.get? ⟨rest⟩ = w.get? ⟨others⟩ := fun w => ih w others hrest
      rw [get?_cons, get?_cons, step?_of_place hplace]
      simp only [hbehind]

theorem position?_eq_some {length n : Nat} {i : Int} : position? length i = some n ↔ i = n ∧ n < length := by
  unfold position?
  split
  · rw [Option.some.injEq]
    omega
  · simp only [reduceCtorEq, false_iff]
    omega

theorem get?_eq_none_of_leads {p q : Path} (h : p.Leads q) {v : Value} (hp : v.get? p = none) : v.get? q = none := by
  obtain ⟨steps⟩ := p
  obtain ⟨others⟩ := q
  induction steps generalizing v others with
  | nil => cases hp
  | cons s rest ih =>
    cases others with
    | nil => exact absurd h Path.not_leads_root
    | cons t others =>
      obtain ⟨hplace, hrest⟩ := Path.leads_cons.1 h
      rw [get?_cons, step?_of_place hplace] at hp
      rw [get?_cons]
      cases hstep : v.step? t with
      | none => rfl
      | some w =>
        rw [hstep] at hp
        exact ih hp others hrest

/-! ## Entering -/

/-- What setting goes on with after a step: the member of an object, or an empty object in its place if it is no
container, or the item of a list. -/
inductive Enters : Value → Step → Value → Prop
  | member {members : List (String × Value)} {step : Step} {name : String} (hname : step.member? = some name) :
      Enters (.object members) step (container (Entries.get? name members))
  | item {items : List Value} {i : Int} {n : Nat} {w : Value} (hn : position? items.length i = some n)
      (hw : items[n]? = some w) : Enters (.list items) (.index i) w

def Stops (v : Value) (step : Step) : Prop := ∀ c, ¬ Enters v step c

def replaced (v : Value) (step : Step) (w : Value) : Value :=
  match v, step.member?, step with
  | .object members, some name, _ => .object (Entries.put name w members)
  | .list items, _, .index i => .list (items.set i.toNat w)
  | v, _, _ => v

theorem replaced_object {step : Step} {name : String} (h : step.member? = some name) (members : List (String × Value))
    (w : Value) : (object members).replaced step w = .object (Entries.put name w members) := by
  unfold replaced
  rw [h]

theorem replaced_list {length n : Nat} {i : Int} (h : position? length i = some n) (items : List Value) (w : Value) :
    (list items).replaced (.index i) w = .list (items.set n w) := by
  have hnat : i.toNat = n := by
    have hi := (position?_eq_some.1 h).1
    omega
  rw [← hnat]
  rfl

variable {v c : Value} {step : Step}

/-- **One step of setting**, if there is something to enter. -/
theorem Enters.setAt (h : Enters v step c) (whole : Path) (w : Value) (rest : List Step) :
    setAt whole w (step :: rest) v =
      ⟨v.replaced step (setAt whole w rest c).value, (setAt whole w rest c).error⟩ := by
  cases h with
  | member hname =>
    rw [replaced_object hname]
    cases step with
    | index i => cases hname
    | _ =>
      cases hname
      rfl
  | item hn hw =>
    rw [replaced_list hn, Value.setAt]
    simp only [hn, hw, Option.getD_some]

theorem Stops.setAt (h : Stops v step) (whole : Path) (rest : List Step) :
    ∃ e, ∀ w, setAt whole w (step :: rest) v = ⟨v, some e⟩ := by
  cases v with
  | object members =>
    cases step with
    | index i => exact ⟨.invalid whole, fun w => rfl⟩
    | _ => exact absurd (.member rfl) (h _)
  | list items =>
    cases step with
    | index i =>
      cases hn : position? items.length i with
      | some n =>
        have hlt := (position?_eq_some.1 hn).2
        exact absurd (.item hn (List.getElem?_eq_getElem hlt)) (h _)
      | none =>
        refine ⟨if rest.isEmpty then .invalid whole else .outOfBounds i items.length, fun w => ?_⟩
        rw [Value.setAt]
        simp only [hn]
    | _ => exact ⟨.invalid whole, fun w => rfl⟩
  | _ => exact ⟨.invalid whole, fun w => rfl⟩

theorem Stops.step? (h : Stops v step) : v.step? step = none := by
  cases hstep : v.step? step with
  | none => rfl
  | some w =>
    cases v with
    | object members =>
      cases step with
      | index i => cases hstep
      | _ => exact absurd (.member rfl) (h _)
    | list items =>
      cases step with
      | index i =>
        obtain ⟨n, hn, hw⟩ := Option.bind_eq_some_iff.1 hstep
        exact absurd (.item hn hw) (h w)
      | _ => cases hstep
    | _ => cases hstep

theorem exists_enters {w : Value} (h : v.step? step = some w) : ∃ c, Enters v step c := by
  by_contra hnone
  rw [Stops.step? (not_exists.1 hnone)] at h
  cases h

theorem Stops.get? (h : Stops v step) (rest : List Step) : v.get? ⟨step :: rest⟩ = none := by
  rw [get?_cons, h.step?]
  rfl

/-! ## Steps to the same place -/

theorem Enters.of_place (h : Enters v step c) {other : Step} (hplace : step.place = other.place) :
    Enters v other c := by
  cases h with
  | member hname =>
    rw [Step.place_eq_inl hname] at hplace
    cases other with
    | index j => cases hplace
    | _ =>
      cases hplace
      exact .member rfl
  | item hn hw =>
    cases other with
    | index j =>
      cases hplace
      exact .item hn hw
    | _ => cases hplace

theorem Stops.of_place (h : Stops v step) {other : Step} (hplace : step.place = other.place) : Stops v other := by
  intro c hc
  exact h c (hc.of_place hplace.symm)

theorem Enters.replaced_of_place (h : Enters v step c) {other : Step} (hplace : step.place = other.place) (w : Value) :
    v.replaced other w = v.replaced step w := by
  cases h with
  | member hname =>
    rw [Step.place_eq_inl hname] at hplace
    rw [replaced_object hname]
    cases other with
    | index j => cases hplace
    | _ =>
      cases hplace
      rfl
  | item hn hw =>
    cases other with
    | index j =>
      cases hplace
      rfl
    | _ => cases hplace

/-- **Induction along the way that setting takes**: it is at the end of the steps, or enters something, or stops. -/
@[elab_as_elim]
theorem setAt_induction {P : List Step → Value → Prop} (reached : ∀ v, P [] v)
    (entered : ∀ {v step c} rest, Enters v step c → P rest c → P (step :: rest) v)
    (stopped : ∀ {v step} rest, Stops v step → P (step :: rest) v) (steps : List Step) (v : Value) : P steps v := by
  induction steps generalizing v with
  | nil => exact reached v
  | cons step rest ih =>
    by_cases h : ∃ c, Enters v step c
    · obtain ⟨c, hc⟩ := h
      exact entered rest hc (ih c)
    · exact stopped rest (not_exists.1 h)

/-! ## What was put behind a step -/

namespace Enters

theorem step?_replaced (h : Enters v step c) (w : Value) : (v.replaced step w).step? step = some w := by
  cases h with
  | member hname => rw [replaced_object hname, step?_object hname, Entries.get?_put_self]
  | item hn hw =>
    have hlt := (position?_eq_some.1 hn).2
    rw [replaced_list hn]
    simp [Value.step?, hn, hlt]

theorem step?_replaced_of_ne (h : Enters v step c) {other : Step} (hne : other.place ≠ step.place) (w : Value) :
    (v.replaced step w).step? other = v.step? other := by
  cases h with
  | @member members step name hname =>
    rw [replaced_object hname]
    cases hother : other.member? with
    | some o =>
      have hnames : o ≠ name := by
        intro heq
        apply hne
        rw [Step.place_eq_inl hother, Step.place_eq_inl hname, heq]
      rw [step?_object hother, step?_object hother, Entries.get?_put_of_ne hnames]
    | none =>
      cases other with
      | index j => rfl
      | _ => cases hother
  | @item items i n _ hn hw =>
    rw [replaced_list hn]
    cases other with
    | index j =>
      simp only [Value.step?, List.length_set]
      cases hm : position? items.length j with
      | none => rfl
      | some m =>
        have hapart : n ≠ m := by
          rintro rfl
          apply hne
          have hi := (position?_eq_some.1 hn).1
          have hj := (position?_eq_some.1 hm).1
          rw [hi, hj]
        simp only [Option.bind_some, List.getElem?_set_ne hapart]
    | _ => rfl

theorem replaced (h : Enters v step c) (w : Value) :
    ∃ d, Enters (v.replaced step w) step d ∧ (d = w ∨ d = container (some w)) := by
  cases h with
  | @member members step name hname =>
    refine ⟨container (some w), ?_, .inr rfl⟩
    have hmember : Enters (.object (Entries.put name w members)) step _ := .member hname
    rw [Entries.get?_put_self] at hmember
    rwa [replaced_object hname]
  | item hn hc =>
    refine ⟨w, ?_, .inl rfl⟩
    have hlt := (position?_eq_some.1 hn).2
    rw [replaced_list hn]
    exact .item (by rwa [List.length_set]) (by simp [hlt])

theorem replaced_replaced (h : Enters v step c) (w u : Value) :
    (v.replaced step w).replaced step u = v.replaced step u := by
  cases h with
  | member hname => rw [replaced_object hname, replaced_object hname, replaced_object hname, Entries.put_put]
  | item hn hw => rw [replaced_list hn, replaced_list hn, replaced_list hn, List.set_set]

theorem replaced_self (h : Enters v step c) (hv : v.Canonical) {w : Value} (hw : v.step? step = some w) :
    v.replaced step w = v := by
  cases h with
  | member hname =>
    rw [step?_object hname] at hw
    rw [replaced_object hname, Entries.put_eq_self (canonical_object.1 hv).1 hw]
  | item hn hc =>
    rw [Value.step?, hn, Option.bind_some, List.getElem?_eq_some_iff] at hw
    obtain ⟨-, rfl⟩ := hw
    rw [replaced_list hn, List.set_getElem_self]

theorem canonical (h : Enters v step c) (hv : v.Canonical) {w : Value} (hw : v.step? step = some w) : w.Canonical := by
  cases h with
  | member hname =>
    rw [step?_object hname] at hw
    exact (canonical_object.1 hv).2 _ (Entries.mem_of_get? hw)
  | item hn hc =>
    rw [Value.step?, hn, Option.bind_some] at hw
    exact canonical_list.1 hv w (List.mem_of_getElem? hw)

end Enters

/-! ## What is read behind a step -/

theorem get?_container (r : Option Value) {rest : List Step} (hrest : rest ≠ []) :
    (container r).get? ⟨rest⟩ = r.bind fun w => w.get? ⟨rest⟩ := by
  cases rest with
  | nil => exact absurd rfl hrest
  | cons step rest =>
    have hempty : empty.get? ⟨step :: rest⟩ = none := by
      rw [get?_cons]
      cases step <;> rfl
    cases r with
    | none => exact hempty
    | some w =>
      cases w with
      | object members => rfl
      | list items => rfl
      | _ => exact hempty

theorem container_of_get? {w u : Value} {rest : List Step} (hrest : rest ≠ []) (h : w.get? ⟨rest⟩ = some u) :
    container (some w) = w := by
  cases rest with
  | nil => exact absurd rfl hrest
  | cons step rest =>
    cases w with
    | object members => rfl
    | list items => rfl
    | _ => cases h

theorem Enters.get? (h : Enters v step c) {rest : List Step} (hrest : rest ≠ []) :
    v.get? ⟨step :: rest⟩ = c.get? ⟨rest⟩ := by
  rw [get?_cons]
  cases h with
  | member hname => rw [step?_object hname, get?_container _ hrest]
  | item hn hc => rw [Value.step?, hn, Option.bind_some, hc, Option.bind_some]

theorem Enters.step?_of_get? (h : Enters v step c) {rest : List Step} (hrest : rest ≠ []) {w : Value}
    (hw : v.get? ⟨step :: rest⟩ = some w) : v.step? step = some c := by
  rw [get?_cons] at hw
  obtain ⟨d, hd, hget⟩ := Option.bind_eq_some_iff.1 hw
  cases h with
  | member hname =>
    rw [step?_object hname] at hd ⊢
    rw [hd, container_of_get? hrest hget]
  | item hn hc => rwa [Value.step?, hn, Option.bind_some]

/-- **Where something is read, setting goes where reading goes.** -/
theorem setAt_of_get? {w u : Value} {rest : List Step} (hw : v.step? step = some w) (hu : w.get? ⟨rest⟩ = some u)
    (whole : Path) (x : Value) : setAt whole x (step :: rest) v =
      ⟨v.replaced step (setAt whole x rest w).value, (setAt whole x rest w).error⟩ := by
  obtain ⟨c, hc⟩ := exists_enters hw
  rw [hc.setAt]
  cases rest with
  | nil => rfl
  | cons next rest =>
    have hread : v.get? ⟨step :: next :: rest⟩ = some u := by rw [get?_cons, hw, Option.bind_some, hu]
    have hstep := hc.step?_of_get? (List.cons_ne_nil next rest) hread
    rw [hw] at hstep
    cases hstep
    rfl

end Value
end PolicyProvider
