import PolicyProvider.Proofs.Value.Step
/-!
# Lens — what setting a value at a path does to what other paths read

Setting obeys the laws of a lens: what was set is read, the last of two values set is the one that counts, and setting
what is there already changes nothing.  A path that is apart from the one that was set reads as it did, even where
setting failed on the way, and what lies on the way is at most made an object (`Opened`).  All of it holds of a root
that is no list (`set_lawful`); of a list nothing but the root itself can be set (`overwrite_iff`).
-/
namespace PolicyProvider
namespace Value

open PolicyProvider.Path (Leads Apart)

variable {v : Value}

/-- That a reading stayed as it was, or is still a list, or is an object now and was no list. -/
inductive Opened : Option Value → Option Value → Prop
  | same (r : Option Value) : Opened r r
  | list (xs ys : List Value) : Opened (some (.list xs)) (some (.list ys))
  | object {r : Option Value} (hr : ∀ xs, r ≠ some (.list xs)) (members : List (String × Value)) :
      Opened r (some (.object members))

theorem Opened.trans {r s t : Option Value} (h : Opened r s) (h' : Opened s t) : Opened r t := by
  cases h' with
  | same => exact h
  | list xs ys =>
    cases h with
    | same => exact .list xs ys
    | list zs => exact .list zs ys
  | object hs members =>
    cases h with
    | same => exact .object hs members
    | list xs ys => exact absurd rfl (hs ys)
    | object hr => exact .object hr members

theorem opened_container (r : Option Value) : Opened r (some (container r)) := by
  cases r with
  | none => exact .object (by simp) []
  | some w =>
    cases w with
    | list items => exact .same _
    | _ => exact .object (by simp) _

theorem Enters.opened {step : Step} {c : Value} (h : Enters v step c) : Opened (v.step? step) (some c) := by
  cases h with
  | member hname =>
    rw [step?_object hname]
    exact opened_container _
  | item hn hc =>
    rw [Value.step?, hn, Option.bind_some, hc]
    exact .same _

theorem Enters.opened_replaced {step : Step} {c : Value} (h : Enters v step c) (w : Value) :
    Opened (some v) (some (v.replaced step w)) := by
  cases h with
  | member hname =>
    rw [replaced_object hname]
    exact .object (by simp) _
  | item hn hc =>
    rw [replaced_list hn]
    exact .list _ _

/-! ## Setting, step by step -/

variable {whole : Path} {w : Value} {steps others : List Step}

theorem error_setAt (whole : Path) (w u : Value) (steps : List Step) (v : Value) :
    (setAt whole w steps v).error = (setAt whole u steps v).error := by
  induction steps, v using setAt_induction with
  | reached v => rfl
  | entered rest hc ih => rw [hc.setAt, hc.setAt, ih]
  | stopped rest hstop =>
    obtain ⟨e, he⟩ := hstop.setAt whole rest
    rw [he w, he u]

theorem setAt_of_places (h : steps.map Step.place = others.map Step.place) (whole whole' : Path) (w : Value) :
    (setAt whole' w others v).value = (setAt whole w steps v).value ∧
      ((setAt whole' w others v).error = none ↔ (setAt whole w steps v).error = none) := by
  induction steps, v using setAt_induction generalizing others with
  | reached v =>
    cases others with
    | nil => exact ⟨rfl, Iff.rfl⟩
    | cons other others => cases h
  | @entered v step c rest hc ih =>
    cases others with
    | nil => cases h
    | cons other others =>
      obtain ⟨hplace, hrest⟩ := List.cons.inj h
      obtain ⟨hvalue, herror⟩ := ih hrest
      rw [hc.setAt, (hc.of_place hplace).setAt, hc.replaced_of_place hplace, hvalue]
      exact ⟨rfl, herror⟩
  | @stopped v step rest hstop =>
    cases others with
    | nil => cases h
    | cons other others =>
      obtain ⟨hplace, -⟩ := List.cons.inj h
      obtain ⟨e, he⟩ := hstop.setAt whole rest
      obtain ⟨e', he'⟩ := (hstop.of_place hplace).setAt whole' others
      rw [he w, he' w]
      simp

theorem get?_setAt (h : (setAt whole w steps v).error = none) :
    (setAt whole w steps v).value.get? ⟨steps⟩ = some w := by
  induction steps, v using setAt_induction with
  | reached v => rfl
  | entered rest hc ih =>
    rw [hc.setAt] at h ⊢
    rw [get?_cons, hc.step?_replaced]
    exact ih h
  | stopped rest hstop =>
    obtain ⟨e, he⟩ := hstop.setAt whole rest
    rw [he w] at h
    cases h

/-- **Where setting fails there was nothing to read**, and there is nothing after it. -/
theorem get?_of_setAt_error (h : (setAt whole w steps v).error ≠ none) :
    v.get? ⟨steps⟩ = none ∧ (setAt whole w steps v).value.get? ⟨steps⟩ = none := by
  induction steps, v using setAt_induction with
  | reached v => exact absurd rfl h
  | entered rest hc ih =>
    rw [hc.setAt] at h ⊢
    have hrest : rest ≠ [] := by
      rintro rfl
      exact h rfl
    rw [hc.get? hrest, get?_cons, hc.step?_replaced]
    exact ih h
  | stopped rest hstop =>
    obtain ⟨e, he⟩ := hstop.setAt whole rest
    rw [he w]
    exact ⟨hstop.get? rest, hstop.get? rest⟩

theorem get?_setAt_of_apart (h : Apart ⟨others⟩ ⟨steps⟩) :
    (setAt whole w steps v).value.get? ⟨others⟩ = v.get? ⟨others⟩ := by
  induction steps, v using setAt_induction generalizing others with
  | reached v => exact absurd (Path.root_leads _) h.2
  | @entered v step c rest hc ih =>
    rw [hc.setAt]
    cases others with
    | nil => exact absurd rfl h.ne_root
    | cons other others =>
      by_cases hplace : other.place = step.place
      · -- the paths part further on, behind what was entered
        have hapart := (Path.apart_cons.1 h).resolve_left (not_not.2 hplace)
        have hothers : others ≠ [] := by
          rintro rfl
          exact hapart.ne_root rfl
        have hsame : v.get? ⟨other :: others⟩ = v.get? ⟨step :: others⟩ := by
          rw [get?_cons, get?_cons, step?_of_place hplace]
        rw [hsame, hc.get? hothers, get?_cons, step?_of_place hplace, hc.step?_replaced]
        exact ih hapart
      · rw [get?_cons, get?_cons, hc.step?_replaced_of_ne hplace]
  | stopped rest hstop =>
    obtain ⟨e, he⟩ := hstop.setAt whole rest
    rw [he w]

/-- **What lies on the way** is at most opened. -/
theorem opened_setAt (h : Leads ⟨others⟩ ⟨steps⟩) (hproper : ¬ Leads ⟨steps⟩ ⟨others⟩) :
    Opened (v.get? ⟨others⟩) ((setAt whole w steps v).value.get? ⟨others⟩) := by
  induction steps, v using setAt_induction generalizing others with
  | reached v => exact absurd (Path.root_leads _) hproper
  | @entered v step c rest hc ih =>
    rw [hc.setAt]
    cases others with
    | nil => exact hc.opened_replaced _
    | cons other others =>
      obtain ⟨hplace, hrest⟩ := Path.leads_cons.1 h
      -- entering opens only what the path of the step itself reads
      have hentered : Opened (v.get? ⟨other :: others⟩) (c.get? ⟨others⟩) := by
        rw [get?_cons, step?_of_place hplace]
        cases others with
        | nil =>
          have hopened := hc.opened
          cases hstep : v.step? step with
          | none => rwa [hstep] at hopened
          | some w => rwa [hstep] at hopened
        | cons next others =>
          rw [← get?_cons, hc.get? (List.cons_ne_nil _ _)]
          exact .same _
      rw [get?_cons (v.replaced step _), step?_of_place hplace, hc.step?_replaced]
      exact hentered.trans (ih hrest fun hl => hproper (Path.leads_cons.2 ⟨hplace.symm, hl⟩))
  | stopped rest hstop =>
    obtain ⟨e, he⟩ := hstop.setAt whole rest
    rw [he w]
    exact .same _

theorem setAt_container (h : (setAt whole w steps v).error = none) (u : Value) :
    setAt whole u steps (container (some v)) = setAt whole u steps v := by
  cases steps with
  | nil => rfl
  | cons step rest =>
    cases v with
    | object members => rfl
    | list items => rfl
    | _ => cases h

theorem setAt_setAt (h : (setAt whole w steps v).error = none) (u : Value) :
    setAt whole u steps (setAt whole w steps v).value = setAt whole u steps v := by
  induction steps, v using setAt_induction with
  | reached v => rfl
  | @entered v step c rest hc ih =>
    rw [hc.setAt] at h ⊢
    have hlast := ih h
    have herror : (setAt whole u rest (setAt whole w rest c).value).error = none := by
      rw [hlast, error_setAt whole u w, h]
    -- what is entered the second time is what was set the first time, or would be if it had to be opened
    obtain ⟨d, hd, hgoes⟩ := hc.replaced (setAt whole w rest c).value
    have hinner : setAt whole u rest d = setAt whole u rest c := by
      rcases hgoes with rfl | rfl
      · exact hlast
      · rw [setAt_container herror, hlast]
    rw [hd.setAt, hc.setAt, hinner, hc.replaced_replaced]
  | stopped rest hstop =>
    obtain ⟨e, he⟩ := hstop.setAt whole rest
    rw [he w] at h
    cases h

theorem setAt_get? (hv : v.Canonical) (h : v.get? ⟨steps⟩ = some w) : setAt whole w steps v = ⟨v, none⟩ := by
  induction steps generalizing v with
  | nil =>
    cases h
    rfl
  | cons step rest ih =>
    rw [get?_cons] at h
    obtain ⟨x, hx, hrest⟩ := Option.bind_eq_some_iff.1 h
    obtain ⟨c, hc⟩ := exists_enters hx
    rw [setAt_of_get? hx hrest, ih (hc.canonical hv hx) hrest, hc.replaced_self hv hx]

/-! ## Setting from the root -/

/-- What setting starts from: a root that is no object gives way to an empty one. -/
def ground : Value → Value
  | .object members => .object members
  | _ => empty

variable {p q : Path}

theorem set_eq (v : Value) (p : Path) (w : Value) : v.set p w = setAt p w p.steps v.ground := by
  obtain ⟨steps⟩ := p
  cases steps with
  | nil => rfl
  | cons step rest => cases v <;> rfl

/-- At the root and in an object a value is set along the steps of the path, with nothing to give way first. -/
theorem set_eq_setAt (hroot : p = .root ∨ ∃ members, v = .object members) (w : Value) :
    v.set p w = setAt p w p.steps v := by
  rw [set_eq]
  rcases hroot with rfl | ⟨members, rfl⟩
  · rfl
  · rfl

theorem ground_eq (hroot : ∀ items, v ≠ .list items) : v.ground = container (some v) := by
  cases v with
  | list items => exact absurd rfl (hroot items)
  | _ => rfl

theorem get?_ground (hroot : ∀ items, v ≠ .list items) (hq : q ≠ .root) : v.ground.get? q = v.get? q := by
  obtain ⟨steps⟩ := q
  have hsteps : steps ≠ [] := by
    rintro rfl
    exact hq rfl
  rw [ground_eq hroot, get?_container _ hsteps, Option.bind_some]

theorem ground_set (hp : p ≠ .root) (v w : Value) : (v.set p w).value.ground = (v.set p w).value := by
  obtain ⟨steps⟩ := p
  cases steps with
  | nil => exact absurd rfl hp
  | cons step rest =>
    obtain ⟨members, hobject⟩ : ∃ members, v.ground = .object members := by
      cases v <;> exact ⟨_, rfl⟩
    have hopened : Opened (some v.ground) (some (v.set ⟨step :: rest⟩ w).value) := by
      rw [set_eq]
      exact @opened_setAt v.ground ⟨step :: rest⟩ w (step :: rest) [] (Path.root_leads _) Path.not_leads_root
    rw [hobject] at hopened
    generalize (v.set ⟨step :: rest⟩ w).value = after at hopened
    cases hopened <;> rfl

theorem get?_set_self (h : (v.set p w).error = none) : (v.set p w).value.get? p = some w := by
  rw [set_eq] at h ⊢
  exact get?_setAt h

theorem set_set (h : (v.set p w).error = none) (u : Value) : (v.set p w).value.set p u = v.set p u := by
  by_cases hp : p = .root
  · subst hp
    rfl
  · rw [set_eq] at h
    rw [set_eq (v.set p w).value, ground_set hp, set_eq v p w, set_eq v p u, setAt_setAt h]

theorem set_get?_self (hroot : ∀ items, v ≠ .list items) (hv : v.Canonical) (h : v.get? p = some w) :
    v.set p w = ⟨v, none⟩ := by
  by_cases hp : p = .root
  · subst hp
    cases h
    rfl
  · have hground : v.ground = v := by
      obtain ⟨steps⟩ := p
      have hsteps : steps ≠ [] := by
        rintro rfl
        exact hp rfl
      rw [ground_eq hroot, container_of_get? hsteps h]
    rw [set_eq, hground]
    exact setAt_get? hv h

theorem get?_of_set_error (hroot : ∀ items, v ≠ .list items) (h : (v.set p w).error ≠ none) :
    v.get? p = none ∧ (v.set p w).value.get? p = none := by
  have hp : p ≠ .root := by
    rintro rfl
    exact h rfl
  rw [set_eq] at h ⊢
  rw [← get?_ground hroot hp]
  exact get?_of_setAt_error h

theorem get?_set_of_apart (hroot : ∀ items, v ≠ .list items) (hq : q.Apart p) (w : Value) :
    (v.set p w).value.get? q = v.get? q := by
  rw [set_eq, ← get?_ground hroot hq.ne_root]
  exact get?_setAt_of_apart hq

theorem opened_set (hroot : ∀ items, v ≠ .list items) (hq : q.Leads p) (hproper : ¬ p.Leads q) (w : Value) :
    Opened (v.get? q) ((v.set p w).value.get? q) := by
  have hground : Opened (v.get? q) (v.ground.get? q) := by
    by_cases hq' : q = .root
    · subst hq'
      rw [ground_eq hroot]
      exact opened_container (some v)
    · rw [get?_ground hroot hq']
      exact .same _
  rw [set_eq]
  exact hground.trans (opened_setAt hq hproper)

theorem Opened.object_of {r : Option Value} {members : List (String × Value)} (h : Opened (some (.object members)) r) :
    ∃ members', r = some (.object members') := by
  cases h <;> exact ⟨_, rfl⟩

theorem Opened.list_of {r : Option Value} {items : List Value} (h : Opened (some (.list items)) r) :
    ∃ items', r = some (.list items') := by
  cases h with
  | same => exact ⟨items, rfl⟩
  | list xs ys => exact ⟨ys, rfl⟩
  | object hr => exact absurd rfl (hr items)

theorem Opened.eq_or_object {r r' : Option Value} (h : Opened r r') (hr : ∀ items, r ≠ some (.list items)) :
    r' = r ∨ ∃ members, r' = some (.object members) := by
  cases h with
  | same => exact .inl rfl
  | list xs ys => exact absurd rfl (hr xs)
  | object _ members => exact .inr ⟨members, rfl⟩

/-- Where setting fails, only what lies on the way may read otherwise than before. -/
theorem leads_of_set_error (hroot : ∀ items, v ≠ .list items) (h : (v.set p w).error ≠ none)
    (hchanged : (v.set p w).value.get? q ≠ v.get? q) : q.Leads p ∧ ¬ p.Leads q := by
  have hbehind : ¬ p.Leads q := by
    intro hpq
    obtain ⟨hbefore, hafter⟩ := get?_of_set_error hroot h
    apply hchanged
    rw [get?_eq_none_of_leads hpq hbefore, get?_eq_none_of_leads hpq hafter]
  refine ⟨?_, hbehind⟩
  by_contra hqp
  exact hchanged (get?_set_of_apart hroot ⟨hqp, hbehind⟩ w)

/-- **Setting obeys the laws of a lens**, from every root that is no list; paths that lead to the same places are one
path.  If it succeeds, what was set is read, and another value set after it leads to the same as if that alone were set;
what is there already is set without any change to a value whose objects are in order.  Whether it succeeds or fails, a
path that is apart reads as before.  If it fails, there was nothing to read at the path and there is nothing after it;
only paths on the way to it may read otherwise, where an object is still an object, a list is still a list, and anything
else, or nothing, is as it was or is an object now. -/
theorem set_lawful (hroot : ∀ items, v ≠ .list items) (p : Path) (w : Value) :
    (∀ p' : Path, p'.places = p.places → v.get? p' = v.get? p ∧ (v.set p' w).value = (v.set p w).value ∧
      ((v.set p' w).error = none ↔ (v.set p w).error = none)) ∧
    ((v.set p w).error = none → (v.set p w).value.get? p = some w ∧
      ∀ u, (v.set p u).error = none ∧ (v.set p w).value.set p u = v.set p u) ∧
    (v.Canonical → v.get? p = some w → v.set p w = ⟨v, none⟩) ∧
    (∀ q : Path, q.Apart p → (v.set p w).value.get? q = v.get? q) ∧
    ((v.set p w).error ≠ none →
      v.get? p = none ∧ (v.set p w).value.get? p = none ∧
      (∀ q : Path, (v.set p w).value.get? q ≠ v.get? q → q.Leads p ∧ ¬ p.Leads q) ∧
      ∀ q : Path, q.Leads p → ¬ p.Leads q →
        (∀ members, v.get? q = some (.object members) →
          ∃ members', (v.set p w).value.get? q = some (.object members')) ∧
        (∀ items, v.get? q = some (.list items) → ∃ items', (v.set p w).value.get? q = some (.list items')) ∧
        ((∀ items, v.get? q ≠ some (.list items)) →
          (v.set p w).value.get? q = v.get? q ∨ ∃ members, (v.set p w).value.get? q = some (.object members))) := by
  refine ⟨?_, ?_, ?_, ?_, ?_⟩
  · intro p' hp'
    refine ⟨get?_of_places hp' v, ?_⟩
    rw [set_eq v p', set_eq v p]
    exact setAt_of_places hp'.symm p p' w
  · intro h
    refine ⟨get?_set_self h, fun u => ⟨?_, set_set h u⟩⟩
    rw [set_eq] at h ⊢
    rw [error_setAt p u w, h]
  · intro hv h
    exact set_get?_self hroot hv h
  · intro q hq
    exact get?_set_of_apart hroot hq w
  · intro h
    obtain ⟨hbefore, hafter⟩ := get?_of_set_error hroot h
    refine ⟨hbefore, hafter, fun q hq => leads_of_set_error hroot h hq, ?_⟩
    intro q hq hproper
    have hopened := opened_set hroot hq hproper w
    refine ⟨?_, ?_, fun hlist => hopened.eq_or_object hlist⟩
    · intro members hmembers
      rw [hmembers] at hopened
      exact hopened.object_of
    · intro items hitems
      rw [hitems] at hopened
      exact hopened.list_of

def shelf : Value := .object [("items", .list [.bool true, .object []]), ("label", .string "x"), ("open", .unknown)]

/-- A step by index into a text fails, but the text has given way to an empty object; all else is as it was. -/
theorem set_lawful_on_shelf :
    (∀ items, shelf ≠ .list items) ∧ (shelf.set ⟨[.key "label", .index 0]⟩ .null).error ≠ none ∧
      (shelf.set ⟨[.key "label", .index 0]⟩ .null).value.get? ⟨[.name "label"]⟩ = some (.object []) ∧
      (shelf.set ⟨[.key "label", .index 0]⟩ .null).value.get? ⟨[.name "items", .index 0]⟩ = some (.bool true) ∧
      (shelf.set ⟨[.key "items", .index 1, .name "n"]⟩ .null).value.get? ⟨[.key "items", .index 1, .name "n"]⟩ =
        some .null ∧
      shelf.set ⟨[.name "items", .index 0]⟩ (.bool true) = ⟨shelf, none⟩ := by
  have hroot : ∀ items, shelf ≠ .list items := fun items h => nomatch h
  have hfails : (shelf.set ⟨[.key "label", .index 0]⟩ .null).error ≠ none := by decide
  obtain ⟨-, -, -, happart, -⟩ := set_lawful hroot ⟨[.key "label", .index 0]⟩ .null
  refine ⟨hroot, hfails, rfl, ?_, ?_, ?_⟩
  · exact happart ⟨[.name "items", .index 0]⟩ (by decide)
  · exact ((set_lawful hroot ⟨[.key "items", .index 1, .name "n"]⟩ .null).2.1 rfl).1
  · exact (set_lawful hroot ⟨[.name "items", .index 0]⟩ (.bool true)).2.2.1 (by decide) rfl

/-! ## What can be read -/

theorem set_in_list {items : List Value} {old : Value} (hp : p ≠ .root) (h : (list items).get? p = some old)
    (w : Value) : (list items).set p w = ⟨.empty, some (.invalid p)⟩ := by
  obtain ⟨steps⟩ := p
  cases steps with
  | nil => exact absurd rfl hp
  | cons step rest =>
    cases step with
    | index i => rfl
    | _ => cases h

/-- **What is read can be set, but for what lies in a list at the root**: setting that fails, and leaves nothing of the
list.  Where it does not fail, what was set is read, and a path that is apart reads as before. -/
theorem overwrite_iff {old : Value} (h : v.get? p = some old) (w : Value) :
    ((v.set p w).error = none ↔ p = .root ∨ ∀ items, v ≠ .list items) ∧
    ((v.set p w).error = none →
      (v.set p w).value.get? p = some w ∧ ∀ q : Path, q.Apart p → (v.set p w).value.get? q = v.get? q) ∧
    ((v.set p w).error ≠ none → v.set p w = ⟨.empty, some (.invalid p)⟩) := by
  by_cases hp : p = .root
  · subst hp
    have hset : (v.set .root w).error = none := rfl
    refine ⟨iff_of_true hset (.inl rfl), fun _ => ⟨rfl, ?_⟩, fun herror => absurd hset herror⟩
    intro q hq
    exact absurd (Path.root_leads q) hq.2
  by_cases hlist : ∃ items, v = .list items
  · obtain ⟨items, rfl⟩ := hlist
    have hlost := set_in_list hp h w
    have herror : ((list items).set p w).error ≠ none := by
      rw [hlost]
      exact Option.some_ne_none _
    refine ⟨iff_of_false herror ?_, fun hset => absurd hset herror, fun _ => hlost⟩
    rintro (hroot | hroot)
    · exact hp hroot
    · exact hroot items rfl
  · have hroot : ∀ items, v ≠ .list items := not_exists.1 hlist
    have hset : (v.set p w).error = none := by
      by_contra herror
      rw [(get?_of_set_error hroot herror).1] at h
      cases h
    refine ⟨iff_of_true hset (.inr hroot), fun _ => ⟨get?_set_self hset, ?_⟩, fun herror => absurd hset herror⟩
    intro q hq
    exact get?_set_of_apart hroot hq w

theorem overwrite_iff_on_items :
    (shelf.set ⟨[.key "items", .index 0]⟩ .null).error = none ∧
      ((list [.bool true, .unknown]).set ⟨[.index 1]⟩ .null).error ≠ none := by
  have hroot : ∀ items, shelf ≠ .list items := fun items h => nomatch h
  have hitem : shelf.get? ⟨[.key "items", .index 0]⟩ = some (.bool true) := rfl
  have hitem' : (list [.bool true, .unknown]).get? ⟨[.index 1]⟩ = some .unknown := rfl
  refine ⟨(overwrite_iff hitem .null).1.2 (.inr hroot), fun herror => ?_⟩
  rcases (overwrite_iff hitem' .null).1.1 herror with hpath | hlist
  · cases hpath
  · exact hlist _ rfl

/-- An item of a list at the root is read, and setting it fails and empties the root. -/
theorem list_lost_at_root :
    (list [.bool true]).get? ⟨[.index 0]⟩ = some (.bool true) ∧
      (list [.bool true]).set ⟨[.index 0]⟩ (.bool false) = ⟨.empty, some (.invalid ⟨[.index 0]⟩)⟩ := ⟨rfl, rfl⟩

end Value
end PolicyProvider
