import Mathlib.Data.List.Induction
import Mathlib.Data.List.Nodup
import PolicyProvider.Entries
/-!
# Entries — what is found under a name

A value put under a name is found there, and nothing else is found anywhere else than before.  Where names ascend
(`Ascending`), pairs are known by what is found under each name (`ext`), and putting them one after the other gives
them back (`ofList_eq_self`).
-/
namespace PolicyProvider
namespace Entries

universe u
variable {α : Type u}

theorem get?_put_self (name : String) (a : α) (es : List (String × α)) : get? name (put name a es) = some a := by
  induction es with
  | nil => simp [put, get?]
  | cons e es ih =>
    obtain ⟨k, b⟩ := e
    rw [put]
    by_cases hlt : name < k
    · simp [hlt, get?]
    · by_cases hk : k = name
      · simp [hk, get?]
      · simp [hlt, hk, get?, ih]

theorem get?_put_of_ne {name other : String} (hne : other ≠ name) (a : α) (es : List (String × α)) :
    get? other (put name a es) = get? other es := by
  induction es with
  | nil => simp [put, get?, Ne.symm hne]
  | cons e es ih =>
    obtain ⟨k, b⟩ := e
    rw [put]
    by_cases hlt : name < k
    · rw [if_pos hlt, get?, if_neg (Ne.symm hne)]
    · by_cases hk : k = name
      · rw [if_neg hlt, if_pos hk, get?, get?, if_neg (Ne.symm hne), if_neg (by rw [hk]; exact Ne.symm hne)]
      · rw [if_neg hlt, if_neg hk, get?, get?, ih]

theorem get?_put (other name : String) (a : α) (es : List (String × α)) :
    get? other (put name a es) = if other = name then some a else get? other es := by
  by_cases h : other = name
  · rw [if_pos h, h, get?_put_self]
  · rw [if_neg h, get?_put_of_ne h]

theorem mem_of_get? {name : String} {a : α} {es : List (String × α)} (h : get? name es = some a) : (name, a) ∈ es := by
  induction es with
  | nil => cases h
  | cons e es ih =>
    rw [get?] at h
    split at h
    · rename_i heq
      cases h
      rw [← heq]
      exact List.mem_cons_self
    · exact List.mem_cons_of_mem e (ih h)

theorem put_put (name : String) (a b : α) (es : List (String × α)) : put name b (put name a es) = put name b es := by
  induction es with
  | nil => simp [put]
  | cons e es ih =>
    obtain ⟨k, c⟩ := e
    by_cases hlt : name < k
    · simp [put, hlt]
    · by_cases hk : k = name
      · simp [put, hk]
      · simp [put, hlt, hk, ih]

theorem lt_or_gt_of_ne {name other : String} (hne : name ≠ other) : name < other ∨ other < name := by
  by_cases hlt : name < other
  · exact .inl hlt
  · refine .inr (Decidable.byContradiction fun hgt => hne ?_)
    exact String.le_antisymm (String.not_lt.1 hgt) (String.not_lt.1 hlt)

theorem put_comm {name other : String} (hne : name ≠ other) (a b : α) (es : List (String × α)) :
    put name a (put other b es) = put other b (put name a es) := by
  induction es with
  | nil => rcases lt_or_gt_of_ne hne with hlt | hlt <;> simp [put, hlt, String.lt_asymm hlt, hne, Ne.symm hne]
  | cons e es ih =>
    -- where the two go depends on how they compare to the first name, and then to one another
    obtain ⟨k, c⟩ := e
    simp only [put]
    grind [put, String.lt_trans, String.lt_irrefl, lt_or_gt_of_ne]

/-! ## Ascending names -/

/-- That the names ascend, so that each is there once. -/
def Ascending (es : List (String × α)) : Prop := (names es).Pairwise (· < ·)

instance (es : List (String × α)) : Decidable (Ascending es) :=
  inferInstanceAs (Decidable (List.Pairwise _ _))

@[simp] theorem ascending_nil : Ascending ([] : List (String × α)) := List.Pairwise.nil

@[simp] theorem ascending_cons {e : String × α} {es : List (String × α)} :
    Ascending (e :: es) ↔ (∀ f ∈ es, e.1 < f.1) ∧ Ascending es := by
  simp [Ascending, names]

theorem mem_put {e : String × α} {name : String} {a : α} {es : List (String × α)} (h : e ∈ put name a es) :
    e = (name, a) ∨ e ∈ es := by
  induction es with
  | nil => simpa [put] using h
  | cons f es ih =>
    rw [put] at h
    split at h
    · simpa using h
    · split at h
      · simp only [List.mem_cons] at h ⊢
        exact h.imp_right .inr
      · simp only [List.mem_cons] at h ⊢
        rcases h with rfl | h
        · exact .inr (.inl rfl)
        · exact (ih h).imp_right .inr

theorem ascending_put (name : String) (a : α) {es : List (String × α)} (h : Ascending es) :
    Ascending (put name a es) := by
  induction es with
  | nil => simp [put]
  | cons f es ih =>
    rw [ascending_cons] at h
    obtain ⟨hf, hes⟩ := h
    rw [put]
    split
    · rename_i hlt
      simp only [ascending_cons, List.mem_cons, forall_eq_or_imp]
      exact ⟨⟨hlt, fun g hg => String.lt_trans hlt (hf g hg)⟩, hf, hes⟩
    · rename_i hlt
      split
      · rename_i heq
        exact ascending_cons.2 ⟨fun g hg => heq ▸ hf g hg, hes⟩
      · rename_i hne
        have hfn : f.1 < name := Decidable.byContradiction fun h =>
          hne (String.le_antisymm (String.not_lt.1 hlt) (String.not_lt.1 h))
        refine ascending_cons.2 ⟨fun g hg => ?_, ih hes⟩
        rcases mem_put hg with rfl | hg
        · exact hfn
        · exact hf g hg

theorem get?_eq_none {name : String} {es : List (String × α)} (h : ∀ f ∈ es, name < f.1) : get? name es = none := by
  induction es with
  | nil => rfl
  | cons f es ih =>
    have hne : f.1 ≠ name := fun heq => String.lt_irrefl name (heq ▸ h f (by simp))
    rw [get?, if_neg hne]
    exact ih fun g hg => h g (by simp [hg])

theorem put_eq_self {name : String} {a : α} {es : List (String × α)} (h : Ascending es) (hget : get? name es = some a) :
    put name a es = es := by
  induction es with
  | nil => cases hget
  | cons f es ih =>
    rw [ascending_cons] at h
    rw [get?] at hget
    rw [put]
    by_cases heq : f.1 = name
    · rw [if_pos heq] at hget
      cases hget
      rw [if_neg (heq ▸ String.lt_irrefl _), if_pos heq, ← heq]
    · rw [if_neg heq] at hget
      have hlt : ¬ name < f.1 := fun hlt => by
        rw [get?_eq_none fun g hg => String.lt_trans hlt (h.1 g hg)] at hget
        cases hget
      rw [if_neg hlt, if_neg heq, ih h.2 hget]

/-- **Pairs with ascending names are known by what is found under each name.** -/
theorem ext {es fs : List (String × α)} (he : Ascending es) (hf : Ascending fs)
    (h : ∀ name, get? name es = get? name fs) : es = fs := by
  induction es generalizing fs with
  | nil =>
    cases fs with
    | nil => rfl
    | cons f fs => simpa [get?] using h f.1
  | cons e es ih =>
    cases fs with
    | nil => simpa [get?] using h e.1
    | cons f fs =>
      rw [ascending_cons] at he hf
      -- the lesser of the two first names would be found on one side only
      have hname : e.1 = f.1 := by
        apply String.le_antisymm
        · refine String.not_lt.1 fun hlt => ?_
          have hnone := get?_eq_none (fun g hg => String.lt_trans hlt (he.1 g hg))
          have hhere := h f.1
          rw [get?, if_neg (fun heq => String.lt_irrefl _ (heq ▸ hlt)), hnone, get?, if_pos rfl] at hhere
          cases hhere
        · refine String.not_lt.1 fun hlt => ?_
          have hnone := get?_eq_none (fun g hg => String.lt_trans hlt (hf.1 g hg))
          have hhere := h e.1
          rw [get?, if_pos rfl, get?, if_neg (fun heq => String.lt_irrefl _ (heq ▸ hlt)), hnone] at hhere
          cases hhere
      have hvalue : e.2 = f.2 := by
        have hhere := h e.1
        rw [get?, if_pos rfl, get?, if_pos hname.symm] at hhere
        exact Option.some.inj hhere
      have hrest : es = fs := by
        refine ih he.2 hf.2 fun name => ?_
        have hhere := h name
        rw [get?, get?, ← hname] at hhere
        by_cases heq : e.1 = name
        · rw [get?_eq_none (heq ▸ he.1), get?_eq_none (heq ▸ hname ▸ hf.1)]
        · rwa [if_neg heq, if_neg heq] at hhere
      rw [hrest, Prod.ext hname hvalue]

/-! ## Pairs put one after the other -/

theorem put_eq_append {name : String} {a : α} {es : List (String × α)} (h : ∀ f ∈ es, f.1 < name) :
    put name a es = es ++ [(name, a)] := by
  induction es with
  | nil => rfl
  | cons f es ih =>
    have hlt := h f (by simp)
    have hne : f.1 ≠ name := fun heq => String.lt_irrefl name (heq ▸ hlt)
    rw [put, if_neg (String.lt_asymm hlt), if_neg hne, ih fun g hg => h g (by simp [hg]), List.cons_append]

theorem foldl_put_eq_append {es acc : List (String × α)} (h : Ascending (acc ++ es)) :
    es.foldl (fun fs p => put p.1 p.2 fs) acc = acc ++ es := by
  induction es generalizing acc with
  | nil => simp
  | cons e es ih =>
    have hlast : ∀ f ∈ acc, f.1 < e.1 := by
      unfold Ascending names at h
      rw [List.map_append, List.pairwise_append] at h
      intro f hf
      exact h.2.2 f.1 (List.mem_map_of_mem hf) e.1 (by simp)
    rw [List.foldl_cons, put_eq_append hlast, ih (by simpa using h), List.append_assoc, List.singleton_append]

theorem ofList_eq_self {es : List (String × α)} (h : Ascending es) : ofList es = es := foldl_put_eq_append h

theorem ofList_concat (es : List (String × α)) (e : String × α) : ofList (es ++ [e]) = put e.1 e.2 (ofList es) := by
  simp [ofList]

theorem ascending_ofList (es : List (String × α)) : Ascending (ofList es) := by
  induction es using List.reverseRecOn with
  | nil => exact ascending_nil
  | append_singleton es e ih =>
    rw [ofList_concat]
    exact ascending_put e.1 e.2 ih

theorem mem_ofList {e : String × α} {es : List (String × α)} (h : e ∈ ofList es) : e ∈ es := by
  induction es using List.reverseRecOn with
  | nil => exact h
  | append_singleton es f ih =>
    rw [ofList_concat] at h
    rcases mem_put h with rfl | h
    · simp
    · simp [ih h]

theorem length_put_le (name : String) (a : α) (es : List (String × α)) : (put name a es).length ≤ es.length + 1 := by
  induction es with
  | nil => simp [put]
  | cons f es ih =>
    rw [put]
    split
    · simp
    · split
      · simp
      · simpa using ih

theorem length_ofList_le (es : List (String × α)) : (ofList es).length ≤ es.length := by
  induction es using List.reverseRecOn with
  | nil => simp [ofList]
  | append_singleton es e ih =>
    have hput := length_put_le e.1 e.2 (ofList es)
    rw [ofList_concat, List.length_append, List.length_singleton]
    omega

variable {β : Type u}

def mapValues (f : α → β) (es : List (String × α)) : List (String × β) := es.map fun e => (e.1, f e.2)

theorem put_mapValues (f : α → β) (name : String) (a : α) (es : List (String × α)) :
    put name (f a) (mapValues f es) = mapValues f (put name a es) := by
  induction es with
  | nil => rfl
  | cons e es ih =>
    simp only [mapValues, List.map_cons, put] at ih ⊢
    split
    · rfl
    · split
      · rfl
      · rw [ih, List.map_cons]

theorem ofList_mapValues (f : α → β) (es : List (String × α)) : ofList (mapValues f es) = mapValues f (ofList es) := by
  induction es using List.reverseRecOn with
  | nil => rfl
  | append_singleton es e ih =>
    have hconcat : mapValues f (es ++ [e]) = mapValues f es ++ [(e.1, f e.2)] := by simp [mapValues]
    rw [hconcat, ofList_concat, ih, ofList_concat]
    exact put_mapValues f e.1 e.2 (ofList es)

/-! ## Values that may be missing -/

def present (es : List (String × Option α)) : List (String × α) := es.filterMap fun e => e.2.map fun a => (e.1, a)

theorem present_append (es fs : List (String × Option α)) : present (es ++ fs) = present es ++ present fs :=
  List.filterMap_append

theorem name_mem_of_mem_present {p : String × α} {es : List (String × Option α)} (h : p ∈ present es) :
    p.1 ∈ es.map (·.1) := by
  obtain ⟨e, he, heq⟩ := List.mem_filterMap.1 h
  obtain ⟨a, -, rfl⟩ := Option.map_eq_some_iff.1 heq
  exact List.mem_map_of_mem he

/-- **Under a name that is given once there is its value, if it has one, and nothing else.** -/
theorem filter_present {es : List (String × Option α)} (hnodup : (es.map (·.1)).Nodup) {e : String × Option α}
    (he : e ∈ es) : (present es).filter (fun p => p.1 == e.1) = present [e] := by
  obtain ⟨before, after, rfl⟩ := List.append_of_mem he
  have hapart : ∀ fs : List (String × Option α), e.1 ∉ fs.map (·.1) →
      (present fs).filter (fun p => p.1 == e.1) = [] := by
    intro fs hfs
    rw [List.filter_eq_nil_iff]
    intro p hp hname
    exact hfs (eq_of_beq hname ▸ name_mem_of_mem_present hp)
  have hsingle : (present [e]).filter (fun p => p.1 == e.1) = present [e] := by
    rw [List.filter_eq_self]
    intro p hp
    simpa using name_mem_of_mem_present hp
  rw [List.map_append, List.map_cons, List.nodup_middle, List.nodup_cons, List.mem_append, not_or] at hnodup
  rw [present_append, ← List.singleton_append, present_append, List.filter_append, List.filter_append, hsingle,
    hapart before hnodup.1.1, hapart after hnodup.1.2, List.nil_append, List.append_nil]

theorem get?_eq_head? (name : String) (es : List (String × α)) :
    get? name es = ((es.filter fun p => p.1 == name).head?).map (·.2) := by
  induction es with
  | nil => rfl
  | cons e es ih =>
    by_cases he : e.1 = name
    · simp [get?, he]
    · simp [get?, he, ih]

theorem get?_present {es : List (String × Option α)} (hnodup : (es.map (·.1)).Nodup) {e : String × Option α}
    (he : e ∈ es) : get? e.1 (present es) = e.2 := by
  obtain ⟨name, value⟩ := e
  rw [get?_eq_head?, filter_present hnodup he]
  cases value <;> rfl

theorem present_inj {es fs : List (String × Option α)} (hnodup : (es.map (·.1)).Nodup)
    (hnames : es.map (·.1) = fs.map (·.1)) (h : present es = present fs) : es = fs := by
  have hread : ∀ gs : List (String × Option α), (gs.map (·.1)).Nodup →
      gs = (gs.map (·.1)).map fun name => (name, get? name (present gs)) := by
    intro gs hgs
    rw [List.map_map]
    refine (List.map_id gs).symm.trans (List.map_congr_left fun e he => ?_)
    exact Prod.ext rfl (get?_present hgs he).symm
  rw [hread es hnodup, hread fs (hnames ▸ hnodup), hnames, h]

end Entries
end PolicyProvider
