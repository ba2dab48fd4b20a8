import PolicyProvider.Value.Json
import PolicyProvider.Proofs.Entries
/-!
# Value — what is inside a value

`parts` lists a value and everything inside it, `depth` counts how deep containers are nested, and `mapLeaves` replaces
what is no container.  A list of pairs stands for an object only if its names ascend: `Canonical` says so of every
object in a value, and `sorted` puts the members of each object in that order, which changes no canonical value
(`sorted_eq_self`).
-/
namespace PolicyProvider
namespace Value

open Entries (Ascending mapValues)

@[elab_as_elim]
theorem induction {P : Value → Prop} (null : P .null) (unknown : P .unknown) (bool : ∀ b, P (.bool b))
    (number : ∀ n, P (.number n)) (string : ∀ s, P (.string s))
    (list : ∀ items, (∀ v ∈ items, P v) → P (.list items))
    (object : ∀ members, (∀ m ∈ members, P m.2) → P (.object members)) (v : Value) : P v := by
  match v with
  | .null => exact null
  | .unknown => exact unknown
  | .bool b => exact bool b
  | .number n => exact number n
  | .string s => exact string s
  | .list items =>
    exact list items fun w hw => induction null unknown bool number string list object w
  | .object members =>
    exact object members fun m hm => induction null unknown bool number string list object m.2
termination_by sizeOf v
decreasing_by
  · have hlt := List.sizeOf_lt_of_mem hw
    simp only [Value.list.sizeOf_spec]
    omega
  · have hlt := List.sizeOf_lt_of_mem hm
    obtain ⟨k, w⟩ := m
    simp only [Prod.mk.sizeOf_spec, Value.object.sizeOf_spec] at hlt ⊢
    omega

theorem isNull_iff {v : Value} : v.isNull = true ↔ v = .null := by
  cases v <;> simp [isNull]

/-! ## Everything inside a value -/

mutual

/-- **A value and everything inside it.** -/
def parts : Value → List Value
  | .list items => .list items :: itemsParts items
  | .object members => .object members :: membersParts members
  | v => [v]

def itemsParts : List Value → List Value
  | [] => []
  | v :: rest => parts v ++ itemsParts rest

def membersParts : List (String × Value) → List Value
  | [] => []
  | (_, v) :: rest => parts v ++ membersParts rest

end

def Everywhere (p : Value → Prop) (v : Value) : Prop := ∀ w ∈ v.parts, p w

instance (p : Value → Prop) [DecidablePred p] (v : Value) : Decidable (v.Everywhere p) :=
  inferInstanceAs (Decidable (∀ w ∈ v.parts, p w))

theorem mem_itemsParts {w : Value} {items : List Value} : w ∈ itemsParts items ↔ ∃ v ∈ items, w ∈ v.parts := by
  induction items with
  | nil => simp [itemsParts]
  | cons v items ih => simp [itemsParts, ih]

theorem mem_membersParts {w : Value} {members : List (String × Value)} :
    w ∈ membersParts members ↔ ∃ m ∈ members, w ∈ m.2.parts := by
  induction members with
  | nil => simp [membersParts]
  | cons m members ih => simp [membersParts, ih]

variable {p : Value → Prop}

@[simp] theorem everywhere_null : Everywhere p .null ↔ p .null := by simp [Everywhere, parts]

@[simp] theorem everywhere_unknown : Everywhere p .unknown ↔ p .unknown := by simp [Everywhere, parts]

@[simp] theorem everywhere_bool {b : Bool} : Everywhere p (.bool b) ↔ p (.bool b) := by simp [Everywhere, parts]

@[simp] theorem everywhere_number {n : Binary64} : Everywhere p (.number n) ↔ p (.number n) := by
  simp [Everywhere, parts]

@[simp] theorem everywhere_string {s : String} : Everywhere p (.string s) ↔ p (.string s) := by
  simp [Everywhere, parts]

@[simp] theorem everywhere_list {items : List Value} :
    Everywhere p (.list items) ↔ p (.list items) ∧ ∀ v ∈ items, v.Everywhere p := by
  simp only [Everywhere, parts, List.mem_cons, forall_eq_or_imp, mem_itemsParts]
  constructor
  · rintro ⟨hlist, hitems⟩
    exact ⟨hlist, fun v hv w hw => hitems w ⟨v, hv, hw⟩⟩
  · rintro ⟨hlist, hitems⟩
    exact ⟨hlist, fun w ⟨v, hv, hw⟩ => hitems v hv w hw⟩

@[simp] theorem everywhere_object {members : List (String × Value)} :
    Everywhere p (.object members) ↔ p (.object members) ∧ ∀ m ∈ members, m.2.Everywhere p := by
  simp only [Everywhere, parts, List.mem_cons, forall_eq_or_imp, mem_membersParts]
  constructor
  · rintro ⟨hobject, hmembers⟩
    exact ⟨hobject, fun m hm w hw => hmembers w ⟨m, hm, hw⟩⟩
  · rintro ⟨hobject, hmembers⟩
    exact ⟨hobject, fun w ⟨m, hm, hw⟩ => hmembers m hm w hw⟩

/-! ## Nesting -/

mutual

/-- **How many containers are nested in one another** at the deepest place. -/
def depth : Value → Nat
  | .list items => itemsDepth items + 1
  | .object members => membersDepth members + 1
  | _ => 0

def itemsDepth : List Value → Nat
  | [] => 0
  | v :: rest => max (depth v) (itemsDepth rest)

def membersDepth : List (String × Value) → Nat
  | [] => 0
  | (_, v) :: rest => max (depth v) (membersDepth rest)

end

theorem itemsDepth_le {items : List Value} {n : Nat} : itemsDepth items ≤ n ↔ ∀ v ∈ items, v.depth ≤ n := by
  induction items with
  | nil => simp [itemsDepth]
  | cons v items ih => rw [itemsDepth, Nat.max_le, ih, List.forall_mem_cons]

theorem membersDepth_le {members : List (String × Value)} {n : Nat} :
    membersDepth members ≤ n ↔ ∀ m ∈ members, m.2.depth ≤ n := by
  induction members with
  | nil => simp [membersDepth]
  | cons m members ih => rw [membersDepth, Nat.max_le, ih, List.forall_mem_cons]

@[simp] theorem depth_list_le {items : List Value} {n : Nat} :
    (list items).depth ≤ n + 1 ↔ ∀ v ∈ items, v.depth ≤ n := by
  simp [depth, itemsDepth_le]

@[simp] theorem depth_object_le {members : List (String × Value)} {n : Nat} :
    (object members).depth ≤ n + 1 ↔ ∀ m ∈ members, m.2.depth ≤ n := by
  simp [depth, membersDepth_le]

/-! ## Leaves replaced -/

mutual

/-- **A value with something made of each leaf**; lists, objects and names are kept. -/
def mapLeaves (f : Value → Value) : Value → Value
  | .list items => .list (mapItems f items)
  | .object members => .object (mapMembers f members)
  | v => f v

def mapItems (f : Value → Value) : List Value → List Value
  | [] => []
  | v :: rest => mapLeaves f v :: mapItems f rest

def mapMembers (f : Value → Value) : List (String × Value) → List (String × Value)
  | [] => []
  | (k, v) :: rest => (k, mapLeaves f v) :: mapMembers f rest

end

variable (f : Value → Value)

@[simp] theorem mapLeaves_list (items : List Value) : mapLeaves f (.list items) = .list (items.map (mapLeaves f)) := by
  have hitems : mapItems f items = items.map (mapLeaves f) := by
    induction items with
    | nil => rfl
    | cons v items ih => rw [mapItems, ih, List.map_cons]
  rw [mapLeaves, hitems]

@[simp] theorem mapLeaves_object (members : List (String × Value)) :
    mapLeaves f (.object members) = .object (mapValues (mapLeaves f) members) := by
  have hmembers : mapMembers f members = mapValues (mapLeaves f) members := by
    induction members with
    | nil => rfl
    | cons m members ih =>
      rw [mapMembers, ih]
      rfl
  rw [mapLeaves, hmembers]

theorem mapLeaves_eq_self {f : Value → Value} {v : Value} (h : v.Everywhere fun w => f w = w) : v.mapLeaves f = v := by
  induction v using induction with
  | list items ih =>
    rw [everywhere_list] at h
    have hitems : items.map (mapLeaves f) = items :=
      (List.map_congr_left fun v hv => ih v hv (h.2 v hv)).trans (List.map_id' items)
    rw [mapLeaves_list, hitems]
  | object members ih =>
    rw [everywhere_object] at h
    have hmembers : mapValues (mapLeaves f) members = members := by
      refine (List.map_congr_left fun m hm => ?_).trans (List.map_id' members)
      rw [ih m hm (h.2 m hm)]
    rw [mapLeaves_object, hmembers]
  | _ => simpa [mapLeaves] using h

/-! ## The order of members -/

def NamesAscend : Value → Prop
  | .object members => Ascending members
  | _ => True

instance : DecidablePred NamesAscend
  | .object members => inferInstanceAs (Decidable (Ascending members))
  | .null | .unknown | .bool _ | .number _ | .string _ | .list _ => isTrue trivial

/-- **That every object in a value is the list that stands for it**, its names ascending. -/
def Canonical (v : Value) : Prop := v.Everywhere NamesAscend

instance (v : Value) : Decidable v.Canonical := inferInstanceAs (Decidable (v.Everywhere NamesAscend))

theorem canonical_list {items : List Value} : (list items).Canonical ↔ ∀ v ∈ items, v.Canonical := by
  simp [Canonical, NamesAscend]

theorem canonical_object {members : List (String × Value)} :
    (object members).Canonical ↔ Ascending members ∧ ∀ m ∈ members, m.2.Canonical := by
  simp [Canonical, NamesAscend]

mutual

/-- **A value with the members of its objects in order**; of a name that is given twice the last value counts. -/
def sorted : Value → Value
  | .list items => .list (sortedItems items)
  | .object members => .object (Entries.ofList (sortedMembers members))
  | v => v

def sortedItems : List Value → List Value
  | [] => []
  | v :: rest => sorted v :: sortedItems rest

def sortedMembers : List (String × Value) → List (String × Value)
  | [] => []
  | (k, v) :: rest => (k, sorted v) :: sortedMembers rest

end

@[simp] theorem sorted_list (items : List Value) : sorted (.list items) = .list (items.map sorted) := by
  have hitems : sortedItems items = items.map sorted := by
    induction items with
    | nil => rfl
    | cons v items ih => rw [sortedItems, ih, List.map_cons]
  rw [sorted, hitems]

@[simp] theorem sorted_object (members : List (String × Value)) :
    sorted (.object members) = .object (Entries.ofList (mapValues sorted members)) := by
  have hmembers : sortedMembers members = mapValues sorted members := by
    induction members with
    | nil => rfl
    | cons m members ih =>
      rw [sortedMembers, ih]
      rfl
  rw [sorted, hmembers]

theorem sorted_eq_self {v : Value} (h : v.Canonical) : v.sorted = v := by
  induction v using induction with
  | list items ih =>
    rw [canonical_list] at h
    have hitems : items.map sorted = items :=
      (List.map_congr_left fun v hv => ih v hv (h v hv)).trans (List.map_id' items)
    rw [sorted_list, hitems]
  | object members ih =>
    rw [canonical_object] at h
    have hmembers : mapValues sorted members = members := by
      refine (List.map_congr_left fun m hm => ?_).trans (List.map_id' members)
      rw [ih m hm (h.2 m hm)]
    rw [sorted_object, hmembers, Entries.ofList_eq_self h.1]
  | _ => rfl

theorem mapLeaves_sorted_list (items : List Value) :
    (sorted (.list items)).mapLeaves f = .list (items.map fun v => v.sorted.mapLeaves f) := by
  rw [sorted_list, mapLeaves_list, List.map_map]
  rfl

theorem mapLeaves_sorted_object (members : List (String × Value)) :
    (sorted (.object members)).mapLeaves f =
      .object (Entries.ofList (mapValues (fun v => v.sorted.mapLeaves f) members)) := by
  rw [sorted_object, mapLeaves_object, ← Entries.ofList_mapValues]
  unfold mapValues
  rw [List.map_map]
  rfl

theorem mapLeaves_sorted {f : Value → Value} {v : Value} (h : v.Everywhere fun w => f w = w) :
    v.sorted.mapLeaves f = v.sorted := by
  induction v using induction with
  | list items ih =>
    rw [everywhere_list] at h
    have hitems : (items.map fun v => v.sorted.mapLeaves f) = items.map sorted :=
      List.map_congr_left fun v hv => ih v hv (h.2 v hv)
    rw [mapLeaves_sorted_list, hitems, sorted_list]
  | object members ih =>
    rw [everywhere_object] at h
    have hmembers : mapValues (fun v => v.sorted.mapLeaves f) members = mapValues sorted members :=
      List.map_congr_left fun m hm => congrArg (Prod.mk m.1) (ih m hm (h.2 m hm))
    rw [mapLeaves_sorted_object, hmembers, sorted_object]
  | _ => simpa [mapLeaves, sorted] using h

/-! ## The reserved text -/

/-- What a leaf is read as: the reserved text is unknown. -/
def revealed : Value → Value
  | .string s => ofText s
  | v => v

theorem revealed_eq_self {v : Value} : revealed v = v ↔ v ≠ .string unknownText := by
  cases v with
  | string s =>
    by_cases hs : s = unknownText
    · simp [revealed, ofText, hs]
    · simp [revealed, ofText, hs]
  | _ => simp [revealed]

/-- **That no string in a value is the reserved text.** -/
def Plain (v : Value) : Prop := v.Everywhere (· ≠ .string unknownText)

theorem mapLeaves_revealed_eq_self {v : Value} (h : v.Plain) : v.mapLeaves revealed = v :=
  mapLeaves_eq_self fun w hw => revealed_eq_self.2 (h w hw)

theorem mapLeaves_revealed_sorted {v : Value} (h : v.Plain) : v.sorted.mapLeaves revealed = v.sorted :=
  mapLeaves_sorted fun w hw => revealed_eq_self.2 (h w hw)

/-! ## What a reader makes -/

/-- **That a value is as readers make them**, with something that holds of every part: its names ascend, none of its
strings is the reserved text, and no more than `d` containers are nested in one another. -/
structure Arrived (p : Value → Prop) (d : Nat) (v : Value) : Prop where
  depth_le : v.depth ≤ d
  canonical : v.Canonical
  plain : v.Plain
  each : v.Everywhere p

variable {d : Nat}

theorem Arrived.mono {v : Value} (h : Arrived p d v) {d' : Nat} (hd : d ≤ d') : Arrived p d' v :=
  ⟨Nat.le_trans h.depth_le hd, h.canonical, h.plain, h.each⟩

theorem arrived_leaf {v : Value} (hparts : v.parts = [v]) (hdepth : v.depth = 0) (hnames : NamesAscend v)
    (hplain : v ≠ .string unknownText) (h : p v) : Arrived p d v := by
  have hself : ∀ w ∈ v.parts, w = v := by simp [hparts]
  exact ⟨by omega, fun w hw => hself w hw ▸ hnames, fun w hw => hself w hw ▸ hplain, fun w hw => hself w hw ▸ h⟩

theorem arrived_ofText {s : String} (hunknown : p .unknown) (h : p (.string s)) : Arrived p d (ofText s) := by
  unfold ofText
  split
  · exact arrived_leaf rfl rfl trivial (by simp) hunknown
  · rename_i hs
    exact arrived_leaf rfl rfl trivial (by simpa using hs) h

theorem arrived_list {items : List Value} (h : p (.list items)) (hitems : ∀ v ∈ items, Arrived p d v) :
    Arrived p (d + 1) (.list items) where
  depth_le := depth_list_le.2 fun v hv => (hitems v hv).depth_le
  canonical := canonical_list.2 fun v hv => (hitems v hv).canonical
  plain := everywhere_list.2 ⟨by simp, fun v hv => (hitems v hv).plain⟩
  each := everywhere_list.2 ⟨h, fun v hv => (hitems v hv).each⟩

theorem arrived_object {members : List (String × Value)} (h : p (.object (Entries.ofList members)))
    (hmembers : ∀ m ∈ members, Arrived p d m.2) : Arrived p (d + 1) (.object (Entries.ofList members)) := by
  have hof : ∀ m ∈ Entries.ofList members, Arrived p d m.2 := fun m hm => hmembers m (Entries.mem_ofList hm)
  exact {
    depth_le := depth_object_le.2 fun m hm => (hof m hm).depth_le
    canonical := canonical_object.2 ⟨Entries.ascending_ofList members, fun m hm => (hof m hm).canonical⟩
    plain := everywhere_object.2 ⟨by simp, fun m hm => (hof m hm).plain⟩
    each := everywhere_object.2 ⟨h, fun m hm => (hof m hm).each⟩ }

end Value
end PolicyProvider
