import PolicyProvider.Json.Record
import PolicyProvider.Proofs.Entries
import PolicyProvider.Proofs.Json.Numeral
/-!
# Record — pieces of a record written and read back

Each way of writing a part of a record has a law with the way of reading it: texts, truth values, integers, lists, and
members that may be missing.  `read?_write` puts them together: the members of a written record are read as they were
written, if no two have one name.
-/
namespace PolicyProvider
namespace Json

theorem mapM_eq_some_map {α β : Type} {f : α → Option β} {g : α → β} {xs : List α} (h : ∀ x ∈ xs, f x = some (g x)) :
    xs.mapM f = some (xs.map g) := by
  induction xs with
  | nil => rfl
  | cons x xs ih =>
    have hx := h x (List.mem_cons_self ..)
    have hxs := ih fun y hy => h y (List.mem_cons_of_mem x hy)
    rw [List.mapM_cons, hx, hxs]
    rfl

theorem mapM_map_some {α β : Type} {read : β → Option α} {write : α → β} (h : ∀ a, read (write a) = some a)
    (xs : List α) : (xs.map write).mapM read = some xs := by
  have hid : xs.mapM (read ∘ write) = some (xs.map id) := mapM_eq_some_map fun a _ => h a
  rwa [List.map_id, ← List.mapM_map] at hid

/-! ## Texts -/

namespace Piece

theorem chars?_unit {n : Nat} (hhigh : isHighHalf n = false) (hlow : isLowHalf n = false) (pieces : List Piece) :
    chars? (.unit n :: pieces) = (chars? pieces).map (Char.ofNat n :: ·) := by
  cases pieces with
  | nil => simp [chars?, hhigh, hlow]
  | cons p pieces => cases p <;> simp [chars?, hhigh, hlow]

theorem chars?_ofChar (c : Char) (pieces : List Piece) :
    chars? (ofChar c :: pieces) = (chars? pieces).map (c :: ·) := by
  unfold ofChar
  by_cases hc : c.toNat < 0x20 && !(c == '\x08' || c == '\t' || c == '\n' || c == '\x0c' || c == '\r')
  · have hlt : c.toNat < 0x20 := by
      rw [Bool.and_eq_true, decide_eq_true_eq] at hc
      exact hc.1
    have hhigh : isHighHalf c.toNat = false := by
      unfold isHighHalf
      rw [decide_eq_false (by omega), Bool.false_and]
    have hlow : isLowHalf c.toNat = false := by
      unfold isLowHalf
      rw [decide_eq_false (by omega), Bool.false_and]
    rw [if_pos hc, chars?_unit hhigh hlow, Char.ofNat_toNat]
  · rw [if_neg hc, chars?]

theorem chars?_map_ofChar (cs : List Char) : chars? (cs.map ofChar) = some cs := by
  induction cs with
  | nil => rfl
  | cons c cs ih => rw [List.map_cons, chars?_ofChar, ih, Option.map_some]

theorem text?_ofString (s : String) : text? (ofString s) = some s := by
  rw [text?, ofString, chars?_map_ofChar, Option.map_some, String.ofList_toList]

end Piece

namespace Tree

theorem text?_ofString (s : String) : text? (ofString s) = some s := Piece.text?_ofString s

theorem texts?_ofStrings (ss : List String) : texts? (ofStrings ss) = some ss := mapM_map_some text?_ofString ss

theorem int64?_int (n : Int64) : int64? (Record.int n.toInt) = some n := by
  have hlow := n.le_toInt
  have hhigh := n.toInt_lt
  change (Numeral.value? (Numeral.ofInt n.toInt)).bind Number.toInt64? = some n
  rw [Numeral.value?_ofInt _ (by omega) (by omega), Option.bind_some, Number.toInt64?_toInt]

end Tree

/-! ## Members -/

namespace Record

theorem optional?_map {α : Type} {read : Tree → Option α} {write : α → Tree} (h : ∀ a, read (write a) = some a)
    (hnull : ∀ a, write a ≠ .null) (x : Option α) : optional? read (x.map write) = some x := by
  cases x with
  | none => rfl
  | some a =>
    have ha := hnull a
    rw [Option.map_some]
    unfold optional?
    split
    · rename_i heq
      cases heq
    · rename_i heq
      exact absurd (Option.some.inj heq) ha
    · rename_i t _ heq
      rw [← Option.some.inj heq, h a, Option.map_some]

theorem items?_map {α : Type} {read : Tree → Option α} {write : α → Tree} (h : ∀ a, read (write a) = some a)
    (xs : List α) : items? read (.array (xs.map write)) = some xs := mapM_map_some h xs

theorem items?_comp {α β : Type} {f : Tree → Option α} {g : Tree → Option β} {h : α → β}
    (hfg : ∀ t, g t = (f t).map h) (t : Tree) : items? g t = (items? f t).map (List.map h) := by
  have hmap : ∀ ts : List Tree, ts.mapM g = (ts.mapM f).map (List.map h) := fun ts => by
    induction ts with
    | nil => rfl
    | cons t ts ih =>
      rw [List.mapM_cons, List.mapM_cons, ih, hfg t]
      cases f t with
      | none => rfl
      | some a =>
        cases ts.mapM f <;> rfl
  unfold items?
  cases t.items? with
  | none => rfl
  | some ts => exact hmap ts

theorem list?_comp {α β : Type} {f : Tree → Option (List α)} {g : Tree → Option (List β)} {h : α → β}
    (hfg : ∀ t, g t = (f t).map (List.map h)) (o : Option Tree) : list? g o = (list? f o).map (List.map h) := by
  cases o with
  | none => rfl
  | some t => exact hfg t

theorem text_written (x : Option String) : optional? Tree.text? (x.map Tree.ofString) = some x :=
  optional?_map Tree.text?_ofString (fun _ h => nomatch h) x

theorem bool_written (x : Option Bool) : optional? Tree.bool? (x.map Tree.bool) = some x :=
  @optional?_map Bool Tree.bool? Tree.bool (fun _ => rfl) (fun _ h => nomatch h) x

theorem int64_written (x : Option Int64) : optional? Tree.int64? (x.map (int ·.toInt)) = some x :=
  optional?_map Tree.int64?_int (fun _ h => nomatch h) x

theorem texts_written (xs : List String) : list? Tree.texts? (some (Tree.ofStrings xs)) = some xs :=
  Tree.texts?_ofStrings xs

theorem mapM_length {α β : Type} {f : α → Option β} {xs : List α} {ys : List β} (h : xs.mapM f = some ys) :
    ys.length = xs.length := by
  induction xs generalizing ys with
  | nil =>
    cases h
    rfl
  | cons x xs ih =>
    rw [List.mapM_cons] at h
    cases hx : f x with
    | none =>
      rw [hx] at h
      cases h
    | some y =>
      cases hxs : xs.mapM f with
      | none =>
        rw [hx, hxs] at h
        cases h
      | some rest =>
        rw [hx, hxs] at h
        cases h
        rw [List.length_cons, List.length_cons, ih hxs]

theorem read?_length {known : List Member} {t : Tree} {parts : List (Option Tree)} (h : read? known t = some parts) :
    parts.length = known.length := by
  unfold read? at h
  split at h
  · obtain ⟨named, -, hparts⟩ := Option.bind_eq_some_iff.1 h
    exact mapM_length hparts
  · split at h
    · rename_i hitems
      cases h
      rw [List.length_append, List.length_map, List.length_map, List.length_drop]
      omega
    · cases h
  · cases h

def present (members : List (String × Option Tree)) : List (String × Tree) :=
  members.filterMap fun m => m.2.map fun t => (m.1, t)

theorem named?_write (members : List (String × Option Tree)) :
    named? (members.filterMap fun m => m.2.map fun t => (Piece.ofString m.1, t)) = some (present members) := by
  induction members with
  | nil => rfl
  | cons m members ih =>
    obtain ⟨name, tree⟩ := m
    cases tree with
    | none => exact ih
    | some t =>
      unfold named? at ih
      change List.mapM _ ((Piece.ofString name, t) :: _) = some ((name, t) :: present members)
      rw [List.mapM_cons, ih, Piece.text?_ofString]
      rfl

theorem pick?_present {members : List (String × Option Tree)} (hnodup : (members.map (·.1)).Nodup)
    {m : String × Option Tree} (hm : m ∈ members) : pick? (present members) m.1 = some m.2 := by
  have hfilter : (present members).filter (fun p => p.1 == m.1) = Entries.present [m] :=
    Entries.filter_present hnodup hm
  obtain ⟨name, tree⟩ := m
  unfold pick?
  rw [hfilter]
  cases tree <;> rfl

/-- **The members of a written record are read as they were written.** -/
theorem read?_write {known : List Member} {members : List (String × Option Tree)}
    (hnames : known.map (·.name) = members.map (·.1)) (hnodup : (known.map (·.name)).Nodup) :
    read? known (write members) = some (members.map (·.2)) := by
  rw [hnames] at hnodup
  have hpick : members.mapM (fun m => pick? (present members) m.1) = some (members.map (·.2)) :=
    mapM_eq_some_map fun m hm => pick?_present hnodup hm
  have hknown : known.mapM (fun m => pick? (present members) m.name) =
      members.mapM fun m => pick? (present members) m.1 := by
    have hmap := congrArg (List.mapM (pick? (present members))) hnames
    rwa [List.mapM_map, List.mapM_map] at hmap
  unfold read? write
  simp only
  rw [named?_write, ← hpick, ← hknown]
  rfl

end Record
end Json
end PolicyProvider
