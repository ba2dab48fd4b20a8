import Mathlib.Algebra.Group.Nat.Defs
import PolicyProvider.Value.MessagePack
import PolicyProvider.Proofs.Value.Basic
import PolicyProvider.Proofs.Text.Utf8
/-!
# MessagePack — values written as bytes are read back

Every head tells the length that was written into it (`isHead_listHead`, `isHead_mapHead`, `name_textHead`), so a value
is read back from its bytes whatever stands behind them, but for the reserved text (`valueWithin_bytes`).  What is read
from any bytes has no string left that is the reserved text, its names ascend and its lengths fit the heads
(`arrived_valueWithin`), so it is read back as itself.
-/
namespace PolicyProvider
namespace Value
namespace MessagePack

open Utf8 (toNat_ofNat_of_lt)

/-! ## Naturals -/

def value (digits : List UInt8) : Nat := digits.foldl (fun n b => 256 * n + b.toNat) 0

theorem value_concat (digits : List UInt8) (b : UInt8) : value (digits ++ [b]) = 256 * value digits + b.toNat := by
  simp [value]

@[simp] theorem length_bigEndian (count n : Nat) : (bigEndian count n).length = count := by
  induction count generalizing n with
  | zero => rfl
  | succ count ih => simp [bigEndian, ih]

theorem value_bigEndian {count n : Nat} (h : n < 256 ^ count) : value (bigEndian count n) = n := by
  induction count generalizing n with
  | zero =>
    obtain rfl : n = 0 := by simpa using h
    rfl
  | succ count ih =>
    have hhigh : n / 256 < 256 ^ count := Nat.div_lt_of_lt_mul (by rwa [Nat.pow_succ', Nat.mul_comm] at *)
    rw [bigEndian, value_concat, ih hhigh, toNat_ofNat_of_lt (by omega)]
    omega

theorem value_lt (digits : List UInt8) : value digits < 256 ^ digits.length := by
  induction digits using List.reverseRecOn with
  | nil => simp [value]
  | append_singleton digits b ih =>
    have hb := b.toNat_lt
    rw [value_concat, List.length_append, List.length_singleton, Nat.pow_succ]
    omega

theorem take_append (content rest : List UInt8) : take content.length (content ++ rest) = some (content, rest) := by
  induction content with
  | nil => rfl
  | cons b content ih => simp [take, ih]

theorem length_of_take {count : Nat} {input content rest : List UInt8} (h : take count input = some (content, rest)) :
    content.length = count := by
  induction count generalizing input content with
  | zero =>
    simp only [take, Option.some.injEq, Prod.mk.injEq] at h
    simp [← h.1]
  | succ count ih =>
    cases input with
    | nil => cases h
    | cons b input =>
      obtain ⟨⟨content, rest⟩, htake, ⟨⟩⟩ := Option.map_eq_some_iff.1 h
      simp [ih htake]

theorem natural_bigEndian {count n : Nat} (h : n < 256 ^ count) (rest : List UInt8) :
    natural count (bigEndian count n ++ rest) = some (n, rest) := by
  have htake := take_append (bigEndian count n) rest
  rw [length_bigEndian] at htake
  rw [natural, htake, Option.map_some]
  exact congrArg (fun m => some (m, rest)) (value_bigEndian h)

theorem natural_lt {count n : Nat} {input rest : List UInt8} (h : natural count input = some (n, rest)) :
    n < 256 ^ count := by
  obtain ⟨⟨digits, rest⟩, htake, ⟨⟩⟩ := Option.map_eq_some_iff.1 h
  have hlt := value_lt digits
  rwa [length_of_take htake] at hlt

/-! ## Texts -/

def Fits (s : String) : Prop := (Utf8.encode s).length < 2 ^ 32

instance (s : String) : Decidable (Fits s) := inferInstanceAs (Decidable (_ < _))

theorem textOf_encode (s : String) (rest : List UInt8) :
    textOf (Utf8.encode s).length (Utf8.encode s ++ rest) = some (s, rest) := by
  simp [textOf, take_append, Utf8.decode?_encode]

def StartsText (head : UInt8) : Prop :=
  0xA0 ≤ head.toNat ∧ head.toNat ≤ 0xBF ∨ 0xD9 ≤ head.toNat ∧ head.toNat ≤ 0xDB

theorem textHead_starts (n : Nat) : ∃ head tail, textHead n = head :: tail ∧ StartsText head := by
  unfold textHead StartsText
  split
  · have hhead : (UInt8.ofNat (0xA0 + n)).toNat = 0xA0 + n := toNat_ofNat_of_lt (by omega)
    exact ⟨_, _, rfl, by omega⟩
  · split
    · exact ⟨_, _, rfl, by decide⟩
    · split
      · exact ⟨_, _, rfl, by decide⟩
      · exact ⟨_, _, rfl, by decide⟩

theorem name_counted {head : UInt8} {count n : Nat}
    (hhead : ∀ rest, name (head :: rest) = (natural count rest).bind fun (n, rest) => textOf n rest)
    (h : n < 256 ^ count) (rest : List UInt8) : name (head :: bigEndian count n ++ rest) = textOf n rest := by
  rw [List.cons_append, hhead, natural_bigEndian h, Option.bind_some]

/-- The head of a text says how many bytes to read, in the shortest of four forms. -/
theorem name_textHead {n : Nat} (h : n < 2 ^ 32) (rest : List UInt8) : name (textHead n ++ rest) = textOf n rest := by
  unfold textHead
  by_cases h1 : n < 32
  · have hhead : (UInt8.ofNat (0xA0 + n)).toNat = 0xA0 + n := toNat_ofNat_of_lt (by omega)
    rw [if_pos h1, List.singleton_append, name]
    simp only [hhead]
    rw [if_pos (by omega), Nat.add_sub_cancel_left]
  by_cases h2 : n < 256
  · rw [if_neg h1, if_pos h2]
    exact name_counted (fun _ => rfl) (show n < 256 ^ 1 from h2) rest
  by_cases h3 : n < 65536
  · rw [if_neg h1, if_neg h2, if_pos h3]
    exact name_counted (fun _ => rfl) (show n < 256 ^ 2 from h3) rest
  · rw [if_neg h1, if_neg h2, if_neg h3]
    exact name_counted (fun _ => rfl) (show n < 256 ^ 4 from h) rest

theorem name_text {s : String} (h : Fits s) (rest : List UInt8) : name (text s ++ rest) = some (s, rest) := by
  unfold text
  rw [List.append_assoc, name_textHead h, textOf_encode]

theorem length_of_textOf {count : Nat} {input rest : List UInt8} {s : String}
    (h : textOf count input = some (s, rest)) : (Utf8.encode s).length = count := by
  simp only [textOf, Option.bind_eq_bind, Option.bind_eq_some_iff] at h
  obtain ⟨⟨content, rest⟩, htake, s, hdecode, ⟨⟩⟩ := h
  rw [Utf8.encode_of_decode? hdecode, length_of_take htake]

theorem fits_of_name {input rest : List UInt8} {s : String} (h : name input = some (s, rest)) : Fits s := by
  have hcounted : ∀ count ≤ 4, ∀ rest', ((natural count rest').bind fun (n, rest) => textOf n rest) = some (s, rest) →
      Fits s := by
    intro count hcount rest' h
    obtain ⟨⟨n, rest⟩, hn, htext⟩ := Option.bind_eq_some_iff.1 h
    have hlt := natural_lt hn
    have hmono : 256 ^ count ≤ 256 ^ 4 := Nat.pow_le_pow_right (by decide) hcount
    have hlength := length_of_textOf htext
    unfold Fits
    omega
  cases input with
  | nil => cases h
  | cons head input =>
    have hhead := head.toNat_lt
    rw [name] at h
    split at h
    · have hlength := length_of_textOf h
      unfold Fits
      omega
    · split at h
      · exact hcounted 1 (by decide) _ h
      · split at h
        · exact hcounted 2 (by decide) _ h
        · split at h
          · exact hcounted 4 (by decide) _ h
          · cases h

/-! ## Heads of lists and objects -/

def IsHead (isObject : Bool) (n : Nat) (bytes : List UInt8) : Prop :=
  ∃ head tail, bytes = head :: tail ∧ ∀ rest, containerSize head (tail ++ rest) = some (some (isObject, n, rest))

theorem isHead_counted {isObject : Bool} {head : UInt8} {count n : Nat}
    (hhead : ∀ rest, containerSize head rest = (natural count rest).map fun (n, rest) => some (isObject, n, rest))
    (h : n < 256 ^ count) : IsHead isObject n (head :: bigEndian count n) := by
  refine ⟨head, bigEndian count n, rfl, fun rest => ?_⟩
  rw [hhead, natural_bigEndian h, Option.map_some]

/-- The head of a container is the shortest of three forms, which lists and objects mark by bytes of their own. -/
theorem isHead_shortest {isObject : Bool} {fixed : Nat → UInt8} {two four : UInt8}
    (hfixed : ∀ n < 16, ∀ rest, containerSize (fixed n) rest = some (some (isObject, n, rest)))
    (htwo : ∀ rest, containerSize two rest = (natural 2 rest).map fun (n, rest) => some (isObject, n, rest))
    (hfour : ∀ rest, containerSize four rest = (natural 4 rest).map fun (n, rest) => some (isObject, n, rest))
    {n : Nat} (h : n < 2 ^ 32) :
    IsHead isObject n
      (if n < 16 then [fixed n] else if n < 65536 then two :: bigEndian 2 n else four :: bigEndian 4 n) := by
  by_cases h1 : n < 16
  · rw [if_pos h1]
    exact ⟨fixed n, [], rfl, hfixed n h1⟩
  by_cases h2 : n < 65536
  · rw [if_neg h1, if_pos h2]
    exact isHead_counted htwo (show n < 256 ^ 2 from h2)
  · rw [if_neg h1, if_neg h2]
    exact isHead_counted hfour (show n < 256 ^ 4 from h)

theorem isHead_listHead {n : Nat} (h : n < 2 ^ 32) : IsHead false n (listHead n) := by
  have hfixed : ∀ n < 16, ∀ rest, containerSize (UInt8.ofNat (0x90 + n)) rest = some (some (false, n, rest)) := by
    intro n hn rest
    have hhead : (UInt8.ofNat (0x90 + n)).toNat = 0x90 + n := toNat_ofNat_of_lt (by omega)
    unfold containerSize
    simp only [hhead]
    rw [if_neg (by omega), if_pos (by omega), Nat.add_sub_cancel_left]
  exact isHead_shortest hfixed (fun _ => rfl) (fun _ => rfl) h

theorem isHead_mapHead {n : Nat} (h : n < 2 ^ 32) : IsHead true n (mapHead n) := by
  have hfixed : ∀ n < 16, ∀ rest, containerSize (UInt8.ofNat (0x80 + n)) rest = some (some (true, n, rest)) := by
    intro n hn rest
    have hhead : (UInt8.ofNat (0x80 + n)).toNat = 0x80 + n := toNat_ofNat_of_lt (by omega)
    unfold containerSize
    simp only [hhead]
    rw [if_pos (by omega), Nat.add_sub_cancel_left]
  exact isHead_shortest hfixed (fun _ => rfl) (fun _ => rfl) h

theorem containerSize_lt {head : UInt8} {rest rest' : List UInt8} {isObject : Bool} {n : Nat}
    (h : containerSize head rest = some (some (isObject, n, rest'))) : n < 2 ^ 32 := by
  have hhead := head.toNat_lt
  unfold containerSize at h
  dsimp only at h
  split at h
  · simp only [Option.some.injEq, Prod.mk.injEq] at h
    omega
  · split at h
    · simp only [Option.some.injEq, Prod.mk.injEq] at h
      omega
    · split at h
      · obtain ⟨⟨m, rest⟩, hm, ⟨⟩⟩ := Option.map_eq_some_iff.1 h
        have hlt := natural_lt hm
        omega
      · split at h
        · obtain ⟨⟨m, rest⟩, hm, ⟨⟩⟩ := Option.map_eq_some_iff.1 h
          exact natural_lt hm
        · cases h

/-! ## Items and members -/

theorem repeated_flatMap {α β : Type} {reader : Reader β} {write : α → List UInt8} {f : α → β} {xs : List α}
    (h : ∀ a ∈ xs, ∀ rest, reader (write a ++ rest) = some (f a, rest)) (rest : List UInt8) :
    repeated reader xs.length (xs.flatMap write ++ rest) = some (xs.map f, rest) := by
  induction xs with
  | nil => rfl
  | cons a xs ih =>
    have hfirst := h a (List.mem_cons_self ..) (xs.flatMap write ++ rest)
    have hothers := ih fun b hb => h b (List.mem_cons_of_mem a hb)
    rw [List.flatMap_cons, List.append_assoc, List.length_cons, repeated, hfirst]
    simp [hothers]

theorem repeated_forall {α : Type} {reader : Reader α} {p : α → Prop}
    (h : ∀ input a rest, reader input = some (a, rest) → p a) {count : Nat} {input rest : List UInt8} {xs : List α}
    (hread : repeated reader count input = some (xs, rest)) : xs.length = count ∧ ∀ a ∈ xs, p a := by
  induction count generalizing input xs with
  | zero =>
    cases hread
    simp
  | succ count ih =>
    simp only [repeated, Option.bind_eq_bind, Option.bind_eq_some_iff] at hread
    obtain ⟨⟨first, rest₁⟩, hfirst, ⟨others, rest₂⟩, hothers, ⟨⟩⟩ := hread
    obtain ⟨hlength, hall⟩ := ih hothers
    simp only [List.length_cons, hlength, List.mem_cons, forall_eq_or_imp, true_and]
    exact ⟨h _ _ _ hfirst, hall⟩

def member (inner : Reader Value) : Reader (String × Value) := fun input => do
  let (k, input) ← name input
  let (v, input) ← inner input
  some ((k, v), input)

theorem itemsBytes_eq (items : List Value) : itemsBytes items = items.flatMap bytes := by
  induction items with
  | nil => rfl
  | cons v items ih => rw [itemsBytes, ih, List.flatMap_cons]

theorem membersBytes_eq (members : List (String × Value)) :
    membersBytes members = members.flatMap fun m => text m.1 ++ bytes m.2 := by
  induction members with
  | nil => rfl
  | cons m members ih =>
    rw [membersBytes, ih, List.flatMap_cons]

/-! ## Values by their first byte -/

theorem valueWithin_scalar {head : UInt8} {rest : List UInt8} (h : containerSize head rest = some none) (d : Nat) :
    valueWithin d (head :: rest) = scalar (head :: rest) := by
  cases d with
  | zero => simp [valueWithin, h]
  | succ d => simp [valueWithin, valueWith, h]

theorem valueWithin_list {n : Nat} {bytes : List UInt8} (h : IsHead false n bytes) (d : Nat) (rest : List UInt8) :
    valueWithin (d + 1) (bytes ++ rest) =
      (repeated (valueWithin d) n rest).map fun (items, rest) => (.list items, rest) := by
  obtain ⟨head, tail, rfl, hsize⟩ := h
  rw [List.cons_append, valueWithin, valueWith, hsize]
  change (repeated (valueWithin d) n rest).bind _ = _
  cases repeated (valueWithin d) n rest <;> rfl

theorem valueWithin_object {n : Nat} {bytes : List UInt8} (h : IsHead true n bytes) (d : Nat) (rest : List UInt8) :
    valueWithin (d + 1) (bytes ++ rest) =
      (repeated (member (valueWithin d)) n rest).map fun (members, rest) =>
        (.object (Entries.ofList members), rest) := by
  obtain ⟨head, tail, rfl, hsize⟩ := h
  rw [List.cons_append, valueWithin, valueWith, hsize]
  change (repeated (member (valueWithin d)) n rest).bind _ = _
  cases repeated (member (valueWithin d)) n rest <;> rfl

theorem containerSize_of_startsText {head : UInt8} (h : StartsText head) (rest : List UInt8) :
    containerSize head rest = some none := by
  unfold StartsText at h
  unfold containerSize
  dsimp only
  rw [if_neg (by omega), if_neg (by omega), if_neg (by omega), if_neg (by omega)]

theorem scalar_of_startsText {head : UInt8} (h : StartsText head) (rest : List UInt8) :
    scalar (head :: rest) = (name (head :: rest)).map fun (s, rest) => (ofText s, rest) := by
  unfold StartsText at h
  rw [scalar]
  dsimp only
  rw [if_neg (by omega), if_neg (by omega), if_neg (by omega), if_neg (by omega), if_neg (by omega), if_neg (by omega),
    if_neg (by omega), if_neg (by omega), if_neg (by omega)]

theorem valueWithin_text {s : String} (h : Fits s) (d : Nat) (rest : List UInt8) :
    valueWithin d (text s ++ rest) = some (ofText s, rest) := by
  have hname := name_text h rest
  obtain ⟨head, tail, hhead, hstarts⟩ := textHead_starts (Utf8.encode s).length
  have htext : text s ++ rest = head :: (tail ++ Utf8.encode s ++ rest) := by
    rw [text, hhead]
    simp
  rw [htext] at hname ⊢
  rw [valueWithin_scalar (containerSize_of_startsText hstarts _), scalar_of_startsText hstarts, hname]
  rfl

theorem valueWithin_number (x : Binary64) (d : Nat) (rest : List UInt8) :
    valueWithin d (bytes (.number x) ++ rest) = some (.number x, rest) := by
  have hbits : x.bits.toNat < 256 ^ 8 := x.bits.toNat_lt
  have hnumber : Binary64.ofBits x.bits.toNat = x := by
    unfold Binary64.ofBits
    rw [UInt64.ofNat_toNat]
  have hhead : ∀ rest, scalar (0xCB :: rest) =
      (natural 8 rest).map fun (m, rest) => (.number (Binary64.ofBits m), rest) := fun _ => rfl
  rw [bytes, List.cons_append, valueWithin_scalar rfl, hhead, natural_bigEndian hbits]
  simp [hnumber]

/-! ## Values -/

def HeadFits : Value → Prop
  | .string s => Fits s
  | .list items => items.length < 2 ^ 32
  | .object members => members.length < 2 ^ 32 ∧ ∀ m ∈ members, Fits m.1
  | _ => True

instance : DecidablePred HeadFits
  | .string s => inferInstanceAs (Decidable (Fits s))
  | .list items => inferInstanceAs (Decidable (items.length < 2 ^ 32))
  | .object members => inferInstanceAs (Decidable (members.length < 2 ^ 32 ∧ ∀ m ∈ members, Fits m.1))
  | .null | .unknown | .bool _ | .number _ => isTrue trivial

/-- **That all lengths in a value are below 2³².** -/
def Sized (v : Value) : Prop := v.Everywhere HeadFits

instance (v : Value) : Decidable (Sized v) := inferInstanceAs (Decidable (v.Everywhere HeadFits))

theorem sized_list {items : List Value} : Sized (.list items) ↔ items.length < 2 ^ 32 ∧ ∀ v ∈ items, Sized v :=
  everywhere_list

theorem sized_object {members : List (String × Value)} :
    Sized (.object members) ↔ (members.length < 2 ^ 32 ∧ ∀ m ∈ members, Fits m.1) ∧ ∀ m ∈ members, Sized m.2 :=
  everywhere_object

/-- **A value is read back from its bytes**, whatever stands behind them: its members in order, and the reserved text as
unknown. -/
theorem valueWithin_bytes {v : Value} (hsized : Sized v) {d : Nat} (hdepth : v.depth ≤ d) (rest : List UInt8) :
    valueWithin d (bytes v ++ rest) = some (v.sorted.mapLeaves revealed, rest) := by
  induction v using Value.induction generalizing d rest with
  | null => exact valueWithin_scalar rfl d
  | unknown => exact valueWithin_text (by decide) d rest
  | bool b => cases b <;> exact valueWithin_scalar rfl d
  | number x => exact valueWithin_number x d rest
  | string s => exact valueWithin_text (everywhere_string.1 hsized) d rest
  | list items ih =>
    obtain ⟨hlength, hitems⟩ := sized_list.1 hsized
    -- a container needs one level of the depth that is left, and its items have the others
    cases d with
    | zero => simp [depth] at hdepth
    | succ d =>
      rw [depth_list_le] at hdepth
      have hread := repeated_flatMap (fun v hv rest => ih v hv (hitems v hv) (hdepth v hv) rest) rest
      rw [bytes, List.append_assoc, valueWithin_list (isHead_listHead hlength), itemsBytes_eq, hread,
        mapLeaves_sorted_list]
      rfl
  | object members ih =>
    obtain ⟨⟨hlength, hnames⟩, hmembers⟩ := sized_object.1 hsized
    cases d with
    | zero => simp [depth] at hdepth
    | succ d =>
      rw [depth_object_le] at hdepth
      have hmember : ∀ m ∈ members, ∀ rest, member (valueWithin d) ((text m.1 ++ bytes m.2) ++ rest) =
          some ((m.1, m.2.sorted.mapLeaves revealed), rest) := by
        intro m hm rest
        rw [List.append_assoc, member, name_text (hnames m hm)]
        simp [ih m hm (hmembers m hm) (hdepth m hm)]
      rw [bytes, List.append_assoc, valueWithin_object (isHead_mapHead hlength), membersBytes_eq,
        repeated_flatMap hmember rest, mapLeaves_sorted_object]
      rfl

/-! ## What is read -/

theorem arrived_scalar {input rest : List UInt8} {v : Value} (h : scalar input = some (v, rest)) (d : Nat) :
    Arrived HeadFits d v := by
  have hnumber : ∀ x, Arrived HeadFits d (.number x) := fun x => arrived_leaf rfl rfl trivial (by simp) trivial
  have hbool : ∀ b, Arrived HeadFits d (.bool b) := fun b => arrived_leaf rfl rfl trivial (by simp) trivial
  have hread : ∀ {α : Type} {r : Option (α × List UInt8)} (f : α → Binary64),
      r.map (fun p => (Value.number (f p.1), p.2)) = some (v, rest) → Arrived HeadFits d v := by
    intro α r f h
    obtain ⟨x, -, hx⟩ := Option.map_eq_some_iff.1 h
    exact (Prod.mk.inj hx).1 ▸ hnumber _
  cases input with
  | nil => cases h
  | cons head input =>
    -- the cases are the first bytes in the order in which they are tried
    rw [scalar] at h
    dsimp only at h
    split at h
    · cases h
      exact hnumber _
    split at h
    · cases h
      exact hnumber _
    split at h
    · cases h
      exact arrived_leaf rfl rfl trivial (by simp) trivial
    split at h
    · cases h
      exact hbool false
    split at h
    · cases h
      exact hbool true
    split at h
    · exact hread Binary64.ofBits32 h
    split at h
    · exact hread Binary64.ofBits h
    split at h
    · exact hread Binary64.ofNat h
    split at h
    · exact hread Binary64.ofInt h
    · obtain ⟨⟨s, rest⟩, hname, hs⟩ := Option.map_eq_some_iff.1 h
      exact (Prod.mk.inj hs).1 ▸ arrived_ofText trivial (fits_of_name hname)

theorem arrived_member {d : Nat} {inner : Reader Value}
    (h : ∀ input v rest, inner input = some (v, rest) → Arrived HeadFits d v) (input : List UInt8)
    (m : String × Value) (rest : List UInt8) (hread : member inner input = some (m, rest)) :
    Fits m.1 ∧ Arrived HeadFits d m.2 := by
  simp only [member, Option.bind_eq_bind, Option.bind_eq_some_iff] at hread
  obtain ⟨⟨k, rest₁⟩, hname, ⟨v, rest₂⟩, hvalue, ⟨⟩⟩ := hread
  exact ⟨fits_of_name hname, h _ _ _ hvalue⟩

theorem headFits_ofList {members : List (String × Value)} (hlength : members.length < 2 ^ 32)
    (h : ∀ m ∈ members, Fits m.1) : HeadFits (.object (Entries.ofList members)) :=
  ⟨Nat.lt_of_le_of_lt (Entries.length_ofList_le members) hlength, fun m hm => h m (Entries.mem_ofList hm)⟩

/-- **Every value that is read has arrived**: each container within the depth that is left for it. -/
theorem arrived_valueWithin {d : Nat} {input rest : List UInt8} {v : Value}
    (h : valueWithin d input = some (v, rest)) : Arrived HeadFits d v := by
  induction d generalizing input v rest with
  | zero =>
    cases input with
    | nil => cases h
    | cons head input =>
      simp only [valueWithin] at h
      split at h
      · exact arrived_scalar h 0
      · cases h
  | succ d ih =>
    cases input with
    | nil => cases h
    | cons head input =>
      rw [valueWithin, valueWith] at h
      obtain ⟨size, hsize, h⟩ := Option.bind_eq_some_iff.1 h
      split at h
      · exact arrived_scalar h (d + 1)
      · obtain ⟨⟨items, rest⟩, hread, ⟨⟩⟩ := Option.bind_eq_some_iff.1 h
        obtain ⟨rfl, hitems⟩ := repeated_forall (fun _ _ _ => ih) hread
        exact arrived_list (containerSize_lt hsize) hitems
      · obtain ⟨⟨members, rest⟩, hread, ⟨⟩⟩ := Option.bind_eq_some_iff.1 h
        change repeated (member (valueWithin d)) _ _ = _ at hread
        obtain ⟨rfl, hmembers⟩ := repeated_forall (arrived_member fun _ _ _ => ih) hread
        exact arrived_object (headFits_ofList (containerSize_lt hsize) fun m hm => (hmembers m hm).1) fun m hm =>
          (hmembers m hm).2

theorem bytes_ne_nil (v : Value) : bytes v ≠ [] := by
  have htext : ∀ s, text s ≠ [] := fun s => by
    obtain ⟨head, tail, hhead, -⟩ := textHead_starts (Utf8.encode s).length
    simp [text, hhead]
  cases v with
  | null => simp [bytes]
  | unknown => exact htext unknownText
  | bool b => cases b <;> simp [bytes]
  | number x => simp [bytes]
  | string s => exact htext s
  | list items =>
    unfold bytes listHead
    split
    · simp
    · split <;> simp
  | object members =>
    unfold bytes mapHead
    split
    · simp
    · split <;> simp

end MessagePack

open MessagePack (maxDepth Sized)

/-! ## Whole texts -/

theorem encodeMessagePack_eq_nil {v : Value} : encodeMessagePack v = [] ↔ v = .null := by
  unfold encodeMessagePack
  cases v <;> simp [isNull, MessagePack.bytes_ne_nil]

theorem decodeMessagePack_bytes {v : Value} (hsized : Sized v) (hdepth : v.depth ≤ maxDepth) :
    decodeMessagePack (MessagePack.bytes v) = .ok (v.sorted.mapLeaves revealed) := by
  have hread := MessagePack.valueWithin_bytes hsized hdepth []
  rw [List.append_nil] at hread
  unfold decodeMessagePack
  rw [if_neg (by simpa using MessagePack.bytes_ne_nil v), hread]

theorem decodeMessagePack_encodeMessagePack {v : Value} (hsized : Sized v) (hdepth : v.depth ≤ maxDepth) :
    decodeMessagePack (encodeMessagePack v) = .ok (v.sorted.mapLeaves revealed) := by
  unfold encodeMessagePack
  by_cases hnull : v.isNull = true
  · obtain rfl := isNull_iff.1 hnull
    rfl
  · rw [if_neg hnull, decodeMessagePack_bytes hsized hdepth]

theorem arrived_of_decodeMessagePack {input : List UInt8} {v : Value} (h : decodeMessagePack input = .ok v) :
    Arrived MessagePack.HeadFits maxDepth v := by
  unfold decodeMessagePack at h
  split at h
  · cases h
    exact arrived_leaf rfl rfl trivial (by simp) trivial
  · split at h
    · rename_i hread
      cases h
      exact MessagePack.arrived_valueWithin hread
    · cases h

theorem sorted_eq_of_encodeMessagePack_eq {v w : Value} (hv : Sized v) (hw : Sized w) (hplain : v.Plain)
    (hplain' : w.Plain) (h : encodeMessagePack v = encodeMessagePack w) : v.sorted = w.sorted := by
  by_cases hnull : v = .null
  · have hnull' : w = .null := encodeMessagePack_eq_nil.1 (h ▸ encodeMessagePack_eq_nil.2 hnull)
    rw [hnull, hnull']
  · have hnull' : w ≠ .null := fun heq => hnull (encodeMessagePack_eq_nil.1 (h.trans (encodeMessagePack_eq_nil.2 heq)))
    have hbytes : MessagePack.bytes v = MessagePack.bytes w := by
      unfold encodeMessagePack at h
      rwa [if_neg (by rwa [isNull_iff]), if_neg (by rwa [isNull_iff])] at h
    -- both are read within a depth that is enough for either
    have hread := MessagePack.valueWithin_bytes hv (Nat.le_max_left v.depth w.depth) []
    have hread' := MessagePack.valueWithin_bytes hw (Nat.le_max_right v.depth w.depth) []
    rw [hbytes, hread', Option.some.injEq, Prod.mk.injEq] at hread
    rw [← mapLeaves_revealed_sorted hplain, ← mapLeaves_revealed_sorted hplain', hread.1]

/-- **Values as MessagePack.**  A value within the reader's depth is read back from its bytes with the reserved text
read as unknown and nothing else changed, in whatever order its members are written.  Only null is no bytes.  What is
read from any bytes is written and read as itself, and values without the reserved text have bytes of their own. -/
theorem messagePack_round_trip :
    (∀ v : Value, v.Canonical → Sized v → v.depth ≤ maxDepth →
      decodeMessagePack (encodeMessagePack v) = .ok (v.mapLeaves revealed)) ∧
    (∀ v : Value, Sized v → v.depth ≤ maxDepth →
      decodeMessagePack (encodeMessagePack v) = .ok (v.sorted.mapLeaves revealed)) ∧
    (∀ v : Value, encodeMessagePack v = [] ↔ v = .null) ∧ decodeMessagePack [] = .ok .null ∧
    (∀ input v, decodeMessagePack input = .ok v → decodeMessagePack (encodeMessagePack v) = .ok v) ∧
    (∀ v w : Value, Sized v → Sized w → v.Plain → w.Plain → encodeMessagePack v = encodeMessagePack w →
      v.sorted = w.sorted ∧ (v.Canonical → w.Canonical → v = w)) := by
  refine ⟨?_, fun v => decodeMessagePack_encodeMessagePack, fun v => encodeMessagePack_eq_nil, rfl, ?_, ?_⟩
  · intro v hcanonical hsized hdepth
    rw [decodeMessagePack_encodeMessagePack hsized hdepth, sorted_eq_self hcanonical]
  · intro input v h
    have harrived := arrived_of_decodeMessagePack h
    rw [decodeMessagePack_encodeMessagePack harrived.each harrived.depth_le, sorted_eq_self harrived.canonical,
      mapLeaves_revealed_eq_self harrived.plain]
  · intro v w hsized hsized' hplain hplain' h
    have hsorted := sorted_eq_of_encodeMessagePack_eq hsized hsized' hplain hplain' h
    refine ⟨hsorted, fun hcanonical hcanonical' => ?_⟩
    rwa [sorted_eq_self hcanonical, sorted_eq_self hcanonical'] at hsorted

/-- A name keeps the reserved text, a number its payload, and nothing is lost that is empty or null. -/
theorem messagePack_round_trip_on_nested :
    decodeMessagePack (encodeMessagePack (.object [("__unknown__", .string "__unknown__"),
      ("a", .list [.null, .list [], .object [], .number ⟨0x7FF8000000000001⟩])])) =
    .ok (.object [("__unknown__", .unknown),
      ("a", .list [.null, .list [], .object [], .number ⟨0x7FF8000000000001⟩])]) :=
  messagePack_round_trip.1 _ (by decide) (by decide) (by decide)

end Value
end PolicyProvider
