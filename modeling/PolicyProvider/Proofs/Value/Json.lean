import PolicyProvider.Proofs.Value.Basic
import PolicyProvider.Proofs.Text.Utf8
import PolicyProvider.Proofs.Json.Record
import PolicyProvider.Proofs.Json.NumeralText
/-!
# Json — values written as JSON are read back

Whatever its strings and names are, the tree of a value is read back from its text (`legible_toTree`), and it is nested
as deep as the value (`depth_toTree`).  So reading succeeds within the depth limit only (`decodeJson_encodeJson`), if
each number in the value is read as itself (`Faithful`): a number is read part by part, and one that is far from one may
come back as its neighbour.
-/
namespace PolicyProvider

def Binary64.Rereads (x : Binary64) : Prop :=
  (Json.Numeral.ofBinary64 x).value?.map Json.Number.toBinary64 = some x

instance (x : Binary64) : Decidable x.Rereads := inferInstanceAs (Decidable (_ = _))

namespace Value

open Json (Tree Piece Numeral)

/-! ## Leaves -/

/-- What JSON carries of a leaf: no number that is infinite or undefined. -/
def carried : Value → Value
  | .number x => if x.isFinite then .number x else .null
  | v => revealed v

def NumberFinite : Value → Prop
  | .number x => x.isFinite = true
  | _ => True

theorem carried_eq_self {v : Value} (hfinite : NumberFinite v) (hplain : v ≠ .string unknownText) : carried v = v := by
  cases v with
  | number x =>
    change x.isFinite = true at hfinite
    rw [carried, if_pos hfinite]
  | _ => exact revealed_eq_self.2 hplain

/-- That a number is read as itself, if JSON can write it and it is not zero. -/
def NumberRereads : Value → Prop
  | .number x => x.isFinite = true → x.isZero = false → x.Rereads
  | _ => True

instance : DecidablePred NumberRereads
  | .number x => inferInstanceAs (Decidable (x.isFinite = true → x.isZero = false → x.Rereads))
  | .null | .unknown | .bool _ | .string _ | .list _ | .object _ => isTrue trivial

/-- **That every number in a value that JSON can write is read as itself.** -/
def Faithful (v : Value) : Prop := v.Everywhere NumberRereads

instance (v : Value) : Decidable v.Faithful := inferInstanceAs (Decidable (v.Everywhere NumberRereads))

theorem rereads_of_isZero {x : Binary64} (h : x.isZero = true) : x.Rereads := by
  have hlt := x.bits.toNat_lt
  have hzeros : x = ⟨0⟩ ∨ x = ⟨9223372036854775808⟩ := by
    unfold Binary64.isZero at h
    rw [beq_iff_eq, Binary64.pow63_eq] at h
    rcases (show x.bits.toNat = 0 ∨ x.bits.toNat = 9223372036854775808 by omega) with hbits | hbits
    · exact .inl (congrArg Binary64.mk (UInt64.toNat_inj.1 hbits))
    · exact .inr (congrArg Binary64.mk (UInt64.toNat_inj.1 hbits))
  rcases hzeros with rfl | rfl
  · decide +kernel
  · decide +kernel

/-! ## The tree of a value -/

theorem itemsToTrees_eq (items : List Value) : itemsToTrees items = items.map toTree := by
  induction items with
  | nil => rfl
  | cons v items ih => rw [itemsToTrees, ih, List.map_cons]

theorem membersToTrees_eq (members : List (String × Value)) :
    membersToTrees members = members.map fun m => (Piece.ofString m.1, toTree m.2) := by
  induction members with
  | nil => rfl
  | cons m members ih => rw [membersToTrees, ih, List.map_cons]

mutual

theorem depth_toTree : ∀ v : Value, v.toTree.depth = v.depth
  | .null => rfl
  | .unknown => rfl
  | .bool _ => rfl
  | .number x => by
    unfold toTree
    split <;> rfl
  | .string _ => rfl
  | .list items => congrArg (· + 1) (itemsDepth_itemsToTrees items)
  | .object members => congrArg (· + 1) (membersDepth_membersToTrees members)

theorem itemsDepth_itemsToTrees : ∀ items : List Value, Tree.itemsDepth (itemsToTrees items) = itemsDepth items
  | [] => rfl
  | v :: rest => by
    rw [itemsToTrees, Tree.itemsDepth, itemsDepth, depth_toTree v, itemsDepth_itemsToTrees rest]

theorem membersDepth_membersToTrees : ∀ members : List (String × Value),
    Tree.membersDepth (membersToTrees members) = membersDepth members
  | [] => rfl
  | (_, v) :: rest => by
    rw [membersToTrees, Tree.membersDepth, membersDepth, depth_toTree v, membersDepth_membersToTrees rest]

end

/-- **Whatever a value holds, its tree can be read where it is written.** -/
theorem legible_toTree (v : Value) : v.toTree.Legible := by
  induction v using Value.induction with
  | null => exact Tree.legible_null
  | unknown => exact Tree.legible_ofString unknownText
  | bool b => exact Tree.legible_bool b
  | number x =>
    unfold toTree
    split
    · exact Tree.legible_number fun rest => Numeral.stands_of_wellFormed (Numeral.wellFormed_ofBinary64 x)
    · exact Tree.legible_null
  | string s => exact Tree.legible_ofString s
  | list items ih =>
    rw [toTree, itemsToTrees_eq]
    refine Tree.legible_array fun t ht => ?_
    obtain ⟨v, hv, rfl⟩ := List.mem_map.1 ht
    exact ih v hv
  | object members ih =>
    rw [toTree, membersToTrees_eq]
    refine Tree.legible_object fun t ht => ?_
    obtain ⟨m, hm, rfl⟩ := List.mem_map.1 ht
    exact ⟨fun p hp => Piece.legible_ofString hp, ih m hm⟩

theorem parseBytes?_encodeJson (v : Value) : Json.parseBytes? (encodeJson v) = some v.toTree := by
  unfold Json.parseBytes? encodeJson jsonText
  rw [Utf8.decodeChars?_flatMap, Option.bind_some, Tree.parse?_written (legible_toTree v)]

/-! ## The value of a tree -/

theorem ofTree?_number {x : Binary64} (h : NumberRereads (.number x)) (hfinite : x.isFinite = true) :
    ofTree? (.number (Numeral.ofBinary64 x)) = some (.number x) := by
  have hreads : x.Rereads := by
    cases hzero : x.isZero with
    -- the text of a zero keeps the sign, which the search for digits never sees
    | true => exact rereads_of_isZero hzero
    | false => exact h hfinite hzero
  obtain ⟨n, hn, hx⟩ := Option.map_eq_some_iff.1 hreads
  rw [ofTree?, hn, Option.map_some, hx]

theorem ofTree?_ofString (s : String) : ofTree? (Tree.ofString s) = some (ofText s) := by
  rw [Tree.ofString, ofTree?, Piece.text?_ofString, Option.map_some]

theorem itemsOfTrees?_itemsToTrees {f : Value → Value} {items : List Value}
    (h : ∀ v ∈ items, ofTree? v.toTree = some (f v)) : itemsOfTrees? (itemsToTrees items) = some (items.map f) := by
  induction items with
  | nil => rfl
  | cons v items ih =>
    have hv := h v (List.mem_cons_self ..)
    have hitems := ih fun w hw => h w (List.mem_cons_of_mem v hw)
    simp [itemsToTrees, itemsOfTrees?, hv, hitems]

theorem membersOfTrees?_membersToTrees {f : Value → Value} {members : List (String × Value)}
    (h : ∀ m ∈ members, ofTree? m.2.toTree = some (f m.2)) :
    membersOfTrees? (membersToTrees members) = some (Entries.mapValues f members) := by
  induction members with
  | nil => rfl
  | cons m members ih =>
    have hm := h m (List.mem_cons_self ..)
    have hmembers := ih fun w hw => h w (List.mem_cons_of_mem m hw)
    rw [membersToTrees]
    simp [membersOfTrees?, Piece.text?_ofString, hm, hmembers, Entries.mapValues]

/-- **A value is read back from its tree**: its members in order, and of each leaf what JSON carries. -/
theorem ofTree?_toTree {v : Value} (h : v.Faithful) : ofTree? v.toTree = some (v.sorted.mapLeaves carried) := by
  induction v using Value.induction with
  | null => rfl
  | unknown => exact ofTree?_ofString unknownText
  | bool b => rfl
  | number x =>
    cases hfinite : x.isFinite with
    | true => simpa [toTree, sorted, mapLeaves, carried, hfinite] using ofTree?_number (everywhere_number.1 h) hfinite
    | false => simp [toTree, sorted, mapLeaves, carried, hfinite, ofTree?]
  | string s => exact ofTree?_ofString s
  | list items ih =>
    have hitems := itemsOfTrees?_itemsToTrees fun v hv => ih v hv ((everywhere_list.1 h).2 v hv)
    rw [toTree, ofTree?, hitems, mapLeaves_sorted_list]
    rfl
  | object members ih =>
    have hmembers := membersOfTrees?_membersToTrees (f := fun v => v.sorted.mapLeaves carried) fun m hm =>
      ih m hm ((everywhere_object.1 h).2 m hm)
    rw [toTree, ofTree?, hmembers, mapLeaves_sorted_object]
    rfl

/-! ## What is read -/

mutual

/-- **Every value that a tree stands for has arrived**, nested no deeper than the tree. -/
theorem arrived_ofTree? : ∀ {t : Tree} {v : Value}, ofTree? t = some v → Arrived NumberFinite t.depth v
  | .null, _, h => Option.some.inj h ▸ arrived_leaf rfl rfl trivial (by simp) trivial
  | .bool b, _, h => Option.some.inj h ▸ arrived_leaf rfl rfl trivial (by simp) trivial
  | .number n, _, h => by
    obtain ⟨m, hm, rfl⟩ := Option.map_eq_some_iff.1 h
    exact arrived_leaf rfl rfl trivial (by simp) (Numeral.isFinite_of_value? hm)
  | .string pieces, _, h => by
    obtain ⟨s, -, rfl⟩ := Option.map_eq_some_iff.1 h
    exact arrived_ofText trivial trivial
  | .array items, _, h => by
    obtain ⟨vs, hvs, rfl⟩ := Option.map_eq_some_iff.1 h
    exact arrived_list trivial (arrived_itemsOfTrees? hvs)
  | .object members, _, h => by
    obtain ⟨ms, hms, rfl⟩ := Option.map_eq_some_iff.1 h
    exact arrived_object trivial (arrived_membersOfTrees? hms)

theorem arrived_itemsOfTrees? : ∀ {ts : List Tree} {vs : List Value}, itemsOfTrees? ts = some vs →
    ∀ v ∈ vs, Arrived NumberFinite (Tree.itemsDepth ts) v
  | [], _, h, v, hv => by
    cases h
    cases hv
  | t :: ts, _, h, v, hv => by
    simp only [itemsOfTrees?, Option.bind_eq_bind, Option.bind_eq_some_iff] at h
    obtain ⟨w, hw, ws, hws, ⟨⟩⟩ := h
    rcases List.mem_cons.1 hv with rfl | hv
    · exact (arrived_ofTree? hw).mono (Nat.le_max_left ..)
    · exact (arrived_itemsOfTrees? hws v hv).mono (Nat.le_max_right ..)

theorem arrived_membersOfTrees? : ∀ {ts : List (List Piece × Tree)} {ms : List (String × Value)},
    membersOfTrees? ts = some ms → ∀ m ∈ ms, Arrived NumberFinite (Tree.membersDepth ts) m.2
  | [], _, h, m, hm => by
    cases h
    cases hm
  | (name, t) :: ts, _, h, m, hm => by
    simp only [membersOfTrees?, Option.bind_eq_bind, Option.bind_eq_some_iff] at h
    obtain ⟨k, -, w, hw, ws, hws, ⟨⟩⟩ := h
    rcases List.mem_cons.1 hm with rfl | hm
    · exact (arrived_ofTree? hw).mono (Nat.le_max_left ..)
    · exact (arrived_membersOfTrees? hws m hm).mono (Nat.le_max_right ..)

end

/-! ## Whole texts -/

theorem decodeJson_encodeJson {v : Value} (h : v.Faithful) :
    decodeJson (encodeJson v) =
      if v.depth ≤ Json.maxDepth then .ok (v.sorted.mapLeaves carried) else .error ⟨.json, "nested too deeply"⟩ := by
  unfold decodeJson
  rw [parseBytes?_encodeJson]
  simp only [depth_toTree, ofTree?_toTree h]

theorem arrived_of_decodeJson {text : List UInt8} {v : Value} (h : decodeJson text = .ok v) :
    Arrived NumberFinite Json.maxDepth v := by
  unfold decodeJson at h
  split at h
  · cases h
  · split at h
    · rename_i hdepth
      split at h
      · rename_i hv
        cases h
        exact (arrived_ofTree? hv).mono hdepth
      · cases h
    · cases h

theorem Arrived.mapLeaves_carried {v : Value} {d : Nat} (h : Arrived NumberFinite d v) : v.mapLeaves carried = v :=
  mapLeaves_eq_self fun w hw => carried_eq_self (h.each w hw) (h.plain w hw)

/-- **Values as JSON.**  If its numbers are read as themselves, a value is read back from its text just when no more
than 127 containers are nested in one another, with the reserved text read as unknown, a number that JSON cannot write
as null and nothing else changed, in whatever order its members are written.  What is read from any text is written and
read as itself. -/
theorem json_round_trip :
    (∀ v : Value, v.Faithful → ((∃ w, decodeJson (encodeJson v) = .ok w) ↔ v.depth ≤ 127)) ∧
    (∀ v : Value, v.Canonical → v.Faithful → v.depth ≤ 127 → decodeJson (encodeJson v) = .ok (v.mapLeaves carried)) ∧
    (∀ v : Value, v.Faithful → v.depth ≤ 127 → decodeJson (encodeJson v) = .ok (v.sorted.mapLeaves carried)) ∧
    (∀ text w, decodeJson text = .ok w → w.Faithful → decodeJson (encodeJson w) = .ok w) := by
  have hread : ∀ v : Value, v.Faithful → v.depth ≤ 127 →
      decodeJson (encodeJson v) = .ok (v.sorted.mapLeaves carried) := by
    intro v hfaithful hdepth
    rw [decodeJson_encodeJson hfaithful, if_pos (show v.depth ≤ Json.maxDepth from hdepth)]
  refine ⟨fun v hfaithful => ⟨?_, fun hdepth => ⟨_, hread v hfaithful hdepth⟩⟩, ?_, hread, ?_⟩
  · rintro ⟨w, hw⟩
    rw [decodeJson_encodeJson hfaithful] at hw
    by_contra hdepth
    rw [if_neg (show ¬ v.depth ≤ Json.maxDepth from hdepth)] at hw
    cases hw
  · intro v hcanonical hfaithful hdepth
    rw [hread v hfaithful hdepth, sorted_eq_self hcanonical]
  · intro text w h hfaithful
    have harrived := arrived_of_decodeJson h
    rw [hread w hfaithful harrived.depth_le, sorted_eq_self harrived.canonical, harrived.mapLeaves_carried]

/-- Quotes, controls and the sign of a zero are kept, and a number that is undefined is lost. -/
theorem json_round_trip_on_nested :
    decodeJson (encodeJson (.object [("\t\"\\", .list [.number ⟨0x7FF8000000000001⟩, .number ⟨0x8000000000000000⟩,
      .number ⟨0x3FB999999999999A⟩, .string "__unknown__", .object [], .list []])])) =
    .ok (.object [("\t\"\\", .list [.null, .number ⟨0x8000000000000000⟩, .number ⟨0x3FB999999999999A⟩, .unknown,
      .object [], .list []])]) :=
  json_round_trip.2.1 _ (by decide) (by decide +kernel) (by decide)

end Value
end PolicyProvider
