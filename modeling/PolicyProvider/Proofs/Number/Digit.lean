import PolicyProvider.Number.Decimal
/-!
# Digit — naturals written in decimal digits

The digits of a natural read back as it, and they are the characters that `toString` writes, so a cursor that names a
position is read back as that position (`word?_toString`), and numbers are told apart by their texts
(`toString_int_injective`).
-/
namespace PolicyProvider
namespace Digit

theorem wordLimit_eq : wordLimit = 18446744073709551616 := rfl

theorem ofChar?_char (d : Digit) : ofChar? (char d) = some d := by
  revert d
  decide

theorem toNat_append_singleton (ds : List Digit) (d : Digit) : toNat (ds ++ [d]) = 10 * toNat ds + d.val := by
  unfold toNat
  rw [List.foldl_append]
  rfl

theorem toNat_ofNat (n : Nat) : toNat (ofNat n) = n := by
  induction n using Nat.strongRecOn with
  | ind n ih =>
    rw [ofNat]
    by_cases hn : n < 10
    · rw [dif_pos hn]
      unfold toNat
      simp
    · rw [dif_neg hn, toNat_append_singleton, ih (n / 10) (by omega)]
      simp only
      omega

theorem ofNat_ne_nil (n : Nat) : ofNat n ≠ [] := by
  rw [ofNat]
  by_cases hn : n < 10
  · rw [dif_pos hn]
    exact List.cons_ne_nil _ _
  · rw [dif_neg hn]
    exact List.append_ne_nil_of_right_ne_nil _ (List.cons_ne_nil _ _)

theorem mapM_ofChar?_map_char (ds : List Digit) : (ds.map char).mapM ofChar? = some ds := by
  induction ds with
  | nil => rfl
  | cons d ds ih =>
    rw [List.map_cons, List.mapM_cons, ofChar?_char, ih]
    rfl

theorem digitChar_eq_char (d : Digit) : Nat.digitChar d.val = char d := by
  revert d
  decide

theorem toDigits_eq_map_char (n : Nat) : Nat.toDigits 10 n = (ofNat n).map char := by
  induction n using Nat.strongRecOn with
  | ind n ih =>
    rw [ofNat, Nat.toDigits_eq_if (by decide)]
    by_cases hn : n < 10
    · rw [if_pos hn, dif_pos hn, List.map_singleton, ← digitChar_eq_char]
    · rw [if_neg hn, dif_neg hn, ih (n / 10) (by omega), List.map_append, List.map_singleton, ← digitChar_eq_char]

theorem toList_toString (n : Nat) : (toString n).toList = (ofNat n).map char := by
  rw [← toDigits_eq_map_char]
  exact Nat.toList_repr

theorem toString_ne_empty (n : Nat) : toString n ≠ "" := by
  intro h
  have hl := congrArg String.toList h
  rw [toList_toString] at hl
  exact ofNat_ne_nil n (List.map_eq_nil_iff.1 hl)

theorem char_ne {c : Char} (hc : ofChar? c = none) (d : Digit) : char d ≠ c := by
  rintro rfl
  rw [ofChar?_char] at hc
  cases hc

theorem map_char_ne_cons {c : Char} (hc : ofChar? c = none) (ds : List Digit) (rest : List Char) :
    ds.map char ≠ c :: rest := by
  cases ds with
  | nil => exact (List.cons_ne_nil c rest).symm
  | cons d ds => exact fun h => char_ne hc d (List.cons.inj h).1

theorem word?_of_digits {s : String} {ds : List Digit} (hs : s.toList = ds.map char) (hne : ds ≠ []) :
    word? s = if toNat ds < wordLimit then some (toNat ds) else none := by
  have hempty : (ds.map char).isEmpty = false := by
    rw [List.isEmpty_eq_false_iff]
    exact fun h => hne (List.map_eq_nil_iff.1 h)
  have hplus : ∀ rest, s.toList ≠ '+' :: rest := fun rest => by
    rw [hs]
    exact map_char_ne_cons rfl ds rest
  unfold word?
  split
  · rename_i rest heq
    exact absurd heq (hplus rest)
  · rw [hs]
    simp only [hempty, Bool.false_eq_true, if_false, mapM_ofChar?_map_char, Option.bind_some]

/-- **A natural of sixty-four bits is the word that its digits write.** -/
theorem word?_toString (n : Nat) (hn : n < wordLimit) : word? (toString n) = some n := by
  rw [word?_of_digits (toList_toString n) (ofNat_ne_nil n), toNat_ofNat, if_pos hn]

theorem toString_injective : Function.Injective (toString : Nat → String) := by
  intro m n h
  have hdigits := congrArg (List.mapM ofChar?) (congrArg String.toList h)
  simp only [toList_toString, mapM_ofChar?_map_char, Option.some.injEq] at hdigits
  rw [← toNat_ofNat m, hdigits, toNat_ofNat]

theorem toString_ne_minus (n : Nat) (s : String) : toString n ≠ "-" ++ s := by
  intro h
  have hl := congrArg String.toList h
  rw [toList_toString, String.toList_append] at hl
  exact map_char_ne_cons rfl (ofNat n) s.toList hl

theorem toString_int_injective : Function.Injective (toString : Int → String) := by
  intro a b h
  cases a with
  | ofNat m =>
    cases b with
    | ofNat n => exact congrArg Int.ofNat (toString_injective h)
    | negSucc n => exact absurd h (toString_ne_minus m _)
  | negSucc m =>
    cases b with
    | ofNat n => exact absurd h.symm (toString_ne_minus n _)
    | negSucc n => exact congrArg Int.negSucc (Nat.succ.inj (toString_injective ((String.append_right_inj "-").1 h)))

end Digit
end PolicyProvider
