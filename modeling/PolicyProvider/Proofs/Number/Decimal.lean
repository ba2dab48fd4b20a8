import PolicyProvider.Proofs.Number.Digit
/-!
# Decimal — the shape of the digits

The digits of a natural above zero start with another digit than zero, and so do those of the decimal that the search
finds (`leading_shortest`).
-/
namespace PolicyProvider

namespace Digit

def Leading (ds : List Digit) : Prop := ∃ d rest, ds = d :: rest ∧ d ≠ zero

theorem Leading.append {ds : List Digit} (h : Leading ds) (es : List Digit) : Leading (ds ++ es) := by
  obtain ⟨d, rest, rfl, hd⟩ := h
  exact ⟨d, rest ++ es, rfl, hd⟩

theorem Leading.take {ds : List Digit} (h : Leading ds) {n : Nat} (hn : 0 < n) : Leading (ds.take n) := by
  obtain ⟨d, rest, rfl, hd⟩ := h
  obtain ⟨m, rfl⟩ := Nat.exists_eq_add_of_lt hn
  exact ⟨d, _, by rw [Nat.zero_add, List.take_succ_cons], hd⟩

theorem leading_ofNat {n : Nat} (h : 0 < n) : Leading (ofNat n) := by
  induction n using Nat.strongRecOn with
  | ind n ih =>
    rw [ofNat]
    by_cases hn : n < 10
    · rw [dif_pos hn]
      refine ⟨_, _, rfl, fun heq => ?_⟩
      have hzero := congrArg Fin.val heq
      change n = 0 at hzero
      omega
    · rw [dif_neg hn]
      exact (ih (n / 10) (by omega) (by omega)).append _

end Digit

namespace Decimal

open Digit (Leading)

theorem leading_significantDigits {n : Nat} (h : 0 < n) : Leading (significantDigits n) := by
  obtain ⟨d, rest, hdigits, hd⟩ := Digit.leading_ofNat h
  have hkept : (d == Digit.zero) = false := by simpa using hd
  unfold significantDigits
  rw [hdigits, List.reverse_cons, List.dropWhile_append]
  split
  · rw [List.dropWhile_cons_of_neg (by simp [hkept])]
    exact ⟨d, [], rfl, hd⟩
  · rw [List.reverse_append]
    exact ⟨d, _, rfl, hd⟩

theorem nearestOnGrid_pos {tie : TieRule} {closed : Bool} {low value high step c : Nat}
    (h : nearestOnGrid tie closed low value high step = some c) : 0 < c := by
  unfold nearestOnGrid at h
  extract_lets c' fits downFits upFits toDown toUp at h
  have hdown : downFits = true → 0 < c' := fun hfits => of_decide_eq_true (Bool.and_eq_true_iff.1 hfits).1
  split at h
  · rename_i hboth
    have hpos := hdown (Bool.and_eq_true_iff.1 hboth).1
    split at h
    · exact Option.some.inj h ▸ hpos
    split at h
    · exact Option.some.inj h ▸ Nat.succ_pos _
    cases tie with
    | up => exact Option.some.inj h ▸ Nat.succ_pos _
    | toEven =>
      dsimp only at h
      split at h
      · exact Option.some.inj h ▸ hpos
      · exact Option.some.inj h ▸ Nat.succ_pos _
  split at h
  · rename_i hfits
    exact Option.some.inj h ▸ hdown hfits
  split at h
  · exact Option.some.inj h ▸ Nat.succ_pos _
  · cases h

theorem leading_shortest (tie : TieRule) (x : Binary64) :
    shortest tie x = ⟨[Digit.zero], 0⟩ ∨ Leading (shortest tie x).digits := by
  unfold shortest
  cases hfound : search tie x with
  | none => exact .inl rfl
  | some found =>
    obtain ⟨i, -, hi⟩ := List.exists_of_findSome?_eq_some hfound
    obtain ⟨c, hc, rfl⟩ := Option.map_eq_some_iff.1 hi
    exact .inr (leading_significantDigits (nearestOnGrid_pos hc))

theorem positional_whole {d : Decimal} (h : d = ⟨[Digit.zero], 0⟩ ∨ Leading d.digits) :
    d.positional.1 = [Digit.zero] ∨ Leading d.positional.1 := by
  unfold positional
  by_cases hpoint : d.point ≤ 0
  · rw [if_pos hpoint]
    exact .inl rfl
  · rw [if_neg hpoint]
    rcases h with rfl | hleading
    · exact absurd (Int.le_refl 0) hpoint
    · exact .inr ((hleading.take (by omega)).append _)

theorem digits_take_one {d : Decimal} (h : d = ⟨[Digit.zero], 0⟩ ∨ Leading d.digits) :
    d.digits.take 1 = [Digit.zero] ∨ Leading (d.digits.take 1) := by
  rcases h with rfl | hleading
  · exact .inl rfl
  · exact .inr (hleading.take Nat.one_pos)

end Decimal
end PolicyProvider
