import PolicyProvider.Json.Numeral
import PolicyProvider.Proofs.Number.Digit
import PolicyProvider.Proofs.Number.Binary64
/-!
# Numeral — what numerals stand for

An integer of the signed sixty-four bit range keeps its value when it is written as a numeral and read again.  A numeral
never stands for a number that is infinite or undefined (`isFinite_of_value?`).
-/
namespace PolicyProvider
namespace Json

theorem Number.toInt64?_toInt (n : Int64) : Number.toInt64? (.whole n.toInt) = some n := by
  have hlow := n.le_toInt
  have hhigh := n.toInt_lt
  rw [Number.toInt64?, if_pos (by omega), Int64.ofInt_toInt]

namespace Numeral

theorem value?_ofInt (i : Int) (hlow : -9223372036854775808 ≤ i) (hhigh : i ≤ 9223372036854775807) :
    value? (ofInt i) = some (.whole i) := by
  unfold value? ofInt
  simp only [List.isEmpty_nil, Option.isNone_none, and_self, if_true, Digit.toNat_ofNat, decide_eq_true_eq]
  by_cases hneg : i < 0
  · rw [if_pos hneg, if_pos (by omega)]
    congr 2
    omega
  · have hword : i.natAbs < Digit.wordLimit := by
      rw [Digit.wordLimit_eq]
      omega
    rw [if_neg hneg, if_pos hword]
    congr 2
    omega

/-! ## Finite numbers -/

theorem gather_lt {acc : Nat} (h : acc < Digit.wordLimit) (ds : List Digit) : (gather acc ds).1 < Digit.wordLimit := by
  induction ds generalizing acc with
  | nil => exact h
  | cons d ds ih =>
    rw [gather]
    split
    · rename_i hnext
      exact ih hnext
    · exact h

theorem one_le_powerOfTen (k : Nat) : Binary64.unitsPerOne ≤ (powerOfTen k).units :=
  Binary64.one_le_ofRatio false Nat.one_pos (Nat.pow_pos (by decide))

theorem exponentField_divMagnitude {x : Binary64} {e : Nat} (hx : x.exponentField ≤ e + 1023) (he : e ≤ 1000)
    (k : Nat) : (x.divMagnitude (powerOfTen k)).exponentField ≤ e + 1 + 1023 := by
  have hunits : x.units < (powerOfTen k).units * 2 ^ (e + 1) :=
    Nat.lt_of_lt_of_le (Binary64.units_lt hx) (Nat.mul_le_mul_right _ (one_le_powerOfTen k))
  exact Binary64.exponentField_ofRatio false hunits (by omega)

theorem isFinite_of_scaled? {significand : Nat} (h : significand < Digit.wordLimit) {exponent : Int} {x : Binary64}
    (hx : scaled? significand exponent = some x) : x.isFinite = true := by
  have hword : significand < 1 * 2 ^ 64 := by rwa [Nat.one_mul]
  have hf : (Binary64.ofNat significand).exponentField ≤ 64 + 1023 :=
    Binary64.exponentField_ofRatio false hword (by decide)
  unfold scaled? at hx
  dsimp only at hx
  -- a product is refused unless it is finite, and no quotient has an exponent above 66
  split at hx
  · split at hx
    · obtain rfl := Option.some.inj hx
      exact Binary64.isFinite_iff.2 (by omega)
    · split at hx
      · split at hx
        · rename_i hfinite
          obtain rfl := Option.some.inj hx
          exact hfinite
        · cases hx
      · cases hx
  · split at hx
    · obtain rfl := Option.some.inj hx
      have hquotient := exponentField_divMagnitude hf (by decide) exponent.natAbs
      exact Binary64.isFinite_iff.2 (by omega)
    · split at hx
      · obtain rfl := Option.some.inj hx
        have hfirst := exponentField_divMagnitude hf (by decide) maxPower
        have hsecond := exponentField_divMagnitude hfirst (by decide) (exponent.natAbs - maxPower)
        exact Binary64.isFinite_iff.2 (by omega)
      · obtain rfl := Option.some.inj hx
        exact Binary64.isFinite_ofRatio false (show 0 < 1 * 2 ^ 0 by decide) (by decide)

theorem isFinite_of_real? {n : Numeral} {x : Binary64} (h : n.real? = some x) : x.isFinite = true := by
  unfold real? at h
  dsimp only at h
  obtain ⟨y, hy, rfl⟩ := Option.map_eq_some_iff.1 h
  have hwhole := gather_lt (show 0 < Digit.wordLimit by decide) n.whole
  have hfinite := isFinite_of_scaled? (gather_lt hwhole n.fraction) hy
  split
  · rwa [Binary64.isFinite_neg]
  · exact hfinite

/-- **No numeral stands for an infinite or undefined number.** -/
theorem isFinite_of_value? {n : Numeral} {m : Number} (h : n.value? = some m) : m.toBinary64.isFinite = true := by
  have hreal : n.real?.map .real = some m → m.toBinary64.isFinite = true := by
    intro h
    obtain ⟨x, hx, rfl⟩ := Option.map_eq_some_iff.1 h
    exact isFinite_of_real? hx
  have hint : ∀ i : Int, i.natAbs < 2 ^ 64 → (Number.whole i).toBinary64.isFinite = true := by
    intro i hi
    exact Binary64.isFinite_ofRatio _ (show i.natAbs < 1 * 2 ^ 64 by rwa [Nat.one_mul]) (by decide)
  -- what is no integer of sixty-four bits is read as a real
  unfold value? at h
  dsimp only at h
  split at h
  · split at h
    · split at h
      · cases h
        exact hint _ (by omega)
      · exact hreal h
    · split at h
      · rename_i hword
        rw [Digit.wordLimit_eq] at hword
        cases h
        exact hint _ (by omega)
      · exact hreal h
  · exact hreal h

end Numeral
end Json
end PolicyProvider
