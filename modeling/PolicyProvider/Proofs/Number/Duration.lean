import PolicyProvider.Number.Duration
import PolicyProvider.Proofs.Number.Binary64
/-!
# Duration — how near a span is to its number of seconds

A span differs from the number of seconds it was made of by no more than half a nanosecond (`ofSeconds?_near`).  So it
is zero just for a number of at most half a nanosecond, however positive that is (`nanoseconds_eq_zero_iff`).
-/
namespace PolicyProvider
namespace Duration

open Binary64 (unitsPerOne roundHalfEven)

variable {x : Binary64} {d : Duration}

theorem unitsPerOne_pos : 0 < unitsPerOne := by
  obtain ⟨k, hk⟩ : ∃ k, k = 1074 := ⟨_, rfl⟩
  rw [Binary64.unitsPerOne_eq hk]
  exact Nat.two_pow_pos k

theorem ofSeconds?_eq_some : ofSeconds? x = some d ↔
    (x.isFinite = true ∧ (x.isNegative = true → x.isZero = true)) ∧
      d.nanoseconds = roundHalfEven (x.units * perSecond) unitsPerOne ∧ d.seconds < secondsLimit := by
  have hsign : (!x.isFinite || (x.isNegative && !x.isZero)) = false ↔
      x.isFinite = true ∧ (x.isNegative = true → x.isZero = true) := by
    cases x.isFinite <;> cases x.isNegative <;> simp
  obtain ⟨n⟩ := d
  unfold ofSeconds? seconds
  dsimp only
  rw [← hsign]
  -- the rounded number is a variable, so that nothing evaluates it
  generalize roundHalfEven (x.units * perSecond) unitsPerOne = rounded
  cases !x.isFinite || (x.isNegative && !x.isZero) with
  | true => simp
  | false =>
    rw [if_neg Bool.false_ne_true, Option.ite_none_right_eq_some]
    constructor
    · rintro ⟨hlimit, heq⟩
      cases heq
      exact ⟨rfl, rfl, hlimit⟩
    · rintro ⟨-, rfl, hlimit⟩
      exact ⟨hlimit, rfl⟩

theorem ofSeconds?_near (h : ofSeconds? x = some d) :
    2 * (d.nanoseconds * unitsPerOne) ≤ 2 * (x.units * perSecond) + unitsPerOne ∧
      2 * (x.units * perSecond) ≤ 2 * (d.nanoseconds * unitsPerOne) + unitsPerOne := by
  obtain ⟨-, hrounded, -⟩ := ofSeconds?_eq_some.1 h
  rw [hrounded]
  exact Binary64.roundHalfEven_near _ unitsPerOne_pos

/-- **Half a nanosecond and less is no time.** -/
theorem nanoseconds_eq_zero_iff (h : ofSeconds? x = some d) :
    d.nanoseconds = 0 ↔ 2 * (x.units * perSecond) ≤ unitsPerOne := by
  obtain ⟨-, hrounded, -⟩ := ofSeconds?_eq_some.1 h
  rw [hrounded]
  exact Binary64.roundHalfEven_eq_zero_iff unitsPerOne_pos

end Duration
end PolicyProvider
