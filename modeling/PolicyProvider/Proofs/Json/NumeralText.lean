import Mathlib.Tactic.IntervalCases
import PolicyProvider.Proofs.Json.Text
import PolicyProvider.Proofs.Number.Decimal
/-!
# NumeralText — a numeral that is written is read back

The characters of a numeral are read back part by part, up to something that ends it (`readNumeral_text`), if no zero
starts its digits and its exponent has digits (`WellFormed`).  Every number is written so (`wellFormed_ofBinary64`).
-/
namespace PolicyProvider
namespace Json

open Digit (Leading)

/-! ## Digits -/

def EndsDigits (rest : List Char) : Prop := ∀ c ∈ rest.head?, Digit.ofChar? c = none

theorem readDigits_of_endsDigits {rest : List Char} (h : EndsDigits rest) : readDigits rest = ([], rest) := by
  cases rest with
  | nil => rfl
  | cons c rest => simp [readDigits, h c rfl]

theorem readDigits_map_char (ds : List Digit) {rest : List Char} (h : EndsDigits rest) :
    readDigits (ds.map Digit.char ++ rest) = (ds, rest) := by
  induction ds with
  | nil => exact readDigits_of_endsDigits h
  | cons d ds ih => simp [readDigits, Digit.ofChar?_char, ih]

theorem endsDigits_cons {c : Char} (h : Digit.ofChar? c = none) (rest : List Char) : EndsDigits (c :: rest) := by
  rintro _ ⟨⟩
  exact h

theorem endsDigits_of_closed {rest : List Char} (h : Token.Closed rest) : EndsDigits rest := by
  intro c hc
  rcases h c hc with rfl | rfl | rfl <;> rfl

namespace Numeral

/-! ## The parts of a numeral -/

/-- That a numeral is one that can be read: its whole digits start with no zero but a single one, and its exponent has
digits. -/
structure WellFormed (n : Numeral) : Prop where
  whole : n.whole = [Digit.zero] ∨ Leading n.whole
  exponent : ∀ negative ds, n.exponent = some (negative, ds) → ds ≠ []

def fractionText (n : Numeral) : List Char :=
  if n.fraction.isEmpty then [] else '.' :: n.fraction.map Digit.char

def exponentText : Option (Bool × List Digit) → List Char
  | none => []
  | some (negative, ds) => 'e' :: (if negative then '-' else '+') :: ds.map Digit.char

theorem text_eq (n : Numeral) :
    n.text =
      (if n.negative then ['-'] else []) ++ n.whole.map Digit.char ++ n.fractionText ++ exponentText n.exponent := by
  cases n with
  | mk negative whole fraction exponent => cases exponent <;> rfl

theorem readWhole_map_char {ds : List Digit} (h : ds = [Digit.zero] ∨ Leading ds) {rest : List Char}
    (hrest : EndsDigits rest) : readWhole (ds.map Digit.char ++ rest) = some (ds, rest) := by
  unfold readWhole
  rw [readDigits_map_char ds hrest]
  rcases h with rfl | ⟨d, ds, rfl, hd⟩
  · rfl
  · simp [hd]

theorem readFraction_fractionText (n : Numeral) {rest : List Char} (hrest : EndsDigits rest)
    (hpoint : ∀ c ∈ rest.head?, c ≠ '.') : readFraction (n.fractionText ++ rest) = some (n.fraction, rest) := by
  unfold fractionText
  cases hfraction : n.fraction with
  | nil =>
    cases rest with
    | nil => rfl
    | cons c rest =>
      have hc := hpoint c rfl
      simp [readFraction, hc]
  | cons d ds =>
    have hread := readDigits_map_char (d :: ds) hrest
    simp [readFraction] at hread ⊢
    simp [hread]

theorem readExponent_exponentText {e : Option (Bool × List Digit)}
    (h : ∀ negative ds, e = some (negative, ds) → ds ≠ []) {rest : List Char} (hrest : Token.Closed rest) :
    readExponent (exponentText e ++ rest) = some (e, rest) := by
  cases e with
  | none =>
    cases rest with
    | nil => rfl
    | cons c rest =>
      have hletter : ¬ (c = 'e' ∨ c = 'E') := by
        rcases hrest c rfl with rfl | rfl | rfl <;> decide
      simp [exponentText, readExponent, hletter]
  | some signed =>
    obtain ⟨negative, ds⟩ := signed
    have hread := readDigits_map_char ds (endsDigits_of_closed hrest)
    have hne := h negative ds rfl
    cases negative <;> simp [exponentText, readExponent, hread, hne]

theorem endsDigits_exponentText (e : Option (Bool × List Digit)) {rest : List Char} (hrest : Token.Closed rest) :
    EndsDigits (exponentText e ++ rest) := by
  cases e with
  | none => exact endsDigits_of_closed hrest
  | some signed => exact endsDigits_cons rfl _

theorem noPoint_exponentText (e : Option (Bool × List Digit)) {rest : List Char} (hrest : Token.Closed rest) :
    ∀ c ∈ (exponentText e ++ rest).head?, c ≠ '.' := by
  cases e with
  | none =>
    intro c hc
    rcases hrest c hc with rfl | rfl | rfl <;> decide
  | some signed =>
    rintro _ ⟨⟩
    decide

theorem endsDigits_fractionText (n : Numeral) {rest : List Char} (hrest : EndsDigits rest) :
    EndsDigits (n.fractionText ++ rest) := by
  unfold fractionText
  split
  · exact hrest
  · exact endsDigits_cons rfl _

theorem whole_eq_cons {n : Numeral} (h : n.WellFormed) : ∃ d ds, n.whole = d :: ds := by
  rcases h.whole with hzero | ⟨d, ds, hds, -⟩
  · exact ⟨_, _, hzero⟩
  · exact ⟨d, ds, hds⟩

def readUnsigned (negative : Bool) (body : List Char) : Option (Numeral × List Char) := do
  let (whole, afterWhole) ← readWhole body
  let (fraction, afterFraction) ← readFraction afterWhole
  let (exponent, after) ← readExponent afterFraction
  some (⟨negative, whole, fraction, exponent⟩, after)

theorem readNumeral_minus (body : List Char) : readNumeral ('-' :: body) = readUnsigned true body := rfl

theorem readNumeral_cons {c : Char} (h : c ≠ '-') (body : List Char) :
    readNumeral (c :: body) = readUnsigned false (c :: body) := by
  simp [readNumeral, readUnsigned, h]

theorem readUnsigned_text {n : Numeral} (h : n.WellFormed) {rest : List Char} (hrest : Token.Closed rest) :
    readUnsigned n.negative (n.whole.map Digit.char ++ (n.fractionText ++ (exponentText n.exponent ++ rest))) =
      some (n, rest) := by
  have hends := endsDigits_exponentText n.exponent hrest
  have hwhole := readWhole_map_char h.whole (endsDigits_fractionText n hends)
  have hfraction := readFraction_fractionText n hends (noPoint_exponentText n.exponent hrest)
  have hexponent := readExponent_exponentText h.exponent hrest
  simp [readUnsigned, hwhole, hfraction, hexponent]

/-- **A numeral is read back** where something ends it. -/
theorem readNumeral_text {n : Numeral} (h : n.WellFormed) {rest : List Char} (hrest : Token.Closed rest) :
    readNumeral (n.text ++ rest) = some (n, rest) := by
  have hread := readUnsigned_text h hrest
  obtain ⟨d, ds, hds⟩ := whole_eq_cons h
  rw [text_eq]
  cases hnegative : n.negative with
  | true =>
    rw [hnegative] at hread
    simpa [readNumeral_minus] using hread
  | false =>
    rw [hnegative, hds, List.map_cons, List.cons_append] at hread
    rw [← readNumeral_cons (Digit.char_ne rfl d)] at hread
    simpa [hds] using hread

/-! ## The token of a numeral -/

-- a digit starts no other token
theorem readToken_digit (d : Digit) (rest : List Char) :
    readToken (Digit.char d :: rest) =
      (readNumeral (Digit.char d :: rest)).map fun (n, after) => (.number n, after) := by
  obtain ⟨k, hk⟩ := d
  interval_cases k <;> rfl

theorem isBlank_digit (d : Digit) : isBlank (Digit.char d) = false := by
  revert d
  decide

theorem text_eq_cons {n : Numeral} (h : n.WellFormed) :
    ∃ c tail, n.text = c :: tail ∧ (c = '-' ∨ ∃ d, c = Digit.char d) := by
  obtain ⟨d, ds, hds⟩ := whole_eq_cons h
  rw [text_eq, hds]
  cases n.negative with
  | true => exact ⟨_, _, rfl, .inl rfl⟩
  | false => exact ⟨_, _, rfl, .inr ⟨d, rfl⟩⟩

theorem stands_of_wellFormed {n : Numeral} (h : n.WellFormed) {rest : List Char} (hrest : Token.Closed rest) :
    (Token.number n).Stands rest := by
  have hread := readNumeral_text h hrest
  obtain ⟨c, tail, htext, hc⟩ := text_eq_cons h
  rw [htext] at hread
  have htoken : readToken (c :: tail ++ rest) = (readNumeral (c :: tail ++ rest)).map fun (n, after) =>
      (.number n, after) := by
    rcases hc with rfl | ⟨d, rfl⟩
    · rfl
    · exact readToken_digit d (tail ++ rest)
  have hblank : isBlank c = false := by
    rcases hc with rfl | ⟨d, rfl⟩
    · rfl
    · exact isBlank_digit d
  refine ⟨?_, c, tail, htext, hblank⟩
  rw [Token.written, htext, htoken, hread]
  rfl

/-! ## The numeral of a number -/

theorem wellFormed_ofDecimal (negative : Bool) {d : Decimal} (h : d = ⟨[Digit.zero], 0⟩ ∨ Leading d.digits) :
    (ofDecimal negative d).WellFormed := by
  unfold ofDecimal
  by_cases hplain : -4 ≤ d.point ∧ d.point ≤ 16
  · rw [if_pos hplain]
    exact ⟨Decimal.positional_whole h, fun negative ds h => by cases h⟩
  · rw [if_neg hplain]
    refine ⟨Decimal.digits_take_one h, fun negative ds h => ?_⟩
    cases h
    exact Digit.ofNat_ne_nil _

/-- **Every number is written as a numeral that is well formed.** -/
theorem wellFormed_ofBinary64 (x : Binary64) : (ofBinary64 x).WellFormed := by
  unfold ofBinary64
  by_cases hzero : x.isZero = true
  · rw [if_pos hzero]
    exact ⟨.inl rfl, fun negative ds h => by cases h⟩
  · rw [if_neg hzero]
    exact wellFormed_ofDecimal x.isNegative (Decimal.leading_shortest .toEven x)

end Numeral
end Json
end PolicyProvider
