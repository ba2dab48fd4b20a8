import PolicyProvider.Number.Decimal
/-!
# Numeral — numbers as JSON writes them

A numeral keeps the digits of a JSON number. `Numeral.value?` gives its meaning: a whole number of sixty-four bits
stays whole, anything else is a double. A double is read from at most nineteen or twenty leading digits and a power of
ten, each rounded on its own; what that overflows is no number at all.
-/
namespace PolicyProvider
namespace Json

/-- A number as written: digits before the point, digits after it, and the signed exponent if there is one. -/
structure Numeral where
  negative : Bool
  whole : List Digit
  fraction : List Digit
  exponent : Option (Bool × List Digit)
deriving DecidableEq

inductive Number where
  | whole (i : Int)
  | real (x : Binary64)
deriving DecidableEq

namespace Number

/-- A number as a double, a whole one rounded to the nearest. -/
def toBinary64 : Number → Binary64
  | .whole i => Binary64.ofInt i
  | .real x => x

/-- A number that is a whole one of the signed sixty-four bit range. -/
def toInt64? : Number → Option Int64
  | .whole i => if -9223372036854775808 ≤ i ∧ i ≤ 9223372036854775807 then some (Int64.ofInt i) else none
  | .real _ => none

end Number

namespace Numeral

/-- The characters of a numeral; an exponent always shows its sign. -/
def text (n : Numeral) : List Char :=
  (if n.negative then ['-'] else []) ++ n.whole.map Digit.char
    ++ (if n.fraction.isEmpty then [] else '.' :: n.fraction.map Digit.char)
    ++ match n.exponent with
      | none => []
      | some (negative, ds) => 'e' :: (if negative then '-' else '+') :: ds.map Digit.char

/-- **Digits gathered while they fit in sixty-four bits**: what was gathered onto `acc`, and how many digits were left
over from the first that did not fit. -/
def gather (acc : Nat) : List Digit → Nat × Nat
  | [] => (acc, 0)
  | d :: ds =>
    let next := 10 * acc + d.val
    if next < Digit.wordLimit then gather next ds else (acc, ds.length + 1)

/-- The greatest power of ten a double holds. -/
def maxPower : Nat := 308

def powerOfTen (k : Nat) : Binary64 := Binary64.ofNat (Nat.pow 10 k)

/-- **A significand times a power of ten, rounded part by part**: the significand, the power and then their product or
quotient. A power below 10⁻³⁰⁸ is divided out in two steps, and one below 10⁻⁶¹⁶ leaves nothing of a sixty-four bit
significand. -/
def scaled? (significand : Nat) (exponent : Int) : Option Binary64 :=
  let f := Binary64.ofNat significand
  let n := exponent.natAbs
  if 0 ≤ exponent then
    if f.isZero then some f
    else if n ≤ maxPower then
      let x := f.mulMagnitude (powerOfTen n)
      if x.isFinite then some x else none
    else none
  else if n ≤ maxPower then some (f.divMagnitude (powerOfTen n))
  else if n ≤ 2 * maxPower then
    some ((f.divMagnitude (powerOfTen maxPower)).divMagnitude (powerOfTen (n - maxPower)))
  else some (Binary64.ofNat 0)

/-- The signed value of an exponent. -/
def exponentValue : Option (Bool × List Digit) → Int
  | none => 0
  | some (negative, ds) => if negative then -(Digit.toNat ds : Int) else Digit.toNat ds

/-- The double of a numeral, if it is not too large. -/
def real? (n : Numeral) : Option Binary64 :=
  let (high, skipped) := gather 0 n.whole
  let (significand, dropped) := gather high n.fraction
  let exponent := (skipped : Int) - (n.fraction.length - dropped : Nat) + exponentValue n.exponent
  (scaled? significand exponent).map fun x => if n.negative then x.neg else x

/-- **The meaning of a numeral.** Whole numbers keep to the range of sixty-four bit words, signed below zero and
unsigned above; minus zero and everything outside is a double. -/
def value? (n : Numeral) : Option Number :=
  if n.fraction.isEmpty ∧ n.exponent.isNone then
    let m := Digit.toNat n.whole
    if n.negative then
      if 0 < m ∧ m ≤ 9223372036854775808 then some (.whole (-(m : Int)))
      else n.real?.map .real
    else if m < Digit.wordLimit then some (.whole m)
    else n.real?.map .real
  else n.real?.map .real

def ofInt (i : Int) : Numeral :=
  ⟨decide (i < 0), Digit.ofNat i.natAbs, [], none⟩

/-- A decimal as a numeral, with at least one digit after the point: written out from 10⁻⁵ up to 10¹⁶ and with an
exponent elsewhere. -/
def ofDecimal (negative : Bool) (d : Decimal) : Numeral :=
  if -4 ≤ d.point ∧ d.point ≤ 16 then
    let (whole, part) := d.positional
    ⟨negative, whole, if part.isEmpty then [Digit.zero] else part, none⟩
  else
    let e := d.point - 1
    ⟨negative, d.digits.take 1, d.digits.drop 1, some (decide (e < 0), Digit.ofNat e.natAbs)⟩

/-- **A finite double as a numeral**: the fewest digits that read back. -/
def ofBinary64 (x : Binary64) : Numeral :=
  if x.isZero then ⟨x.isNegative, [Digit.zero], [Digit.zero], none⟩
  else ofDecimal x.isNegative (Decimal.shortest .toEven x)

/-- The numeral of a number; an infinite or undefined one has none. -/
def ofNumber? : Number → Option Numeral
  | .whole i => some (ofInt i)
  | .real x => if x.isFinite then some (ofBinary64 x) else none

end Numeral
end Json
end PolicyProvider
