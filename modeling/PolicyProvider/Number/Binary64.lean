/-!
# Binary64 — double-precision numbers by their bits

A number is its sixty-four bits. Every finite magnitude is a whole number of *units* of 2⁻¹⁰⁷⁴, so the arithmetic here
is exact arithmetic on naturals followed by one rounding, `roundRatio`, to the nearest number, halves to the even one.
-/
namespace PolicyProvider

structure Binary64 where
  bits : UInt64
deriving DecidableEq, Inhabited

namespace Binary64

/-- The number with the given bits; bits past the sixty-fourth are dropped. -/
def ofBits (n : Nat) : Binary64 := ⟨UInt64.ofNat n⟩

def isNegative (x : Binary64) : Bool := decide (Nat.pow 2 63 ≤ x.bits.toNat)

/-- The eleven exponent bits. -/
def exponentField (x : Binary64) : Nat := x.bits.toNat / Nat.pow 2 52 % Nat.pow 2 11

/-- The fifty-two fraction bits. -/
def fraction (x : Binary64) : Nat := x.bits.toNat % Nat.pow 2 52

def isFinite (x : Binary64) : Bool := x.exponentField != 2047

def isNaN (x : Binary64) : Bool := x.exponentField == 2047 && x.fraction != 0

def isZero (x : Binary64) : Bool := x.bits.toNat % Nat.pow 2 63 == 0

/-- Greater than zero; infinity counts, NaN does not. -/
def isPositive (x : Binary64) : Bool := !x.isNaN && !x.isZero && !x.isNegative

/-- **Equality of numbers**: NaN differs from everything and the two zeros are the same. -/
def numEq (x y : Binary64) : Bool :=
  !x.isNaN && !y.isNaN && (decide (x = y) || (x.isZero && y.isZero))

/-- The integer significand: the fraction, with the leading bit that normal numbers leave out. -/
def significand (x : Binary64) : Nat :=
  if x.exponentField = 0 then x.fraction else Nat.pow 2 52 + x.fraction

/-- How many powers of two the significand's last bit stands above one unit. -/
def scale (x : Binary64) : Nat := x.exponentField - 1

/-- **The magnitude of a finite number in units of 2⁻¹⁰⁷⁴.** -/
def units (x : Binary64) : Nat := x.significand * Nat.pow 2 x.scale

/-- How many units make one. -/
def unitsPerOne : Nat := Nat.pow 2 1074

/-- A quotient rounded to the nearest natural, halves to the even one. -/
def roundHalfEven (num den : Nat) : Nat :=
  let q := num / den
  let r := num % den
  if 2 * r < den then q
  else if den < 2 * r then q + 1
  else if q % 2 = 0 then q else q + 1

def infinityBits : Nat := 2047 * Nat.pow 2 52

/-- **The magnitude bits of a quotient of naturals, rounded to the nearest number.** The scale is the least at which the
significand fits in fifty-three bits; a significand rounded up past them carries into the exponent by itself. -/
def roundRatio (num den : Nat) : Nat :=
  let scale := (num * unitsPerOne / den).log2 - 52
  let bits := scale * Nat.pow 2 52 + roundHalfEven (num * unitsPerOne) (den * Nat.pow 2 scale)
  if infinityBits ≤ bits then infinityBits else bits

/-- A signed quotient of naturals as the nearest number. -/
def ofRatio (negative : Bool) (num den : Nat) : Binary64 :=
  ofBits ((if negative then Nat.pow 2 63 else 0) + roundRatio num den)

def ofNat (n : Nat) : Binary64 := ofRatio false n 1

def ofInt (i : Int) : Binary64 := ofRatio (decide (i < 0)) i.natAbs 1

def neg (x : Binary64) : Binary64 :=
  ofBits (if x.isNegative then x.bits.toNat - Nat.pow 2 63 else x.bits.toNat + Nat.pow 2 63)

def mulMagnitude (x y : Binary64) : Binary64 :=
  ofRatio false (x.units * y.units) (unitsPerOne * unitsPerOne)

def divMagnitude (x y : Binary64) : Binary64 :=
  ofRatio false x.units y.units

/-- The number of a single-precision one, which is exact; a NaN keeps its payload and is quiet. -/
def ofBits32 (n : Nat) : Binary64 :=
  let negative := Nat.pow 2 31 ≤ n
  let exponent := n / Nat.pow 2 23 % Nat.pow 2 8
  let fraction := n % Nat.pow 2 23
  let sign := if negative then Nat.pow 2 63 else 0
  if exponent = 255 then
    if fraction = 0 then ofBits (sign + infinityBits)
    else ofBits (sign + infinityBits + (fraction * Nat.pow 2 29 ||| Nat.pow 2 51))
  else
    let significand := if exponent = 0 then fraction else Nat.pow 2 23 + fraction
    ofRatio negative (significand * Nat.pow 2 (exponent - 1)) (Nat.pow 2 149)

end Binary64
end PolicyProvider
