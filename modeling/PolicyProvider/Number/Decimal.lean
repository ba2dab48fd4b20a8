import PolicyProvider.Number.Binary64
/-!
# Decimal — the fewest digits that read back

`Decimal.shortest` finds the decimal with the fewest digits that rounds back to a given finite number and, among
those, the nearest to it. The search is exact: at one digit, two, and so on up to seventeen, it tests the two
neighbours of the number on the grid of decimals with so many digits.
-/
namespace PolicyProvider

abbrev Digit := Fin 10

namespace Digit

def zero : Digit := ⟨0, by decide⟩

def char (d : Digit) : Char := Char.ofNat (48 + d.val)

def ofChar? (c : Char) : Option Digit :=
  if h : 48 ≤ c.toNat ∧ c.toNat < 58 then some ⟨c.toNat - 48, by omega⟩ else none

/-- The digits of a natural, most significant first; zero has one. -/
def ofNat (n : Nat) : List Digit :=
  if h : n < 10 then [⟨n, h⟩] else ofNat (n / 10) ++ [⟨n % 10, Nat.mod_lt _ (by decide)⟩]
termination_by n
decreasing_by omega

def count (n : Nat) : Nat :=
  if n < 10 then 1 else count (n / 10) + 1
termination_by n
decreasing_by omega

def toNat (ds : List Digit) : Nat :=
  ds.foldl (fun n d => 10 * n + d.val) 0

/-- The least natural that does not fit in sixty-four bits. -/
def wordLimit : Nat := Nat.pow 2 64

/-- **The word of a text**: a natural of sixty-four bits in decimal digits, with or without a plus sign before them. -/
def word? (s : String) : Option Nat :=
  let digits := match s.toList with
    | '+' :: rest => rest
    | text => text
  if digits.isEmpty then none
  else (digits.mapM ofChar?).bind fun ds => if toNat ds < wordLimit then some (toNat ds) else none

end Digit

/-- A positive decimal `0.d₁d₂… × 10^point`. -/
structure Decimal where
  digits : List Digit
  point : Int
deriving DecidableEq

/-- What to do with a number that lies exactly between the two nearest decimals. -/
inductive TieRule where
  | toEven
  | up
deriving DecidableEq

namespace Decimal

/-- Enough decimal places that every grid of the search is made of whole multiples of the last of them. -/
def places : Nat := 350

/-- The digits of a natural without its trailing zeros. -/
def significantDigits (n : Nat) : List Digit :=
  ((Digit.ofNat n).reverse.dropWhile (· == Digit.zero)).reverse

/-- The two ends of the interval that rounds to a finite number, and the number itself, all three in quarters of its
unit. Just above a power of two the numbers below lie twice as close. -/
def interval (x : Binary64) : Nat × Nat × Nat :=
  let gap := Nat.pow 2 x.scale
  let v := 4 * x.units
  let below := if x.significand = Nat.pow 2 52 ∧ 0 < x.scale then gap else 2 * gap
  (v - below, v, v + 2 * gap)

/-- **The neighbour of a number on a grid that reads back as it**, if any: `step` is the grid's, and all quantities are
in one common unit. -/
def nearestOnGrid (tie : TieRule) (closed : Bool) (low value high step : Nat) : Option Nat :=
  let c := value / step
  let fits (t : Nat) := if closed then decide (low ≤ t) && decide (t ≤ high) else decide (low < t) && decide (t < high)
  let downFits := decide (0 < c) && fits (c * step)
  let upFits := fits ((c + 1) * step)
  let toDown := value - c * step
  let toUp := (c + 1) * step - value
  if downFits && upFits then
    if toDown < toUp then some c
    else if toUp < toDown then some (c + 1)
    else match tie with
      | .up => some (c + 1)
      | .toEven => some (if c % 2 = 0 then c else c + 1)
  else if downFits then some c
  else if upFits then some (c + 1)
  else none

/-- The number with so many digits that reads back as a finite one, if any: of a number with so many places before the
last, its digits as a natural. -/
def withDigits? (tie : TieRule) (x : Binary64) (length count : Nat) : Option Nat :=
  let (low, value, high) := interval x
  let fine := Nat.pow 10 places
  nearestOnGrid tie (x.significand % 2 == 0) (low * fine) (value * fine) (high * fine)
    (Nat.pow 10 (length - count) * (4 * Binary64.unitsPerOne))

/-- How many digits a finite number has down to the last place. -/
def length (x : Binary64) : Nat :=
  Digit.count ((interval x).2.1 * Nat.pow 10 places / (4 * Binary64.unitsPerOne))

/-- **The fewest digits that read back as a finite number**, as a natural, and how many of its digits they stand for. -/
def search (tie : TieRule) (x : Binary64) : Option (Nat × Nat) :=
  (List.range 17).findSome? fun i => (withDigits? tie x (length x) (i + 1)).map fun c => (c, i + 1)

/-- The decimal of the digits that were found for a number of a given length. -/
def ofSearch (length : Nat) : Option (Nat × Nat) → Decimal
  | none => ⟨[Digit.zero], 0⟩
  | some (c, count) => ⟨significantDigits c, (length : Int) - places + ((Digit.count c : Int) - count)⟩

/-- **The shortest decimal that reads back as a finite, non-zero number**, sign apart. -/
def shortest (tie : TieRule) (x : Binary64) : Decimal :=
  ofSearch (length x) (search tie x)

/-- The digits before and after the point when the decimal is written out. -/
def positional (d : Decimal) : List Digit × List Digit :=
  if d.point ≤ 0 then ([Digit.zero], List.replicate (-d.point).toNat Digit.zero ++ d.digits)
  else
    let n := d.point.toNat
    (d.digits.take n ++ List.replicate (n - d.digits.length) Digit.zero, d.digits.drop n)

end Decimal

/-- **A number written out in full**: never an exponent, no point after a whole number, a decimal midway between two
candidates rounded up. -/
def Binary64.plainText (x : Binary64) : String :=
  let sign := if x.isNegative then "-" else ""
  if x.isNaN then "NaN"
  else if !x.isFinite then sign ++ "inf"
  else if x.isZero then sign ++ "0"
  else
    let (whole, part) := (Decimal.shortest .up x).positional
    let tail := if part.isEmpty then [] else '.' :: part.map Digit.char
    sign ++ String.ofList (whole.map Digit.char ++ tail)

end PolicyProvider
