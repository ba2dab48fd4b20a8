/-!
# Punycode — a label's characters past ASCII, spelled in ASCII

The ASCII characters of a label come first, then a hyphen if there are any, then one number for each of the others in
ascending order. A number says how many places to move on before the next character is put in: a move past the end of
the label raises the code point by one. Numbers are written in base 36 with the lowest digit first, and thresholds that
follow the numbers read so far tell where one ends.
-/
namespace PolicyProvider
namespace Punycode

/-- The value of a digit: the letters, in either case, come before the decimal digits. -/
def digit? (c : Char) : Option Nat :=
  let n := c.toNat
  if 97 ≤ n ∧ n ≤ 122 then some (n - 97)
  else if 65 ≤ n ∧ n ≤ 90 then some (n - 65)
  else if 48 ≤ n ∧ n ≤ 57 then some (n - 22)
  else none

/-- The threshold of the digit at a position, counted in steps of 36; a digit below it ends its number. -/
def threshold (bias position : Nat) : Nat :=
  if position ≤ bias then 1 else if bias + 26 ≤ position then 26 else position - bias

/-- The positions passed while a number is divided by 35 until it is at most 455, and what is left of it. -/
def scaled (n : Nat) : Nat × Nat :=
  if 455 < n then ((scaled (n / 35)).1 + 36, (scaled (n / 35)).2) else (0, n)
termination_by n
decreasing_by all_goals omega

/-- The bias after a number; `size` is the length of the label then. The first number counts for less. -/
def nextBias (isFirst : Bool) (number size : Nat) : Nat :=
  let damped := if isFirst then number / 700 else number / 2
  let (position, rest) := scaled (damped + damped / size)
  position + 36 * rest / (rest + 38)

/-- The greatest number that is read. -/
def limit : Nat := 4294967295

/-- A label as far as it is read: its characters, the latest code point put in, the place after it, the bias, and the
number being read with the weight and the position of its next digit. -/
structure Progress where
  label : List Char
  code : Nat := 128
  place : Nat := 0
  bias : Nat := 72
  number : Nat := 0
  weight : Nat := 1
  position : Nat := 36

namespace Progress

/-- Whether no number has been begun. -/
def isBetween (p : Progress) : Bool := p.weight == 1

/-- The label with the character of a finished number put in. -/
def put? (p : Progress) (number : Nat) : Option Progress :=
  let size := p.label.length + 1
  let code := p.code + (p.place + number) / size
  let place := (p.place + number) % size
  if (55295 < code ∧ code < 57344) ∨ 1114111 < code then none
  else some
    { label := p.label.take place ++ Char.ofNat code :: p.label.drop place
      code := code
      place := place + 1
      bias := nextBias (p.place == 0) number size }

def step? (p : Progress) (c : Char) : Option Progress := do
  let d ← digit? c
  let number := p.number + d * p.weight
  let t := threshold p.bias p.position
  if limit < p.place + number then none
  else if d < t then p.put? number
  else if limit < p.weight * (36 - t) then none
  else some { p with number := number, weight := p.weight * (36 - t), position := p.position + 36 }

end Progress

/-- The ASCII characters before the last hyphen, and the digits after it; a hyphen at the very start is left among the
digits. -/
def parts (text : List Char) : List Char × List Char :=
  let digits := (text.reverse.takeWhile (· != '-')).reverse
  let basic := text.take (text.length - digits.length - 1)
  if basic.isEmpty then ([], text) else (basic, digits)

/-- **The label that a text spells**, if it spells one. -/
def decode? (text : List Char) : Option (List Char) := do
  let (basic, digits) := parts text
  let p ← digits.foldlM Progress.step? { label := basic }
  if p.isBetween then some p.label else none

end Punycode
end PolicyProvider
