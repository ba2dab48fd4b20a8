/-!
# Hex — digits in base sixteen and ten

The lower-case and upper-case hexadecimal digits and the reading of one, shared by the quoted form of a text, percent
encoding and the escapes of JSON strings.
-/
namespace PolicyProvider
namespace Hex

def lower (n : Nat) : Char :=
  if n < 10 then Char.ofNat (48 + n) else Char.ofNat (87 + n)

def upper (n : Nat) : Char :=
  if n < 10 then Char.ofNat (48 + n) else Char.ofNat (55 + n)

def value? (c : Char) : Option Nat :=
  let n := c.toNat
  if 48 ≤ n ∧ n ≤ 57 then some (n - 48)
  else if 97 ≤ n ∧ n ≤ 102 then some (n - 87)
  else if 65 ≤ n ∧ n ≤ 70 then some (n - 55)
  else none

/-- The lower-case digits of a number, without leading zeros; zero is `0`. -/
def digits (n : Nat) : List Char :=
  (Nat.toDigits 16 n)

/-- Exactly four lower-case digits of a number below 65536. -/
def four (n : Nat) : List Char :=
  [lower (n / 4096 % 16), lower (n / 256 % 16), lower (n / 16 % 16), lower (n % 16)]

end Hex
end PolicyProvider
