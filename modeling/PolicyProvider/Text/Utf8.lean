/-!
# Utf8 — characters and their bytes

`encode` writes a text as bytes. `scan` reads bytes one character at a time and marks each maximal ill-formed stretch
once; strict reading (`decode?`) refuses any mark, lenient reading (`decodeLossy`) puts U+FFFD in its place.
-/
namespace PolicyProvider
namespace Utf8

def encodeChar (c : Char) : List UInt8 :=
  let n := c.toNat
  if n < 0x80 then [UInt8.ofNat n]
  else if n < 0x800 then [UInt8.ofNat (0xC0 + n / 0x40), UInt8.ofNat (0x80 + n % 0x40)]
  else if n < 0x10000 then
    [UInt8.ofNat (0xE0 + n / 0x1000), UInt8.ofNat (0x80 + n / 0x40 % 0x40), UInt8.ofNat (0x80 + n % 0x40)]
  else
    [UInt8.ofNat (0xF0 + n / 0x40000), UInt8.ofNat (0x80 + n / 0x1000 % 0x40),
      UInt8.ofNat (0x80 + n / 0x40 % 0x40), UInt8.ofNat (0x80 + n % 0x40)]

/-- **The bytes of a text.** -/
def encode (s : String) : List UInt8 :=
  s.toList.flatMap encodeChar

/-- A byte that may follow a first byte: `10xxxxxx`. -/
def isContinuation (b : UInt8) : Bool :=
  decide (0x80 ≤ b.toNat) && decide (b.toNat ≤ 0xBF)

/-- The second bytes that may follow the first byte of a three-byte character: no overlong form, no surrogate. -/
def isSecondOfThree (b0 b1 : UInt8) : Bool :=
  isContinuation b1 && !(b0 == 0xE0 && decide (b1.toNat < 0xA0)) && !(b0 == 0xED && decide (0x9F < b1.toNat))

/-- The second bytes that may follow the first byte of a four-byte character: no overlong form, nothing past
U+10FFFF. -/
def isSecondOfFour (b0 b1 : UInt8) : Bool :=
  isContinuation b1 && !(b0 == 0xF0 && decide (b1.toNat < 0x90)) && !(b0 == 0xF4 && decide (0x8F < b1.toNat))

/-- The six bits a continuation byte carries. -/
def tail (b : UInt8) : Nat := b.toNat % 0x40

/-- **Bytes read character by character.** A stretch that starts like a character and breaks off is one mark, as is a
byte that starts none. -/
def scan : List UInt8 → List (Option Char)
  | [] => []
  | b0 :: r0 =>
    let n := b0.toNat
    if n < 0x80 then some (Char.ofNat n) :: scan r0
    else if 0xC2 ≤ n ∧ n ≤ 0xDF then
      match r0 with
      | [] => [none]
      | b1 :: r1 =>
        if isContinuation b1 then some (Char.ofNat (n % 0x20 * 0x40 + tail b1)) :: scan r1
        else none :: scan (b1 :: r1)
    else if 0xE0 ≤ n ∧ n ≤ 0xEF then
      match r0 with
      | [] => [none]
      | b1 :: r1 =>
        if isSecondOfThree b0 b1 then
          match r1 with
          | [] => [none]
          | b2 :: r2 =>
            if isContinuation b2 then
              some (Char.ofNat (n % 0x10 * 0x1000 + tail b1 * 0x40 + tail b2)) :: scan r2
            else none :: scan (b2 :: r2)
        else none :: scan (b1 :: r1)
    else if 0xF0 ≤ n ∧ n ≤ 0xF4 then
      match r0 with
      | [] => [none]
      | b1 :: r1 =>
        if isSecondOfFour b0 b1 then
          match r1 with
          | [] => [none]
          | b2 :: r2 =>
            if isContinuation b2 then
              match r2 with
              | [] => [none]
              | b3 :: r3 =>
                if isContinuation b3 then
                  some (Char.ofNat (n % 0x8 * 0x40000 + tail b1 * 0x1000 + tail b2 * 0x40 + tail b3)) :: scan r3
                else none :: scan (b3 :: r3)
            else none :: scan (b2 :: r2)
        else none :: scan (b1 :: r1)
    else none :: scan r0

def decodeChars? (bytes : List UInt8) : Option (List Char) :=
  (scan bytes).mapM id

/-- **Strict reading**: the text of well-formed bytes. -/
def decode? (bytes : List UInt8) : Option String :=
  (decodeChars? bytes).map String.ofList

/-- **Lenient reading**: each ill-formed stretch becomes U+FFFD. -/
def decodeLossy (bytes : List UInt8) : String :=
  String.ofList ((scan bytes).map (·.getD (Char.ofNat 0xFFFD)))

end Utf8
end PolicyProvider
