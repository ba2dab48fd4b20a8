import PolicyProvider.Manager.DomainLabel
import PolicyProvider.Manager.Response
import PolicyProvider.Text.Percent
/-!
# Host — the host part of an address

A host is a domain name in lower case, an IPv4 address in any of its number forms, or an IPv6 address in brackets.
Names outside ASCII are refused, but their labels may be spelled in it.
-/
namespace PolicyProvider
namespace Host

/-! ## Domain names -/

/-- Characters read with their percent escapes undone; a percent sign without two digits stands for itself. -/
def percentDecoded : List Char → List UInt8
  | '%' :: a :: b :: rest =>
    match Hex.value? a, Hex.value? b with
    | some x, some y => UInt8.ofNat (16 * x + y) :: percentDecoded rest
    | _, _ => 37 :: percentDecoded (a :: b :: rest)
  | c :: rest => Utf8.encodeChar c ++ percentDecoded rest
  | [] => []

/-- A byte that no domain name holds: controls, blanks, delete, the marks of an address, and anything past ASCII. -/
def isForbidden (b : UInt8) : Bool :=
  decide (b.toNat ≤ 32) || decide (127 ≤ b.toNat)
    || "%#/:<>?@[\\]^|".toList.any (fun c => c.toNat == b.toNat)

def splitAt (c : Char) : List Char → List (List Char)
  | [] => [[]]
  | d :: rest =>
    if d = c then [] :: splitAt c rest
    else match splitAt c rest with
      | [] => [[d]]
      | part :: parts => (d :: part) :: parts

/-- **The domain name of a host as it was written**, in lower case. -/
def domain? (text : List Char) : Option (List Char) :=
  let bytes := percentDecoded text
  let name := bytes.map fun b => (Char.ofNat b.toNat).toLower
  if bytes.any isForbidden then none
  else match (splitAt '.' name).mapM DomainLabel.meant? with
    | some labels => if DomainLabel.standTogether labels then some name else none
    | none => none

/-! ## IPv4 -/

/-- The value of digits in a base, if they are digits of it. -/
def digitsIn? (base : Nat) (text : List Char) : Option Nat :=
  text.foldlM (fun n c => match Hex.value? c with
    | some d => if d < base then some (base * n + d) else none
    | none => none) 0

/-- A part of an IPv4 address: decimal, octal after a zero, hexadecimal after `0x`; a bare sign of the base is zero. -/
def ipv4Part? : List Char → Option Nat
  | [] => none
  | '0' :: 'x' :: rest => digitsIn? 16 rest
  | '0' :: 'X' :: rest => digitsIn? 16 rest
  | '0' :: d :: rest => digitsIn? 8 (d :: rest)
  | text => digitsIn? 10 text

/-- The parts of a host between dots, an empty last one dropped. -/
def dottedParts (text : List Char) : List (List Char) :=
  let parts := splitAt '.' text
  if parts.getLast? = some [] then parts.dropLast else parts

/-- **Whether a host has to be an IPv4 address**: its last part is a number. -/
def endsInNumber (text : List Char) : Bool :=
  match (dottedParts text).getLast? with
  | none => false
  | some last => (!last.isEmpty && last.all Char.isDigit) || (ipv4Part? last).isSome

/-- The number of an IPv4 address; its last part fills the bytes that the others leave. -/
def ipv4? (text : List Char) : Option Nat := do
  let parts := dottedParts text
  if 4 < parts.length then none
  else
    let numbers ← parts.mapM ipv4Part?
    let last ← numbers.getLast?
    let leading := numbers.dropLast
    if leading.any (fun n => decide (255 < n)) ∨ Nat.pow 256 (4 - leading.length) ≤ last then none
    else some (leading.foldl (fun (acc : Nat × Nat) n => (acc.1 + n * Nat.pow 256 acc.2, acc.2 - 1)) (last, 3)).1

def ipv4Text (n : Nat) : String :=
  ".".intercalate ([n / 16777216 % 256, n / 65536 % 256, n / 256 % 256, n % 256].map toString)

/-! ## IPv6 -/

/-- Up to so many hexadecimal digits: their value, how many they are, and what follows. -/
def hexRun : Nat → List Char → Nat × Nat × List Char
  | 0, text => (0, 0, text)
  | _, [] => (0, 0, [])
  | limit + 1, c :: rest =>
    match Hex.value? c with
    | none => (0, 0, c :: rest)
    | some d =>
      let (n, count, after) := hexRun limit rest
      (d * Nat.pow 16 count + n, count + 1, after)

/-- A decimal byte without leading zeros. -/
def decimalByte? (text : List Char) : Option Nat :=
  match text with
  | [] => none
  | '0' :: _ :: _ => none
  | _ => if text.all Char.isDigit then (digitsIn? 10 text).bind fun n => if n ≤ 255 then some n else none else none

/-- The two pieces of an IPv4 address at the end of an IPv6 one. -/
def embedded? (text : List Char) : Option (List Nat) := do
  match ← (splitAt '.' text).mapM decimalByte? with
  | [a, b, c, d] => some [256 * a + b, 256 * c + d]
  | _ => none

/-- The pieces of an IPv6 address and, after `::`, how many came before it. `count` pieces were read already, the rest
of the text starts with a piece or with the second colon of `::`; `fuel` bounds its length. -/
def pieces? : (fuel count : Nat) → (gap : Option Nat) → List Char → Option (List Nat × Option Nat)
  | _, _, gap, [] => some ([], gap)
  | 0, _, _, _ :: _ => none
  | fuel + 1, count, gap, ':' :: rest =>
    if count = 8 ∨ gap.isSome then none else pieces? fuel count (some count) rest
  | fuel + 1, count, gap, text =>
    if 8 ≤ count then none
    else
      let (n, digits, after) := hexRun 4 text
      match after with
      | [] => if digits = 0 then none else some ([n], gap)
      | '.' :: _ =>
        if digits = 0 ∨ 6 < count then none else (embedded? text).map fun ps => (ps, gap)
      | ':' :: rest =>
        if rest.isEmpty then none
        else (pieces? fuel (count + 1) gap rest).map fun (ps, gap) => (n :: ps, gap)
      | _ => none

/-- **The eight pieces of an IPv6 address.** -/
def ipv6? (text : List Char) : Option (List Nat) := do
  let (pieces, gap) ← match text with
    | ':' :: ':' :: rest => pieces? text.length 0 (some 0) rest
    | ':' :: _ => none
    | [] => none
    | [_] => none
    | _ => pieces? text.length 0 none text
  match gap with
  | none => if pieces.length = 8 then some pieces else none
  | some before =>
    if 7 < pieces.length then none
    else some (pieces.take before ++ List.replicate (8 - pieces.length) 0 ++ pieces.drop before)

/-- How many zeros a list starts with. -/
def leadingZeros (ps : List Nat) : Nat := (ps.takeWhile (· == 0)).length

/-- Where the first longest run of zeros starts, and its length. -/
def longestZeros (ps : List Nat) : Nat × Nat :=
  (List.range ps.length).foldl (fun best i =>
    let n := leadingZeros (ps.drop i)
    if best.2 < n then (i, n) else best) (0, 0)

def piecesText (ps : List Nat) : String := ":".intercalate (ps.map fun n => String.ofList (Hex.digits n))

/-- An IPv6 address in brackets, its longest run of at least two zeros left out. -/
def ipv6Text (ps : List Nat) : String :=
  let (start, length) := longestZeros ps
  if length < 2 then "[" ++ piecesText ps ++ "]"
  else "[" ++ piecesText (ps.take start) ++ "::" ++ piecesText (ps.drop (start + length)) ++ "]"

def bracketed? (text : List Char) : Except AddressError String :=
  match text.getLast? with
  | some ']' => match ipv6? (text.drop 1).dropLast with
    | some ps => .ok (ipv6Text ps)
    | none => .error .invalidIpv6
  | _ => .error .invalidIpv6

/-- **The host of an address with a known scheme.** -/
def known (text : List Char) : Except AddressError String :=
  match text with
  | [] => .error .emptyHost
  | '[' :: _ => bracketed? text
  | _ => match domain? text with
    | none => .error .forbiddenHost
    | some [] => .error .emptyHost
    | some name =>
      if endsInNumber name then
        match ipv4? name with
        | some n => .ok (ipv4Text n)
        | none => .error .invalidIpv4
      else .ok (String.ofList name)

end Host
end PolicyProvider
