import PolicyProvider.Json.Tree
/-!
# Token — the words of a JSON text

`tokens?` splits a text into brackets, marks and scalars; `Token.written` writes one back. Blanks between tokens carry
no meaning.
-/
namespace PolicyProvider
namespace Json

/-- A word of a JSON text. -/
inductive Token where
  | openArray
  | closeArray
  | openObject
  | closeObject
  | comma
  | colon
  | null
  | bool (b : Bool)
  | number (n : Numeral)
  | string (pieces : List Piece)
deriving DecidableEq

namespace Token

def written : Token → List Char
  | .openArray => ['[']
  | .closeArray => [']']
  | .openObject => ['{']
  | .closeObject => ['}']
  | .comma => [',']
  | .colon => [':']
  | .null => ['n', 'u', 'l', 'l']
  | .bool true => ['t', 'r', 'u', 'e']
  | .bool false => ['f', 'a', 'l', 's', 'e']
  | .number n => n.text
  | .string pieces => '"' :: pieces.flatMap Piece.written ++ ['"']

end Token

def isBlank (c : Char) : Bool := c == ' ' || c == '\t' || c == '\n' || c == '\r'

/-- The digits a text starts with, and what follows them. -/
def readDigits : List Char → List Digit × List Char
  | [] => ([], [])
  | c :: rest =>
    match Digit.ofChar? c with
    | some d => ((d :: (readDigits rest).1), (readDigits rest).2)
    | none => ([], c :: rest)

/-- **The body of a string up to its closing quote**, and what follows. A control character cannot stand in a string as
itself; an escape is one of the eight short ones or `u` with four hexadecimal digits. -/
def readString : List Char → Option (List Piece × List Char)
  | [] => none
  | '"' :: rest => some ([], rest)
  | '\\' :: 'u' :: a :: b :: c :: d :: rest => do
    let n := (← Hex.value? a) * 4096 + (← Hex.value? b) * 256 + (← Hex.value? c) * 16 + (← Hex.value? d)
    let (pieces, after) ← readString rest
    some (.unit n :: pieces, after)
  | '\\' :: c :: rest => do
    let escaped ← match c with
      | '"' => some '"'
      | '\\' => some '\\'
      | '/' => some '/'
      | 'b' => some '\x08'
      | 'f' => some '\x0c'
      | 'n' => some '\n'
      | 'r' => some '\r'
      | 't' => some '\t'
      | _ => none
    let (pieces, after) ← readString rest
    some (.char escaped :: pieces, after)
  | c :: rest =>
    if c.toNat < 0x20 ∨ c = '\\' then none
    else do
      let (pieces, after) ← readString rest
      some (.char c :: pieces, after)

/-- The fraction after a numeral's whole part: a point needs at least one digit after it. -/
def readFraction : List Char → Option (List Digit × List Char)
  | '.' :: rest =>
    let (ds, after) := readDigits rest
    if ds.isEmpty then none else some (ds, after)
  | text => some ([], text)

/-- The exponent after a numeral's digits: the letter needs at least one digit after its optional sign. -/
def readExponent : List Char → Option (Option (Bool × List Digit) × List Char)
  | [] => some (none, [])
  | c :: rest =>
    if c = 'e' ∨ c = 'E' then
      let (negative, body) := match rest with
        | '-' :: body => (true, body)
        | '+' :: body => (false, body)
        | body => (false, body)
      let (ds, after) := readDigits body
      if ds.isEmpty then none else some (some (negative, ds), after)
    else some (none, c :: rest)

/-- The whole part of a numeral: a single zero, or digits that start with another. -/
def readWhole (text : List Char) : Option (List Digit × List Char) :=
  match readDigits text with
  | ([], _) => none
  | (d :: ds, after) => if d = Digit.zero ∧ !ds.isEmpty then none else some (d :: ds, after)

/-- A numeral at the start of a text, and what follows it. -/
def readNumeral (text : List Char) : Option (Numeral × List Char) := do
  let (negative, body) := match text with
    | '-' :: body => (true, body)
    | body => (false, body)
  let (whole, afterWhole) ← readWhole body
  let (fraction, afterFraction) ← readFraction afterWhole
  let (exponent, after) ← readExponent afterFraction
  some (⟨negative, whole, fraction, exponent⟩, after)

/-- **The token a text starts with**, and what follows it; the text does not start with a blank. -/
def readToken : List Char → Option (Token × List Char)
  | [] => none
  | '[' :: rest => some (.openArray, rest)
  | ']' :: rest => some (.closeArray, rest)
  | '{' :: rest => some (.openObject, rest)
  | '}' :: rest => some (.closeObject, rest)
  | ',' :: rest => some (.comma, rest)
  | ':' :: rest => some (.colon, rest)
  | 'n' :: 'u' :: 'l' :: 'l' :: rest => some (.null, rest)
  | 't' :: 'r' :: 'u' :: 'e' :: rest => some (.bool true, rest)
  | 'f' :: 'a' :: 'l' :: 's' :: 'e' :: rest => some (.bool false, rest)
  | '"' :: rest => (readString rest).map fun (pieces, after) => (.string pieces, after)
  | text => (readNumeral text).map fun (n, after) => (.number n, after)

/-- The tokens of a text of which at most `fuel` characters are still to be read. -/
def tokensWithin : Nat → List Char → Option (List Token)
  | _, [] => some []
  | 0, _ :: _ => none
  | fuel + 1, c :: rest =>
    if isBlank c then tokensWithin fuel rest
    else do
      let (token, after) ← readToken (c :: rest)
      (tokensWithin fuel after).map (token :: ·)

/-- **The tokens of a text**; each is at least one character long, so its length bounds their number. -/
def tokens? (text : List Char) : Option (List Token) :=
  tokensWithin text.length text

end Json
end PolicyProvider
