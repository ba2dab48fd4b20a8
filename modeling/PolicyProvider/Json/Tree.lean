import PolicyProvider.Json.Numeral
import PolicyProvider.Text.Hex
/-!
# Tree — a JSON document as it is written

A tree keeps numerals and the escapes of strings as they stand in the text, and the members of objects in their order,
repeated names included. What they mean is decided by whoever reads the tree, because not every reader cares for every
part of it.
-/
namespace PolicyProvider
namespace Json

/-- A piece of a string: a character, or one unit given by four hexadecimal digits. -/
inductive Piece where
  | char (c : Char)
  | unit (n : Nat)
deriving DecidableEq

namespace Piece

/-- The first half of a pair of units. -/
def isHighHalf (n : Nat) : Bool := decide (0xD800 ≤ n) && decide (n ≤ 0xDBFF)

/-- The second half of a pair of units. -/
def isLowHalf (n : Nat) : Bool := decide (0xDC00 ≤ n) && decide (n ≤ 0xDFFF)

/-- **The characters that pieces stand for**; none if a half of a pair stands alone. -/
def chars? : List Piece → Option (List Char)
  | [] => some []
  | .char c :: rest => (chars? rest).map (c :: ·)
  | [.unit n] => if isHighHalf n || isLowHalf n then none else some [Char.ofNat n]
  | .unit n :: .char c :: rest =>
    if isHighHalf n || isLowHalf n then none else (chars? (.char c :: rest)).map (Char.ofNat n :: ·)
  | .unit n :: .unit m :: rest =>
    if isHighHalf n then
      if isLowHalf m then
        (chars? rest).map (Char.ofNat (0x10000 + (n - 0xD800) * 0x400 + (m - 0xDC00)) :: ·)
      else none
    else if isLowHalf n then none
    else (chars? (.unit m :: rest)).map (Char.ofNat n :: ·)

/-- The text of a string, if its units pair up. -/
def text? (pieces : List Piece) : Option String :=
  (chars? pieces).map String.ofList

/-- The piece a character is written as: a control without a short escape is written by its code. -/
def ofChar (c : Char) : Piece :=
  if c.toNat < 0x20 && !(c == '\x08' || c == '\t' || c == '\n' || c == '\x0c' || c == '\r') then .unit c.toNat
  else .char c

def ofString (s : String) : List Piece := s.toList.map ofChar

def written : Piece → List Char
  | .char c =>
    if c = '"' then ['\\', '"']
    else if c = '\\' then ['\\', '\\']
    else if c = '\x08' then ['\\', 'b']
    else if c = '\x0c' then ['\\', 'f']
    else if c = '\n' then ['\\', 'n']
    else if c = '\r' then ['\\', 'r']
    else if c = '\t' then ['\\', 't']
    else [c]
  | .unit n => '\\' :: 'u' :: Hex.four n

end Piece

/-- A document as written. -/
inductive Tree where
  | null
  | bool (b : Bool)
  | number (n : Numeral)
  | string (pieces : List Piece)
  | array (items : List Tree)
  | object (members : List (List Piece × Tree))

namespace Tree

def ofString (s : String) : Tree := .string (Piece.ofString s)

def ofStrings (ss : List String) : Tree := .array (ss.map ofString)

def text? : Tree → Option String
  | .string pieces => Piece.text? pieces
  | _ => none

def bool? : Tree → Option Bool
  | .bool b => some b
  | _ => none

def int64? : Tree → Option Int64
  | .number n => n.value?.bind Number.toInt64?
  | _ => none

def items? : Tree → Option (List Tree)
  | .array items => some items
  | _ => none

def texts? (t : Tree) : Option (List String) :=
  t.items?.bind (·.mapM text?)

mutual

/-- **How many containers are nested in one another** at the deepest place. -/
def depth : Tree → Nat
  | .array items => itemsDepth items + 1
  | .object members => membersDepth members + 1
  | _ => 0

def itemsDepth : List Tree → Nat
  | [] => 0
  | t :: rest => max (depth t) (itemsDepth rest)

def membersDepth : List (List Piece × Tree) → Nat
  | [] => 0
  | (_, t) :: rest => max (depth t) (membersDepth rest)

end

end Tree
end Json
end PolicyProvider
