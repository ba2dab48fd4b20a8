import PolicyProvider.Text.Hex
import PolicyProvider.Text.Utf8
/-!
# Percent — text made safe for a query string

The letters, digits and `-_.~` stand for themselves; every other character is written byte by byte as a percent sign
and two upper-case hexadecimal digits.
-/
namespace PolicyProvider
namespace Percent

/-- The characters a query value may hold as they are. -/
def isUnreserved (c : Char) : Bool :=
  c.isAlphanum || c == '-' || c == '_' || c == '.' || c == '~'

/-- A byte as a percent sign and two digits. -/
def encodeByte (b : UInt8) : List Char :=
  ['%', Hex.upper (b.toNat / 16), Hex.upper (b.toNat % 16)]

def encodeChar (c : Char) : List Char :=
  if isUnreserved c then [c] else (Utf8.encodeChar c).flatMap encodeByte

/-- **A text as a query value.** -/
def encode (s : String) : String :=
  String.ofList (s.toList.flatMap encodeChar)

end Percent
end PolicyProvider
