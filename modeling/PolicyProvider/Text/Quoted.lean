import PolicyProvider.Text.Hex
import PolicyProvider.Text.Unprintable
import PolicyProvider.Text.GraphemeExtend
/-!
# Quoted — a text shown between double quotes in messages

Quotes, backslashes and the usual controls take a short escape; a character that would not show, or that would attach
to the quote before it, is written by its code point in braces; everything else stands for itself.
-/
namespace PolicyProvider

/-- **A character inside a quoted text.** -/
def quotedChar (c : Char) : List Char :=
  if c = '\x00' then ['\\', '0']
  else if c = '\t' then ['\\', 't']
  else if c = '\r' then ['\\', 'r']
  else if c = '\n' then ['\\', 'n']
  else if c = '"' then ['\\', '"']
  else if c = '\\' then ['\\', '\\']
  else if isGraphemeExtend c || isUnprintable c then
    ['\\', 'u', '{'] ++ Hex.digits c.toNat ++ ['}']
  else [c]

/-- **A text in double quotes**, every character escaped as `quotedChar` says. -/
def quoted (s : String) : String :=
  String.ofList ('"' :: s.toList.flatMap quotedChar ++ ['"'])

/-- Items in brackets, separated by a comma and a space. -/
def bracketed (items : List String) : String :=
  "[" ++ ", ".intercalate items ++ "]"

def quotedList (items : List String) : String :=
  bracketed (items.map quoted)

/-- A value that may be missing: `Some(..)` around its shown form, or `None`. -/
def shownOption {α : Type} (render : α → String) : Option α → String
  | none => "None"
  | some a => "Some(" ++ render a ++ ")"

end PolicyProvider
