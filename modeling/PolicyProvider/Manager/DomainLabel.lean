import PolicyProvider.Text.Composition
import PolicyProvider.Text.Direction
import PolicyProvider.Text.Joining
import PolicyProvider.Text.LabelCharacter
import PolicyProvider.Text.Punycode
/-!
# DomainLabel — the labels of a domain name

A label in ASCII stands for itself unless it starts with `xn--`: then it spells a label with characters past ASCII,
which has to keep the rules of such labels. In a name that holds letters written to the left, every label has to keep
one direction.
-/
namespace PolicyProvider
namespace DomainLabel

/-- The mark of a label that spells another one. -/
def spelledMark : List Char := ['x', 'n', '-', '-']

/-! ## Joiners -/

/-- The sign that keeps two letters apart. -/
def nonJoiner : Char := Char.ofNat 0x200C

/-- The sign that joins two letters. -/
def joiner : Char := Char.ofNat 0x200D

/-- Whether the first character that is not seen through is of a kind. -/
def meets (kind : Char → Bool) (text : List Char) : Bool :=
  ((text.dropWhile Joining.isTransparent).take 1).any kind

/-- Whether a sign that joins or keeps apart may stand after `before`, given latest first, and before `after`: either
one after a virama, and the one that keeps apart between letters that would be joined. -/
def isPlaced (sign : Char) (before after : List Char) : Bool :=
  (before.take 1).any (fun c => CombiningMark.classOf c == CombiningMark.virama)
    || (sign == nonJoiner && meets Joining.joinsForth before && meets Joining.joinsBack after)

/-- Whether all such signs of a text may stand where they do. -/
def joinersStand (before : List Char) : List Char → Bool
  | [] => true
  | c :: rest =>
    (if c = nonJoiner ∨ c = joiner then isPlaced c before rest else true) && joinersStand (c :: before) rest

/-! ## Spelled labels -/

/-- Whether a label may be spelled in ASCII: it has characters past ASCII, only those that labels hold, is composed,
does not start with a mark, has its joiners in place, and does not look spelled itself. -/
def isSpellable (label : List Char) : Bool :=
  label.any (fun c => decide (127 < c.toNat)) && label.all (fun c => decide (c.toNat ≤ 127) || isLabelCharacter c)
    && Composition.isComposed label && !(label.take 1).any CombiningMark.isMark && joinersStand [] label
    && !spelledMark.isPrefixOf label

/-- **The label that a label in lower case stands for**, if it stands for one. -/
def meant? (label : List Char) : Option (List Char) :=
  if spelledMark.isPrefixOf label then
    match Punycode.decode? (label.drop spelledMark.length) with
    | some decoded => if isSpellable decoded then some decoded else none
    | none => none
  else some label

/-! ## Direction -/

/-- Whether a character makes the name that holds it one with a direction. -/
def turns (c : Char) : Bool :=
  match Direction.of c with
  | .leftward => true
  | .arabicNumber => true
  | _ => false

/-- Whether a label keeps one direction: it starts with a letter, holds no letters of the other direction, ends in a
letter or a number, marks aside, and does not mix two kinds of numbers. -/
def keepsDirection (label : List Char) : Bool :=
  let directions := label.map Direction.of
  let last := (directions.reverse.dropWhile (· == .mark)).take 1
  match directions with
  | [] => true
  | .rightward :: _ =>
    directions.all (fun d => d != .leftward && d != .arabicNumber)
      && last.all (fun d => d == .rightward || d == .europeanNumber)
  | .leftward :: _ =>
    directions.all (· != .rightward)
      && last.all (fun d => d == .leftward || d == .arabicNumber || d == .europeanNumber)
      && !(directions.contains .arabicNumber && directions.contains .europeanNumber)
  | _ => false

/-- **Whether the labels of a name stand together.** -/
def standTogether (labels : List (List Char)) : Bool :=
  !labels.any (·.any turns) || labels.all keepsDirection

end DomainLabel
end PolicyProvider
