import PolicyProvider.Json.Token
import PolicyProvider.Text.Utf8
/-!
# Reader — from JSON text to trees and back

Reading is a fold over the tokens: `State` says what may come next and holds the containers that are still open.
Writing lists the tokens of a tree, without blanks.
-/
namespace PolicyProvider
namespace Json

/-- A container that is still open, and what it holds so far, latest first. -/
inductive Frame where
  | items (done : List Tree)
  | members (done : List (List Piece × Tree)) (key : List Piece)

/-- What may come next in a text. -/
inductive State where
  /-- A value. -/
  | value (outer : List Frame)
  /-- The first item of an array, or its end. -/
  | firstItem (outer : List Frame)
  /-- The first member of an object, or its end. -/
  | firstMember (outer : List Frame)
  /-- The name of a further member. -/
  | name (done : List (List Piece × Tree)) (outer : List Frame)
  /-- The colon after a name. -/
  | colon (done : List (List Piece × Tree)) (key : List Piece) (outer : List Frame)
  /-- A comma or the end of an array. -/
  | afterItem (done : List Tree) (outer : List Frame)
  /-- A comma or the end of an object. -/
  | afterMember (done : List (List Piece × Tree)) (outer : List Frame)
  /-- Nothing. -/
  | finished (t : Tree)

namespace State

/-- A value is complete: it goes to the innermost open container. -/
def complete (t : Tree) : List Frame → State
  | [] => .finished t
  | .items done :: rest => .afterItem (t :: done) rest
  | .members done key :: rest => .afterMember ((key, t) :: done) rest

/-- The first token of a value. -/
def begin? (outer : List Frame) : Token → Option State
  | .null => some (complete .null outer)
  | .bool b => some (complete (.bool b) outer)
  | .number n => some (complete (.number n) outer)
  | .string pieces => some (complete (.string pieces) outer)
  | .openArray => some (.firstItem outer)
  | .openObject => some (.firstMember outer)
  | _ => none

/-- **One token**, if it may come next. -/
def next? : State → Token → Option State
  | .value outer, token => begin? outer token
  | .firstItem outer, .closeArray => some (complete (.array []) outer)
  | .firstItem outer, token => begin? (.items [] :: outer) token
  | .firstMember outer, .closeObject => some (complete (.object []) outer)
  | .firstMember outer, .string key => some (.colon [] key outer)
  | .name done outer, .string key => some (.colon done key outer)
  | .colon done key outer, .colon => some (.value (.members done key :: outer))
  | .afterItem done outer, .comma => some (.value (.items done :: outer))
  | .afterItem done outer, .closeArray => some (complete (.array done.reverse) outer)
  | .afterMember done outer, .comma => some (.name done outer)
  | .afterMember done outer, .closeObject => some (complete (.object done.reverse) outer)
  | _, _ => none

/-- The tree that was read, if the text may end here. -/
def tree? : State → Option Tree
  | .finished t => some t
  | _ => none

end State

/-- **The tree of a text**, if the text is one JSON document. -/
def parse? (text : List Char) : Option Tree := do
  let final ← (← tokens? text).foldlM State.next? (.value [])
  final.tree?

/-- The tree of a text given as bytes, which must be well-formed UTF-8. -/
def parseBytes? (bytes : List UInt8) : Option Tree :=
  (Utf8.decodeChars? bytes).bind parse?

namespace Tree

mutual

def tokens : Tree → List Token
  | .null => [.null]
  | .bool b => [.bool b]
  | .number n => [.number n]
  | .string pieces => [.string pieces]
  | .array items => .openArray :: itemsTokens items ++ [.closeArray]
  | .object members => .openObject :: membersTokens members ++ [.closeObject]

def itemsTokens : List Tree → List Token
  | [] => []
  | [t] => tokens t
  | t :: rest => tokens t ++ .comma :: itemsTokens rest

def membersTokens : List (List Piece × Tree) → List Token
  | [] => []
  | [(name, t)] => .string name :: .colon :: tokens t
  | (name, t) :: rest => .string name :: .colon :: tokens t ++ .comma :: membersTokens rest

end

/-- **A tree written without blanks.** -/
def written (t : Tree) : List Char := t.tokens.flatMap Token.written

end Tree
end Json
end PolicyProvider
