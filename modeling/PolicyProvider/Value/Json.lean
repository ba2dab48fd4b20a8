import PolicyProvider.Value.Basic
import PolicyProvider.Json.Datum
/-!
# Value.Json — values as JSON

Unknown travels as a reserved text, which is read back as unknown wherever a value stands but not where a name does.
Every number is a double; one that JSON cannot write becomes null.
-/
namespace PolicyProvider
namespace Value

/-- **The text that stands for an unknown value** in both encodings. -/
def unknownText : String := "__unknown__"

/-- The value of a string that was read. -/
def ofText (s : String) : Value :=
  if s = unknownText then .unknown else .string s

mutual

/-- The value of a tree whose strings and numbers all have a meaning. -/
def ofTree? : Json.Tree → Option Value
  | .null => some .null
  | .bool b => some (.bool b)
  | .number n => n.value?.map fun m => .number m.toBinary64
  | .string pieces => (Json.Piece.text? pieces).map ofText
  | .array items => (itemsOfTrees? items).map .list
  | .object members => (membersOfTrees? members).map fun ms => .object (Entries.ofList ms)

def itemsOfTrees? : List Json.Tree → Option (List Value)
  | [] => some []
  | t :: rest => do some ((← ofTree? t) :: (← itemsOfTrees? rest))

def membersOfTrees? : List (List Json.Piece × Json.Tree) → Option (List (String × Value))
  | [] => some []
  | (key, t) :: rest => do some ((← Json.Piece.text? key, ← ofTree? t) :: (← membersOfTrees? rest))

end

mutual

/-- **The tree of a value.** -/
def toTree : Value → Json.Tree
  | .null => .null
  | .unknown => Json.Tree.ofString unknownText
  | .bool b => .bool b
  | .number n => if n.isFinite then .number (Json.Numeral.ofBinary64 n) else .null
  | .string s => Json.Tree.ofString s
  | .list items => .array (itemsToTrees items)
  | .object members => .object (membersToTrees members)

def itemsToTrees : List Value → List Json.Tree
  | [] => []
  | v :: rest => toTree v :: itemsToTrees rest

def membersToTrees : List (String × Value) → List (List Json.Piece × Json.Tree)
  | [] => []
  | (k, v) :: rest => (Json.Piece.ofString k, toTree v) :: membersToTrees rest

end

inductive Format where
  | json
  | msgpack
deriving DecidableEq

def Format.word : Format → String
  | .json => "json"
  | .msgpack => "msgpack"

structure DecodeError where
  format : Format
  reason : String
deriving DecidableEq

def DecodeError.message (e : DecodeError) : String :=
  "Decoding error: " ++ e.format.word ++ " decoding failed: " ++ e.reason

def jsonText (v : Value) : List Char := v.toTree.written

/-- **A value as the bytes of JSON text.** -/
def encodeJson (v : Value) : List UInt8 := v.jsonText.flatMap Utf8.encodeChar

/-- **The value of the bytes of a JSON text**, nested no deeper than `Json.maxDepth`. -/
def decodeJson (bytes : List UInt8) : Except DecodeError Value :=
  match Json.parseBytes? bytes with
  | none => .error ⟨.json, "not a JSON document"⟩
  | some t =>
    if t.depth ≤ Json.maxDepth then
      match ofTree? t with
      | some v => .ok v
      | none => .error ⟨.json, "a string or number without a meaning"⟩
    else .error ⟨.json, "nested too deeply"⟩

end Value
end PolicyProvider
