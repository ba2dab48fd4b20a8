import PolicyProvider.Value.Json
/-!
# Value.MessagePack — values as MessagePack

Each shape is written in its shortest form and every number as an eight-byte float; a null root is no bytes at all.
Reading takes numbers of every width and byte strings that are UTF-8, refuses extensions and names that are not text,
and stops after one value.
-/
namespace PolicyProvider
namespace Value
namespace MessagePack

/-! ## Writing -/

/-- A natural as `count` bytes, most significant first. -/
def bigEndian : Nat → Nat → List UInt8
  | 0, _ => []
  | count + 1, n => bigEndian count (n / 256) ++ [UInt8.ofNat (n % 256)]

def textHead (n : Nat) : List UInt8 :=
  if n < 32 then [UInt8.ofNat (0xA0 + n)]
  else if n < 256 then 0xD9 :: bigEndian 1 n
  else if n < 65536 then 0xDA :: bigEndian 2 n
  else 0xDB :: bigEndian 4 n

def listHead (n : Nat) : List UInt8 :=
  if n < 16 then [UInt8.ofNat (0x90 + n)]
  else if n < 65536 then 0xDC :: bigEndian 2 n
  else 0xDD :: bigEndian 4 n

def mapHead (n : Nat) : List UInt8 :=
  if n < 16 then [UInt8.ofNat (0x80 + n)]
  else if n < 65536 then 0xDE :: bigEndian 2 n
  else 0xDF :: bigEndian 4 n

def text (s : String) : List UInt8 :=
  let bytes := Utf8.encode s
  textHead bytes.length ++ bytes

mutual

/-- The bytes of a value inside a container. -/
def bytes : Value → List UInt8
  | .null => [0xC0]
  | .unknown => text unknownText
  | .bool false => [0xC2]
  | .bool true => [0xC3]
  | .number n => 0xCB :: bigEndian 8 n.bits.toNat
  | .string s => text s
  | .list items => listHead items.length ++ itemsBytes items
  | .object members => mapHead members.length ++ membersBytes members

def itemsBytes : List Value → List UInt8
  | [] => []
  | v :: rest => bytes v ++ itemsBytes rest

/-- The bytes of members, each a name and its value. -/
def membersBytes : List (String × Value) → List UInt8
  | [] => []
  | (k, v) :: rest => text k ++ bytes v ++ membersBytes rest

end

/-! ## Reading -/

/-- Reads something from the front of the bytes and leaves the rest. -/
abbrev Reader (α : Type) := List UInt8 → Option (α × List UInt8)

def take : Nat → Reader (List UInt8)
  | 0, input => some ([], input)
  | _ + 1, [] => none
  | count + 1, b :: input => (take count input).map fun (content, rest) => (b :: content, rest)

def natural (count : Nat) : Reader Nat := fun input =>
  (take count input).map fun (digits, rest) => (digits.foldl (fun n b => 256 * n + b.toNat) 0, rest)

def textOf (count : Nat) : Reader String := fun input => do
  let (content, rest) ← take count input
  some (← Utf8.decode? content, rest)

def repeated {α : Type} (reader : Reader α) : Nat → Reader (List α)
  | 0, input => some ([], input)
  | count + 1, input => do
    let (first, rest) ← reader input
    let (others, rest) ← repeated reader count rest
    some (first :: others, rest)

/-- An integer of so many bytes whose highest bit counts negative. -/
def signed (count : Nat) : Reader Int := fun input =>
  (natural count input).map fun (n, rest) =>
    (if Nat.pow 256 count / 2 ≤ n then (n : Int) - Nat.pow 256 count else n, rest)

/-- A name: a text or a byte string that is UTF-8. -/
def name : Reader String
  | [] => none
  | head :: rest =>
    let n := head.toNat
    if 0xA0 ≤ n ∧ n ≤ 0xBF then textOf (n - 0xA0) rest
    else if n = 0xD9 ∨ n = 0xC4 then (natural 1 rest).bind fun (count, rest) => textOf count rest
    else if n = 0xDA ∨ n = 0xC5 then (natural 2 rest).bind fun (count, rest) => textOf count rest
    else if n = 0xDB ∨ n = 0xC6 then (natural 4 rest).bind fun (count, rest) => textOf count rest
    else none

/-- The number of items or members, and which of the two, if a head byte starts a container. -/
def containerSize (head : UInt8) (rest : List UInt8) : Option (Option (Bool × Nat × List UInt8)) :=
  let n := head.toNat
  if 0x80 ≤ n ∧ n ≤ 0x8F then some (some (true, n - 0x80, rest))
  else if 0x90 ≤ n ∧ n ≤ 0x9F then some (some (false, n - 0x90, rest))
  else if n = 0xDC ∨ n = 0xDE then (natural 2 rest).map fun (count, rest) => some (n == 0xDE, count, rest)
  else if n = 0xDD ∨ n = 0xDF then (natural 4 rest).map fun (count, rest) => some (n == 0xDF, count, rest)
  else some none

/-- A value that is no container. -/
def scalar : Reader Value
  | [] => none
  | head :: rest =>
    let n := head.toNat
    let real (x : Binary64) := Value.number x
    if n ≤ 0x7F then some (real (Binary64.ofNat n), rest)
    else if 0xE0 ≤ n then some (real (Binary64.ofInt ((n : Int) - 256)), rest)
    else if n = 0xC0 then some (.null, rest)
    else if n = 0xC2 then some (.bool false, rest)
    else if n = 0xC3 then some (.bool true, rest)
    else if n = 0xCA then (natural 4 rest).map fun (m, rest) => (real (Binary64.ofBits32 m), rest)
    else if n = 0xCB then (natural 8 rest).map fun (m, rest) => (real (Binary64.ofBits m), rest)
    else if 0xCC ≤ n ∧ n ≤ 0xCF then
      (natural (Nat.pow 2 (n - 0xCC)) rest).map fun (m, rest) => (real (Binary64.ofNat m), rest)
    else if 0xD0 ≤ n ∧ n ≤ 0xD3 then
      (signed (Nat.pow 2 (n - 0xD0)) rest).map fun (m, rest) => (real (Binary64.ofInt m), rest)
    else (name (head :: rest)).map fun (s, rest) => (ofText s, rest)

/-- A value whose items and members are read by `inner`. -/
def valueWith (inner : Reader Value) : Reader Value
  | [] => none
  | head :: rest => do
    match ← containerSize head rest with
    | none => scalar (head :: rest)
    | some (false, count, rest) =>
      let (items, rest) ← repeated inner count rest
      some (.list items, rest)
    | some (true, count, rest) =>
      let member : Reader (String × Value) := fun input => do
        let (k, input) ← name input
        let (v, input) ← inner input
        some ((k, v), input)
      let (members, rest) ← repeated member count rest
      some (.object (Entries.ofList members), rest)

/-- A value of which at most `depth` containers are nested in one another. -/
def valueWithin : Nat → Reader Value
  | 0 => fun input => match input with
    | [] => none
    | head :: rest => match containerSize head rest with
      | some none => scalar (head :: rest)
      | _ => none
  | depth + 1 => valueWith (valueWithin depth)

/-- How many containers may be nested in one another. -/
def maxDepth : Nat := 1023

end MessagePack

/-- **A value as MessagePack bytes.** -/
def encodeMessagePack (v : Value) : List UInt8 :=
  if v.isNull then [] else MessagePack.bytes v

/-- **The value that MessagePack bytes start with**; no bytes are null. -/
def decodeMessagePack (input : List UInt8) : Except DecodeError Value :=
  if input.isEmpty then .ok .null
  else match MessagePack.valueWithin MessagePack.maxDepth input with
    | some (v, _) => .ok v
    | none => .error ⟨.msgpack, "not a value"⟩

end Value
end PolicyProvider
