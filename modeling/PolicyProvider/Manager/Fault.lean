import PolicyProvider.Json.Record
import PolicyProvider.Text.Quoted
/-!
# Fault — what a manager says about a request it refused

A fault is the body of an answer that is no success. Each of its members may be missing; related faults nest.
-/
namespace PolicyProvider

open Json (Tree Member)

/-- The body of a refusal. -/
inductive Fault where
  | mk (httpStatus : Option String) (code : Option Int64) (module : Option String) (message : Option String)
    (related : List Fault)

namespace Fault

def httpStatus : Fault → Option String
  | mk s _ _ _ _ => s

def code : Fault → Option Int64
  | mk _ c _ _ _ => c

def module : Fault → Option String
  | mk _ _ m _ _ => m

def message : Fault → Option String
  | mk _ _ _ t _ => t

def related : Fault → List Fault
  | mk _ _ _ _ r => r

/-- The members of the record. -/
def members : List Member :=
  [⟨"httpStatus", true⟩, ⟨"error_code", true⟩, ⟨"module_name", true⟩, ⟨"error_message", true⟩,
    ⟨"related_errors", true⟩]

/-- The same fault with others behind it. -/
def withRelated (faults : List Fault) : Fault → Fault
  | mk s c m t _ => mk s c m t faults

/-- A fault on its own, and the tree of those behind it if there is one. -/
def head? (t : Tree) : Option (Fault × Option Tree) := do
  match ← Json.Record.read? members t with
  | [httpStatus, code, module, message, related] => do
    let httpStatus ← Json.Record.optional? Tree.text? httpStatus
    let code ← Json.Record.optional? Tree.int64? code
    let module ← Json.Record.optional? Tree.text? module
    let message ← Json.Record.optional? Tree.text? message
    some (mk httpStatus code module message [], related)
  | _ => none

/-- A fault in a tree of which at most `depth` containers are nested in one another along the faults. -/
def within? : Nat → Tree → Option Fault
  | 0, _ => none
  | 1, t => do
    let (fault, related) ← head? t
    if related.isNone then some fault else none
  | depth + 2, t => do
    let (fault, related) ← head? t
    match related with
    | none => some fault
    | some items => do
      let faults ← (← items.items?).mapM (within? depth)
      some (fault.withRelated faults)

def ofTree? (t : Tree) : Option Fault := within? Json.maxDepth t

/-- **The fault of a text**, if it is one. -/
def parse? (text : List Char) : Option Fault := (Json.parse? text).bind ofTree?

mutual

def toTree : Fault → Tree
  | mk httpStatus code module message related =>
    Json.Record.write [
      ("httpStatus", some (httpStatus.elim .null Tree.ofString)),
      ("error_code", some (code.elim .null (Json.Record.int ·.toInt))),
      ("module_name", some (module.elim .null Tree.ofString)),
      ("error_message", some (message.elim .null Tree.ofString)),
      ("related_errors", some (.array (toTrees related)))]

def toTrees : List Fault → List Tree
  | [] => []
  | f :: rest => toTree f :: toTrees rest

end

/-- **The message of a fault and of those right behind it**, if there is any. -/
def fullMessage? (f : Fault) : Option String :=
  match f.message.toList ++ f.related.filterMap message with
  | [] => none
  | messages => some ("; ".intercalate messages)

def text (f : Fault) : String :=
  "NSX error " ++ shownOption (toString ·.toInt) f.code ++ " in " ++ shownOption quoted f.module ++ ": "
    ++ shownOption quoted f.message

end Fault
end PolicyProvider
