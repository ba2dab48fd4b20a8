import PolicyProvider.CommandLine.Arguments
import PolicyProvider.Member.CustomAttributes
import PolicyProvider.Json.Pretty
/-!
# Run — a command line carried out

A command is an operation on the custom attributes behind a client; its result is a JSON document. `execute` adds what
is printed and with which status the program ends.
-/
namespace PolicyProvider

/-- Why a command had no result. -/
inductive RunError where
  /-- There is no client for the settings. -/
  | connection (e : RemoteError)
  /-- The operation failed. -/
  | operation (e : MemberError)
  /-- The operation wants more requests than it may make. -/
  | tooManyRequests

def RunError.message : RunError → String
  | .connection e => e.message
  | .operation e => e.message
  | .tooManyRequests => "too many requests"

/-- **The operation of a command**, with its result as JSON. -/
def Command.action (t : Topology) : Command → MemberAction CustomAttributes.kind Json.Tree
  | .create key member => do return (← Lifecycle.create CustomAttributes.kind t key member).toTree
  | .read id => do return (← Lifecycle.read CustomAttributes.kind t id).toTree
  | .delete id => do return (← Lifecycle.delete CustomAttributes.kind t id).toTree
  | .presence id => do
    let present ← Lifecycle.isPresent CustomAttributes.kind t id
    return Json.Record.write [("exists", some (.bool present)), ("id", some (.ofString id))]

namespace Arguments

variable {σ : Type}

/-- **The result of a command** that may make so many requests. -/
def run (a : Arguments) (tr : Transport σ) (requests : Nat) (s : σ) : Except RunError Json.Tree × σ :=
  match Client.connect a.settings.connection with
  | .error e => (.error (.connection e), s)
  | .ok client =>
    let action := a.command.action (.ofGlobal a.settings.globalManager)
    let (left, s) := action.run.run (CustomAttributes.server client tr) requests s
    match left.result? with
    | none => (.error .tooManyRequests, s)
    | some (.error e) => (.error (.operation e), s)
    | some (.ok result) => (.ok result, s)

end Arguments

/-- What a program leaves behind: its status, what it printed, and what it complained about. -/
structure Outcome where
  status : Nat
  output : String := ""
  complaint : String := ""
deriving DecidableEq

namespace CommandLine

def version : String := "nsxt-policy 0.1.0"

def usage : String := "\n".intercalate [
  "Usage: nsxt-policy [OPTIONS] custom-attribute <COMMAND>",
  "",
  "Commands:",
  "  create --key <KEY> --attribute <ATTRIBUTE>",
  "  read <ID>",
  "  delete <ID>",
  "  exists <ID>",
  ""]

/-- What a usage error leads to: help and the version are no failures if they were asked for. -/
def refusal : UsageError → Outcome
  | .helpRequested => { status := 0, output := usage }
  | .versionRequested => { status := 0, output := version ++ "\n" }
  | .nothingGiven => { status := 2, complaint := usage }
  | e => { status := 2, complaint := e.message ++ "\n" }

variable {σ : Type}

/-- **A command line carried out.** -/
def execute (env : Environment) (args : List String) (tr : Transport σ) (requests : Nat) (s : σ) : Outcome × σ :=
  match Arguments.parse env args with
  | .error e => (refusal e, s)
  | .ok a =>
    match a.run tr requests s with
    | (.error e, s) => ({ status := 1, complaint := "Error: " ++ e.message ++ "\n" }, s)
    | (.ok result, s) => ({ status := 0, output := String.ofList (result.pretty ++ ['\n']) }, s)

end CommandLine
end PolicyProvider
