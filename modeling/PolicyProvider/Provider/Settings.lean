import PolicyProvider.Diagnostic
import PolicyProvider.Manager.Client
/-!
# Settings — how the provider is told where its manager is

Each setting comes from the provider block if it is set there with the right type, otherwise from its environment
variable if that is not empty, otherwise from its default if it has one. The settings do not depend on one another, and
the problems of all of them are reported together.
-/
namespace PolicyProvider

/-- The environment: the value of each variable that has one. -/
abbrev Environment := String → Option String

structure Settings where
  host : String
  username : String
  password : String
  allowUnverifiedTls : Bool
  globalManager : Bool
  requestTimeout : Duration
deriving DecidableEq

namespace Settings

def hostVariable : String := "NSXT_MANAGER_HOST"

def usernameVariable : String := "NSXT_USERNAME"

def passwordVariable : String := "NSXT_PASSWORD"

/-- The variable that turns the verification of certificates off. -/
def allowUnverifiedVariable : String := "NSXT_ALLOW_UNVERIFIED_SSL"

def globalManagerVariable : String := "NSXT_GLOBAL_MANAGER"

def requestTimeoutVariable : String := "NSXT_REQUEST_TIMEOUT"

def defaultTimeout : Duration := .ofWholeSeconds 60

/-- The value of an attribute of the block, if it is set. -/
def configured? (block : Value) (name : String) : Option Value :=
  (block.get? (.ofName name)).filter Value.isSet

/-- The value of a variable, if it is not empty. -/
def setVariable? (env : Environment) (name : String) : Option String :=
  (env name).filter (· != "")

/-- **A setting that has to be given**, and is a text. -/
def requiredText (env : Environment) (block : Value) (name varName : String) : Except Diagnostic String :=
  match (configured? block name).bind Value.string? with
  | some s => .ok s
  | none => match setVariable? env varName with
    | some s => .ok s
    | none => .error (.errorAt (.ofName name) ("Missing " ++ name)
      (name ++ " is required (set in provider config or " ++ varName ++ " env var)"))

/-- The truth value of a text: `true` and `1`, `false` and `0`, in any letter case. -/
def boolOfText? (s : String) : Option Bool :=
  let lower := s.map Char.toLower
  if lower = "true" ∨ lower = "1" then some true
  else if lower = "false" ∨ lower = "0" then some false
  else none

/-- **A setting that is on or off**, and off unless it is given. -/
def switch (env : Environment) (block : Value) (name varName : String) : Except Diagnostic Bool :=
  match (configured? block name).bind Value.bool? with
  | some b => .ok b
  | none => match setVariable? env varName with
    | none => .ok false
    | some s => match boolOfText? s with
      | some b => .ok b
      | none => .error (.error ("Invalid " ++ varName) ("expected a boolean, got " ++ quoted s))

/-- **The timeout of requests**: a positive number of seconds, a whole one where it comes from the environment. -/
def timeout (env : Environment) (block : Value) : Except Diagnostic Duration :=
  match (configured? block "request_timeout").bind Value.number? with
  | some x =>
    match (if x.isPositive then Duration.ofSeconds? x else none) with
    | some d => .ok d
    | none => .error (.errorAt (.ofName "request_timeout") "Invalid request_timeout"
      ("expected a positive number of seconds, got " ++ x.plainText))
  | none => match setVariable? env requestTimeoutVariable with
    | none => .ok defaultTimeout
    | some s => match Digit.word? s with
      | some (n + 1) => .ok (.ofWholeSeconds (n + 1))
      | _ => .error (.error ("Invalid " ++ requestTimeoutVariable)
        ("expected a positive number of seconds, got " ++ quoted s))

/-- The problem of a setting that has one. -/
def problem {α : Type} : Except Diagnostic α → List Diagnostic
  | .ok _ => []
  | .error d => [d]

/-- **The settings of a provider block in an environment**, or the problems of all of them. -/
def resolve (env : Environment) (block : Value) : Except (List Diagnostic) Settings :=
  let host := requiredText env block "host" hostVariable
  let username := requiredText env block "username" usernameVariable
  let password := requiredText env block "password" passwordVariable
  let allowUnverified := switch env block "allow_unverified_ssl" allowUnverifiedVariable
  let globalManager := switch env block "global_manager" globalManagerVariable
  let timeout := timeout env block
  match host, username, password, allowUnverified, globalManager, timeout with
  | .ok host, .ok username, .ok password, .ok allowUnverified, .ok globalManager, .ok timeout =>
    .ok ⟨host, username, password, allowUnverified, globalManager, timeout⟩
  | host, username, password, allowUnverified, globalManager, timeout =>
    .error (problem host ++ problem username ++ problem password ++ problem allowUnverified ++ problem globalManager
      ++ problem timeout)

def connection (s : Settings) : ConnectionSettings :=
  ⟨s.host, s.username, s.password, s.allowUnverifiedTls, s.requestTimeout⟩

end Settings
end PolicyProvider
