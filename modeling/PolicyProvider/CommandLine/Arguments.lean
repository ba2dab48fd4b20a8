import PolicyProvider.CommandLine.Reading
/-!
# Arguments — the command line of `nsxt-policy`

Settings come first, then the kind of members, then what to do with one of them.
-/
namespace PolicyProvider

inductive LogLevel where
  | off
  | error
  | warn
  | info
  | debug
  | trace
deriving DecidableEq

namespace LogLevel

def all : List LogLevel := [.off, .error, .warn, .info, .debug, .trace]

def word : LogLevel → String
  | .off => "off"
  | .error => "error"
  | .warn => "warn"
  | .info => "info"
  | .debug => "debug"
  | .trace => "trace"

def ofWord? (s : String) : Option LogLevel := all.find? (·.word == s)

def standard : LogLevel := .warn

end LogLevel

/-- What to do with a custom attribute. -/
inductive Command where
  | create (key member : String)
  | read (id : String)
  | delete (id : String)
  | presence (id : String)
deriving DecidableEq

structure Arguments where
  settings : Settings
  logLevel : LogLevel
  command : Command
deriving DecidableEq

namespace Arguments

def helpOption : OptionRule := { name := "help", kind := .help, short := some 'h' }

/-- A command on one member, given by its id. -/
def byId (name : String) : CommandRule := { name, options := [helpOption], operand := some "ID" }

def customAttributeRule : CommandRule where
  name := "custom-attribute"
  options := [helpOption]
  commands := [
    { name := "create"
      options := [{ name := "key", kind := .value .text, required := true },
        { name := "attribute", kind := .value .text, required := true }, helpOption] },
    byId "read", byId "delete", byId "exists"]

/-- **The whole command line.** -/
def rule : CommandRule where
  name := "nsxt-policy"
  options := [
    { name := "host", kind := .value .text, variableName := some Settings.hostVariable, required := true },
    { name := "username", kind := .value .text, variableName := some Settings.usernameVariable, required := true },
    { name := "password", kind := .value .text, variableName := some Settings.passwordVariable, required := true },
    { name := "allow-unverified-ssl", kind := .switch, variableName := some Settings.allowUnverifiedVariable },
    { name := "global-manager", kind := .switch, variableName := some Settings.globalManagerVariable },
    { name := "request-timeout", kind := .value .count, variableName := some Settings.requestTimeoutVariable },
    { name := "log-level", kind := .value (.word (LogLevel.all.map LogLevel.word)) },
    helpOption,
    { name := "version", kind := .version, short := some 'V' }]
  commands := [customAttributeRule]

/-- A value that a command has to be given. -/
def needed (g : Given) (name : String) : Except UsageError String :=
  match g.value? name with
  | some text => .ok text
  | none => .error (.missingArguments [name])

/-- The operand that a command has to be given. -/
def neededId (g : Given) : Except UsageError String :=
  match g.operand with
  | some text => .ok text
  | none => .error (.missingArguments ["ID"])

/-- The settings that the outermost command was given. -/
def settingsOf (g : Given) : Except UsageError Settings := do
  let host ← needed g "host"
  let username ← needed g "username"
  let password ← needed g "password"
  let timeout := ((g.value? "request-timeout").bind Digit.word?).map Duration.ofWholeSeconds
  pure {
    host, username, password
    allowUnverifiedTls := g.value? "allow-unverified-ssl" == some "true"
    globalManager := g.value? "global-manager" == some "true"
    requestTimeout := timeout.getD Settings.defaultTimeout }

/-- The command that the innermost one is. -/
def commandOf (g : Given) : Except UsageError Command := do
  if g.command = "create" then pure (.create (← needed g "key") (← needed g "attribute"))
  else if g.command = "read" then pure (.read (← neededId g))
  else if g.command = "delete" then pure (.delete (← neededId g))
  else pure (.presence (← neededId g))

/-- **The meaning of a command line** in an environment. -/
def parse (env : Environment) (args : List String) : Except UsageError Arguments := do
  match ← rule.read env args with
  | [outer, _, inner] =>
    let level := ((outer.value? "log-level").bind LogLevel.ofWord?).getD .standard
    pure { settings := ← settingsOf outer, logLevel := level, command := ← commandOf inner }
  | _ => throw .missingCommand

end Arguments
end PolicyProvider
