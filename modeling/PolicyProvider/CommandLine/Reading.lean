import PolicyProvider.CommandLine.Grammar
import PolicyProvider.Provider.Settings
/-!
# Reading — a command line taken apart

`CommandRule.read` goes through the arguments once, from left to right. An option's value is taken up when the next
option comes or the command ends, so the option before the name of a command below is taken up after that command. What
is still missing then comes from the environment.
-/
namespace PolicyProvider

/-- What one command was given: options with their values, and the operand. -/
structure Given where
  command : String
  values : List (String × String) := []
  operand : Option String := none
deriving DecidableEq

namespace Given

def value? (g : Given) (name : String) : Option String := g.values.lookup name

def check (o : OptionRule) (text : String) : Except UsageError Unit :=
  match o.kind with
  | .value .text => .ok ()
  | .value .count =>
    match Digit.word? text with
    | some (_ + 1) => .ok ()
    | _ => .error (.outOfRange o.name text)
  | .value (.word words) => if text ∈ words then .ok () else .error (.invalidValue o.name text)
  | _ => if text ∈ ["true", "false"] then .ok () else .error (.invalidValue o.name text)

def put (g : Given) (o : OptionRule) (text : String) : Except UsageError Given := do
  check o text
  pure { g with values := g.values ++ [(o.name, text)] }

/-- **An option given on the command line**, where it may stand once. -/
def store (g : Given) (o : OptionRule) (text : String) : Except UsageError Given :=
  if (g.value? o.name).isSome then .error (.repeated o.name) else g.put o text

/-- An option filled in from its variable, unless it was given. -/
def fill (env : Environment) (g : Given) (o : OptionRule) : Except UsageError Given :=
  match g.value? o.name, o.variableName.bind env with
  | none, some text => g.put o text
  | _, _ => .ok g

/-- What a command was given together with its environment. -/
def withEnvironment (env : Environment) (c : CommandRule) (g : Given) : Except UsageError Given :=
  c.options.foldlM (fill env) g

/-- The names of what a command has to be given and was not. -/
def missing (c : CommandRule) (g : Given) : List String :=
  ((c.options.filter fun o => o.required && (g.value? o.name).isNone).map (·.name))
    ++ (if g.operand.isNone then c.operand.toList else [])

end Given

/-- A command line being read: what was given so far, the option whose value is still to be taken up, and whether only
operands may follow. -/
structure Reading where
  given : Given
  pending : Option (OptionRule × Option String) := none
  onlyOperands : Bool := false

/-- The form of an argument. -/
inductive ArgumentForm where
  | separator
  | long (name : String) (value : Option String)
  | short (letter : Char)
  | plain

/-- **The form of an argument**: two hyphens alone, an option's name with or without a value, a letter after one
hyphen, or anything else. -/
def ArgumentForm.of (arg : String) : ArgumentForm :=
  match arg.toList with
  | ['-', '-'] => .separator
  | '-' :: '-' :: rest =>
    .long (String.ofList (rest.takeWhile (· != '=')))
      (((rest.dropWhile (· != '=')).tail?).map String.ofList)
  | '-' :: letter :: _ => .short letter
  | _ => .plain

namespace Reading

/-- Whether the next argument is the value of an option. -/
def awaitsValue (r : Reading) : Bool :=
  match r.pending with
  | some (_, none) => true
  | _ => false

/-- The pending option taken up. -/
def settle (r : Reading) : Except UsageError Given :=
  match r.pending with
  | none => .ok r.given
  | some (o, none) => .error (.missingValue o.name)
  | some (o, some text) => r.given.store o text

/-- Goes on after the pending option was taken up. -/
def settled (r : Reading) : Except UsageError Reading := do
  pure { r with given := ← r.settle, pending := none }

/-- An option without a value of its own. -/
def takeOption (r : Reading) (o : OptionRule) : Except UsageError Reading := do
  let r ← r.settled
  match o.kind with
  | .value _ => pure { r with pending := some (o, none) }
  | .switch => pure { r with given := ← r.given.store o "true" }
  | .help => throw .helpRequested
  | .version => throw .versionRequested

/-- An option with a value of its own. -/
def takeValued (r : Reading) (o : OptionRule) (text : String) : Except UsageError Reading :=
  match o.kind with
  | .value _ => do
    let r ← r.settled
    pure { r with given := ← r.given.store o text }
  | _ => .error (.unexpectedValue o.name)

/-- An operand, if the command takes one more. -/
def takeOperand (c : CommandRule) (r : Reading) (arg : String) : Except UsageError Reading :=
  if c.operand.isSome && r.given.operand.isNone then do
    let r ← r.settled
    pure { r with given := { r.given with operand := some arg } }
  else if c.commands.isEmpty || (r.onlyOperands && c.isCommandWord arg) then .error (.unknownArgument arg)
  else .error (.unknownCommand arg)

/-- **One argument** that names no command. Every option with a short form ends the reading, so of several letters
after a hyphen the first decides. -/
def take (c : CommandRule) (r : Reading) (arg : String) : Except UsageError Reading :=
  if r.onlyOperands then r.takeOperand c arg
  else match ArgumentForm.of arg with
    | .separator => .ok { r with onlyOperands := true }
    | .long name value =>
      match c.option? name, value with
      | none, _ => .error (.unknownArgument arg)
      | some o, none => r.takeOption o
      | some o, some text => r.takeValued o text
    | .short letter =>
      match c.shortOption? letter with
      | none => .error (.unknownArgument arg)
      | some o => r.takeOption o
    | .plain =>
      match r.pending with
      | some (o, none) => .ok { r with pending := some (o, some arg) }
      | _ => r.takeOperand c arg

/-- **The end of a command**, with what the commands below it were given. -/
def finish (env : Environment) (c : CommandRule) (r : Reading) (below : List Given) :
    Except UsageError (List Given) := do
  let given ← (← r.settle).withEnvironment env c
  if below.isEmpty && !c.commands.isEmpty then
    throw (if given.values.isEmpty then .nothingGiven else .missingCommand)
  else if !(given.missing c).isEmpty then throw (.missingArguments (given.missing c))
  else pure (given :: below)

end Reading

namespace CommandRule

/-- What an argument means to a command. -/
inductive Turn where
  | argument
  | help
  | command (below : CommandRule)

/-- What an argument means: the name of a command only where no value is awaited and no separator came before. -/
def turn (c : CommandRule) (r : Reading) (arg : String) : Turn :=
  if r.onlyOperands || r.awaitsValue || !c.isCommandWord arg then .argument
  else match c.command? arg with
    | some below => .command below
    | none => .help

/-- The arguments that are left of a command. -/
def readFrom (env : Environment) : CommandRule → Reading → List String → Except UsageError (List Given)
  | c, r, [] => r.finish env c []
  | c, r, arg :: rest =>
    match c.turn r arg with
    | .help => .error (helpOn c rest)
    | .command below => do r.finish env c (← readFrom env below { given := { command := below.name } } rest)
    | .argument => do readFrom env c (← r.take c arg) rest

/-- **What a command and those below it are given** by arguments and an environment, outermost first. -/
def read (env : Environment) (c : CommandRule) (args : List String) : Except UsageError (List Given) :=
  readFrom env c { given := { command := c.name } } args

end CommandRule
end PolicyProvider
