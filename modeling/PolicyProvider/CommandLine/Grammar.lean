/-!
# Grammar — what a command line may hold

A command has options, at most one operand, and commands below it. A rule says what an option takes; `UsageError` names
the ways in which a command line fails it.
-/
namespace PolicyProvider

inductive ValueRule where
  /-- Any text. -/
  | text
  /-- A whole number from one up to the greatest of sixty-four bits. -/
  | count
  /-- One of several words. -/
  | word (words : List String)

/-- What an option does. -/
inductive OptionKind where
  /-- It takes a value. -/
  | value (rule : ValueRule)
  /-- It turns something on. -/
  | switch
  /-- It asks for help. -/
  | help
  /-- It asks for the version. -/
  | version

structure OptionRule where
  name : String
  kind : OptionKind
  /-- The letter of its short form. -/
  short : Option Char := none
  /-- The environment variable that stands in for it. -/
  variableName : Option String := none
  required : Bool := false

structure CommandRule where
  name : String
  options : List OptionRule := []
  operand : Option String := none
  commands : List CommandRule := []

/-- Why a command line is not carried out. -/
inductive UsageError where
  | helpRequested
  | versionRequested
  /-- A command that needs another one below it was given nothing at all. -/
  | nothingGiven
  | missingCommand
  | unknownCommand (text : String)
  | unknownArgument (text : String)
  | repeated (option : String)
  | missingValue (option : String)
  | invalidValue (option value : String)
  | outOfRange (option value : String)
  | unexpectedValue (option : String)
  | missingArguments (names : List String)
deriving DecidableEq

def UsageError.message : UsageError → String
  | .helpRequested => ""
  | .versionRequested => ""
  | .nothingGiven => ""
  | .missingCommand => "error: a command is needed"
  | .unknownCommand text => "error: unknown command '" ++ text ++ "'"
  | .unknownArgument text => "error: unexpected argument '" ++ text ++ "'"
  | .repeated option => "error: '--" ++ option ++ "' was given more than once"
  | .missingValue option => "error: '--" ++ option ++ "' needs a value"
  | .invalidValue option value => "error: '" ++ value ++ "' is no value for '--" ++ option ++ "'"
  | .outOfRange option value => "error: '" ++ value ++ "' is no whole number above zero for '--" ++ option ++ "'"
  | .unexpectedValue option => "error: '--" ++ option ++ "' takes no value"
  | .missingArguments names => "error: missing " ++ ", ".intercalate names

namespace CommandRule

/-- The word that asks for help on a command, next to the commands below another one. -/
def helpWord : String := "help"

def command? (c : CommandRule) (name : String) : Option CommandRule :=
  c.commands.find? (·.name == name)

/-- Whether a word is a command below, or asks for help on one. -/
def isCommandWord (c : CommandRule) (word : String) : Bool :=
  !c.commands.isEmpty && (word == helpWord || (c.command? word).isSome)

def option? (c : CommandRule) (name : String) : Option OptionRule :=
  c.options.find? (·.name == name)

def shortOption? (c : CommandRule) (letter : Char) : Option OptionRule :=
  c.options.find? (·.short == some letter)

/-- **What asking for help leads to**: help on the command that the words lead down to, if they lead to one. Below the
help word there is nothing. -/
def helpOn : CommandRule → List String → UsageError
  | _, [] => .helpRequested
  | c, word :: rest =>
    match c.command? word with
    | some below => helpOn below rest
    | none =>
      if c.isCommandWord word && rest.isEmpty then .helpRequested
      else .unknownCommand ((rest.head?.filter fun _ => c.isCommandWord word).getD word)

end CommandRule
end PolicyProvider
