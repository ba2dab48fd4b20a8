import PolicyProvider.Schema.ValueType
import PolicyProvider.Schema.Validator
import PolicyProvider.Schema.Modifier
/-!
# Schema — what attributes a resource or provider has

An attribute has a name, a type, its flags, its checks and its plan modifiers. `Schema.validate` reports the problems
of a configuration, attribute by attribute and at most one per attribute before its own checks run.
-/
namespace PolicyProvider

structure Attribute where
  name : String
  type : ValueType
  description : String := ""
  required : Bool := false
  optional : Bool := false
  computed : Bool := false
  sensitive : Bool := false
  validators : List Validator := []
  modifiers : List Modifier := []

namespace Attribute

/-- The attribute as a required one, which is not optional. -/
def asRequired (a : Attribute) : Attribute := { a with required := true, optional := false }

/-- The attribute as an optional one, which is not required. -/
def asOptional (a : Attribute) : Attribute := { a with optional := true, required := false }

/-- The attribute as one whose value may be decided at apply time. -/
def asComputed (a : Attribute) : Attribute := { a with computed := true }

/-- The attribute as one whose value is not shown. -/
def asSensitive (a : Attribute) : Attribute := { a with sensitive := true }

def path (a : Attribute) : Path := .ofName a.name

/-- The value of the attribute in an object; a missing one is null. -/
def valueIn (a : Attribute) (v : Value) : Value := (v.get? a.path).getD .null

def flagText (b : Bool) : String := if b then "true" else "false"

/-- **The attribute on one line**, for logs and messages. -/
def text (a : Attribute) : String :=
  "Attribute \x7b name: " ++ quoted a.name ++ ", type: " ++ a.type.text
    ++ ", required: " ++ flagText a.required ++ ", optional: " ++ flagText a.optional
    ++ ", computed: " ++ flagText a.computed ++ ", sensitive: " ++ flagText a.sensitive
    ++ ", validators: " ++ quotedList (a.validators.map (·.description))
    ++ ", plan_modifiers: " ++ quotedList (a.modifiers.map (·.description)) ++ " \x7d"

/-- **The problems of a configured value.** An unknown value is checked again when it is known; null is a problem only
where the attribute is required; a set value must be one that may be configured, must have the type, and then goes
through the checks. -/
def problems (a : Attribute) (v : Value) : List Diagnostic :=
  if v.isUnknown then []
  else if v.isNull then
    if a.required then
      [.errorAt a.path "Missing required argument" ("The argument \"" ++ a.name ++ "\" is required")]
    else []
  else if a.computed && !a.optional && !a.required then
    [.errorAt a.path "Value for unconfigurable attribute"
      ("Can't configure a value for \"" ++ a.name ++ "\": its value will be decided automatically")]
  else if !a.type.accepts v then
    [.errorAt a.path "Incorrect attribute value type"
      ("Attribute \"" ++ a.name ++ "\" expects " ++ a.type.text ++ ", got " ++ v.typeName)]
  else a.validators.flatMap (Validator.check a.path v)

end Attribute

/-- The attributes of a resource or provider, with the version of its state. -/
structure Schema where
  version : Int := 0
  description : String := ""
  attributes : List Attribute := []

namespace Schema

/-- The first attribute with a name, and its position. -/
def position? (s : Schema) (name : String) : Option Nat :=
  s.attributes.findIdx? (·.name == name)

def attribute? (s : Schema) (name : String) : Option Attribute :=
  s.attributes.find? (·.name == name)

/-- **The problems of a configuration.** -/
def validate (s : Schema) (config : Value) : List Diagnostic :=
  s.attributes.flatMap fun a => a.problems (a.valueIn config)

end Schema
end PolicyProvider
