import PolicyProvider.Member.CustomAttributes
import PolicyProvider.Schema.Plan
import PolicyProvider.Provider.Import
/-!
# CustomAttributeResource — one custom attribute value as a managed resource

A resource stands for one value under one key of the shared collection; the id of its state is `key~attribute`. Every
attribute that can be configured forces a replacement, so a resource is created, read, deleted and imported but never
updated.
-/
namespace PolicyProvider

/-- What a resource gets from its provider. -/
structure ProviderAccess where
  client : Client
  topology : Topology
deriving DecidableEq

/-- The data a resource is configured with: none yet, those of this provider, or some other. -/
inductive ProviderData where
  | none
  | access (a : ProviderAccess)
  | foreign

structure CustomAttributeResource where
  access : Option ProviderAccess := Option.none

structure ChangeResponse where
  state : Value
  diagnostics : List Diagnostic := []

/-- The answer to a reading; without a state the resource is gone. -/
structure ReadResponse where
  state : Option Value
  diagnostics : List Diagnostic := []

namespace CustomAttributeResource

def typeName : String := "nsxt_policy_context_profile_custom_attribute"

/-- **The attributes of the resource.** -/
def schema : Schema where
  version := 0
  description := "Manages a custom attribute value of NSX context profiles"
  attributes := [
    { name := "id", type := .string, description := "Composite identifier in the form <key>~<attribute>",
      computed := true, modifiers := [.useStateForUnknown] },
    { name := "key", type := .string, description := "Key of the custom attribute", required := true,
      validators := [.oneOf CustomAttributes.keys false], modifiers := [.requiresReplace] },
    { name := "attribute", type := .string, description := "Custom attribute value", required := true,
      modifiers := [.requiresReplace] }]

/-- The problem of a resource without access to a manager. -/
def notConfigured : Diagnostic := .error "Provider not configured" "Provider data was not properly configured"

/-- The problem of a state without an id. -/
def noId : Diagnostic := .error "Error obtaining custom attribute ID" "The state has no id attribute"

/-- **Takes the data of a provider.** -/
def configure (r : CustomAttributeResource) : ProviderData → CustomAttributeResource × List Diagnostic
  | .none => (r, [])
  | .access a => ({ access := some a }, [])
  | .foreign =>
    (r, [.error "Invalid provider data" "Failed to extract NsxtProviderData from provider data"])

/-- A state with a text put at an attribute, unless there was a problem before. -/
def writeText (name text : String) : Value × List Diagnostic → Value × List Diagnostic
  | (state, []) =>
    let update := state.set (.ofName name) (.string text)
    match update.error with
    | none => (update.value, [])
    | some e => (update.value, [.errorAt (.ofName name) "Failed to set state" e.message])
  | (state, problems) => (state, problems)

/-- **A state with the id, key and attribute of a member.** -/
def writeState (state : Value) (id : MemberId) : Value × List Diagnostic :=
  writeText "attribute" id.member (writeText "key" id.key (writeText "id" id.text (state, [])))

/-- The id of a state, if it has one that is not empty. -/
def stateId? (state : Value) : Option String :=
  match state.getString (.ofName "id") with
  | .ok id => if id = "" then Option.none else some id
  | .error _ => Option.none

def validate (config : Value) : List Diagnostic := schema.validate config

def plan (prior proposed config : Value) : PlannedChange := schema.plan prior proposed config

abbrev Operation := Program CustomAttributes.kind

/-- The key and attribute of a planned state. -/
def plannedParts (planned : Value) : Except PathError (String × String) := do
  let key ← planned.getString (.ofName "key")
  let text ← planned.getString (.ofName "attribute")
  pure (key, text)

/-- The answer to a creation that came out one way or the other. -/
def created (planned : Value) : Except MemberError SubResource → ChangeResponse
  | .ok member =>
    let (state, problems) := writeState planned member.id
    ⟨state, problems⟩
  | .error (.validation field text) =>
    ⟨planned, [.errorAt (.ofName "key") "Invalid configuration" (MemberError.validation field text).message]⟩
  | .error e => ⟨planned, [.error "Failed to create custom attribute" e.message]⟩

/-- **Creates the value that a planned state describes.** -/
def create (r : CustomAttributeResource) (planned : Value) : Operation ChangeResponse :=
  match r.access with
  | Option.none => .done ⟨planned, [notConfigured]⟩
  | some a => match plannedParts planned with
    | .error e => .done ⟨planned, [.error "Invalid configuration" e.message]⟩
    | .ok (key, text) =>
      (Lifecycle.create CustomAttributes.kind a.topology key text).run.map (created planned)

/-- The answer to a reading that came out one way or the other. -/
def readBack (current : Value) : Except MemberError SubResource → ReadResponse
  | .ok member =>
    let (state, problems) := writeState current member.id
    ⟨some state, problems⟩
  | .error e =>
    if e.isNotFound then ⟨Option.none, []⟩
    else ⟨some current, [.error "Failed to read custom attribute" e.message]⟩

/-- **Reads the value that a state is about.** -/
def read (r : CustomAttributeResource) (current : Value) : Operation ReadResponse :=
  match stateId? current with
  | Option.none => .done ⟨some current, [noId]⟩
  | some id => match r.access with
    | Option.none => .done ⟨some current, [notConfigured]⟩
    | some a => (Lifecycle.read CustomAttributes.kind a.topology id).run.map (readBack current)

/-- **Refuses an update.** -/
def update (prior : Value) : ChangeResponse :=
  ⟨prior, [.error "Update not supported" ("Every attribute of " ++ typeName ++ " forces replacement")]⟩

/-- The problems of a deletion that came out one way or the other. -/
def deleted : Except MemberError SubResource → List Diagnostic
  | .ok _ => []
  | .error e => [.error "Failed to delete custom attribute" e.message]

/-- **Deletes the value that a state is about.** -/
def delete (r : CustomAttributeResource) (prior : Value) : Operation (List Diagnostic) :=
  match stateId? prior with
  | Option.none => .done [noId]
  | some id => match r.access with
    | Option.none => .done [notConfigured]
    | some a => (Lifecycle.delete CustomAttributes.kind a.topology id).run.map deleted

/-- The answer to an import that came out one way or the other. -/
def imported (started : ImportResponse) : Except MemberError SubResource → ImportResponse
  | .ok member =>
    let written := started.imported.map fun i => (i, writeState i.state member.id)
    ⟨written.map fun w => { w.1 with state := w.2.1 }, started.diagnostics ++ written.flatMap fun w => w.2.2⟩
  | .error e =>
    let summary :=
      if e.isNotFound then "Cannot import non-existent remote object" else "Failed to import custom attribute"
    ⟨[], started.diagnostics ++ [.error summary e.message]⟩

/-- **Imports the value with an id.** -/
def importState (r : CustomAttributeResource) (request : ImportRequest) : Operation ImportResponse :=
  let started := ImportResponse.passthrough (.ofName "id") request {}
  if !started.diagnostics.isEmpty then .done started
  else match r.access with
    | Option.none => .done ⟨[], started.diagnostics ++ [notConfigured]⟩
    | some a => (Lifecycle.adopt CustomAttributes.kind a.topology request.id).run.map (imported started)

end CustomAttributeResource
end PolicyProvider
