import PolicyProvider.Schema.Basic
/-!
# Plan — the change from a prior state to a proposed one

Planning goes through the attributes in order. A computed attribute that was left null becomes unknown, then the
modifiers of the attribute run one after the other, unless the resource is being created. A null proposal destroys the
resource and is planned as it is.
-/
namespace PolicyProvider

/-- A planned change. -/
structure PlannedChange where
  state : Value
  requiresReplace : List Path := []
  diagnostics : List Diagnostic := []

namespace PlannedChange

/-- The path of an attribute among those that force a replacement, once. -/
def mark (replace : List Path) (path : Path) : List Path :=
  if path ∈ replace then replace else replace ++ [path]

/-- The plan of one attribute so far: its value, the marked paths and the problems. -/
structure Draft where
  plan : Value
  requiresReplace : List Path
  diagnostics : List Diagnostic

/-- One modifier's adjustment. -/
def Draft.adjust (path : Path) (state config : Value) (d : Draft) (m : Modifier) : Draft :=
  let r := m.apply { state, config, plan := d.plan }
  ⟨r.plan, if r.requiresReplace then mark d.requiresReplace path else d.requiresReplace, d.diagnostics ++ r.diagnostics⟩

/-- **The planning of one attribute.** -/
def planAttribute (prior proposed config : Value) (change : PlannedChange) (a : Attribute) : PlannedChange :=
  let wanted := a.valueIn proposed
  let plan := if a.computed && wanted.isNull then .unknown else wanted
  let start : Draft := ⟨plan, change.requiresReplace, change.diagnostics⟩
  let final :=
    if prior.isNull then start
    else a.modifiers.foldl (Draft.adjust a.path (a.valueIn prior) (a.valueIn config)) start
  let update := change.state.set a.path final.plan
  let failed := match update.error with
    | none => []
    | some e => [.errorAt a.path "Failed to plan attribute" e.message]
  ⟨update.value, final.requiresReplace, final.diagnostics ++ failed⟩

end PlannedChange

/-- **The planned change** from a prior state to a proposed one under a configuration. -/
def Schema.plan (s : Schema) (prior proposed config : Value) : PlannedChange :=
  if proposed.isNull then { state := proposed }
  else s.attributes.foldl (PlannedChange.planAttribute prior proposed config) { state := proposed }

end PolicyProvider
