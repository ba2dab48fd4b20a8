import PolicyProvider.Diagnostic
/-!
# Modifier — adjustments to the plan of one attribute

A modifier sees the prior value, the configured value and the plan so far, and answers with the plan to go on with and
whether the resource has to be replaced.
-/
namespace PolicyProvider

/-- An adjustment to a plan. -/
inductive Modifier where
  /-- A change of the value replaces the resource. -/
  | requiresReplace
  /-- A value that the plan leaves open is carried over from the prior state. -/
  | useStateForUnknown
deriving DecidableEq

namespace Modifier

/-- What a modifier is asked about. -/
structure Request where
  state : Value
  config : Value
  plan : Value

/-- What a modifier answers. -/
structure Response where
  plan : Value
  requiresReplace : Bool := false
  diagnostics : List Diagnostic := []

def description : Modifier → String
  | .requiresReplace => "changing this value forces replacement"
  | .useStateForUnknown => "once set, the value is carried over from state"

/-- **The answer of a modifier.** A value that was null before, or is not known yet, forces no replacement. -/
def apply (r : Request) : Modifier → Response
  | .requiresReplace =>
    { plan := r.plan, requiresReplace := !r.state.isNull && !r.plan.isUnknown && !r.state.same r.plan }
  | .useStateForUnknown => { plan := if !r.plan.isSet && r.state.isSet then r.state else r.plan }

end Modifier
end PolicyProvider
