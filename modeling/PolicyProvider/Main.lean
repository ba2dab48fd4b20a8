import PolicyProvider.CommandLine.Run
/-!
# Main — the program `nsxt-policy`

Reads the environment and the arguments, prints what `CommandLine.execute` says and ends with its status. Requests are
carried by `Transport.unreachable`: a manager is reached only through a transport that the caller brings.
-/
open PolicyProvider

def readEnvironment : IO Environment := do
  let names := Arguments.rule.options.filterMap (·.variableName)
  let found ← names.mapM fun name => do return (name, ← IO.getEnv name)
  return fun name => (found.lookup name).join

def main (args : List String) : IO UInt32 := do
  let env ← readEnvironment
  let (outcome, _) := CommandLine.execute env args Transport.unreachable 1 ()
  IO.print outcome.output
  IO.eprint outcome.complaint
  return UInt32.ofNat outcome.status
