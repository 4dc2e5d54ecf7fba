import Std.Time.DateTime.Timestamp
import ThreatGraph.Cli.Commands

/-!
The program on the machine's files, with its environment and clock.
-/

namespace ThreatGraph

/-- The result of an operation, unless it fails. -/
def succeeding? {α : Type} (operation : IO α) : IO (Option α) := do
  match ← operation.toBaseIO with
  | .ok result => return some result
  | .error _ => return none

/-- The machine's files and clock. -/
def machine : Host IO where
  isThere path := return (← succeeding? (IO.FS.realPath path)).isSome
  readText? path := succeeding? (IO.FS.readFile path)
  writeText path text := return (← succeeding? (IO.FS.writeFile path text)).isSome
  createDirectories path := return (← succeeding? (IO.FS.createDirAll path)).isSome
  now := IO.monoNanosNow

/-- The variables of the environment that the program knows. -/
def machineEnvironment : IO (Table String) := do
  let found ← [Settings.pathVariable, "XDG_CONFIG_HOME", "HOME"].mapM fun name =>
    return (← IO.getEnv name).map fun value => (name, value)
  return found.filterMap id

end ThreatGraph

open ThreatGraph in
/-- Runs the program. -/
def main (arguments : List String) : IO UInt32 := do
  let present ← Std.Time.Timestamp.now
  let outcome ←
    Cli.run machine present.toNanosecondsSinceUnixEpoch.val (← machineEnvironment) arguments
  IO.print outcome.output.standard
  IO.eprint outcome.output.error
  return outcome.code.toUInt32
