import LivePatching.Host.Loopback
import LivePatching.Junit.Program
import Std.Time.DateTime.Timestamp

/-! Runs the suite that the command line asks for, on this host. -/

namespace LivePatching.Junit.Program

/-- The variables that a run looks at. -/
def watchedVariables : List String :=
  ["TARGET_CLIENT", "TARGET_SERVER", "TARGET_MINION", "INTERNAL_IP_CLIENT", "FAMILY_CLIENT",
    "CM_SERVICE_NAME", "CM_LOG_LEVEL", "CM_CONSOLE_OUTPUT", "CM_JSON_LOGS", "RUST_LOG",
    "KUBERNETES_SERVICE_HOST", "DOCKER_CONTAINER"]

/-- The variables the program looks at. -/
def readEnvironment : IO Host.Environment :=
  watchedVariables.filterMapM fun name => do
    return (← IO.getEnv name).map fun value => (name, Bytes.ofString value)

/-- Runs the program on the process's own arguments and streams. -/
def start (arguments : List String) : IO UInt32 := do
  let env ← readEnvironment
  let now ← Std.Time.Timestamp.now
  let time := (Instant.at? now.toSecondsSinceUnixEpoch.val 0).getD default
  let outcome := run .loopback (arguments.map Bytes.ofString) env ⟨time, ⟨time, time⟩, time⟩
  let output ← IO.getStdout
  output.write ⟨outcome.output.toArray⟩
  output.flush
  for record in outcome.log do
    IO.eprintln record.toNode.text
  IO.eprint outcome.errors
  return outcome.exit.toUInt32

end LivePatching.Junit.Program

/-- The program's entry. -/
def main (arguments : List String) : IO UInt32 := LivePatching.Junit.Program.start arguments
