import LivePatching.Junit.CommandLine
import LivePatching.Junit.Connection
import LivePatching.Junit.Runner
import LivePatching.Telemetry.Config

/-!
# The runner as a program

* `Program.run`: starts the log, resolves the targets, runs the suite, and says how it went.
* `report`: an error with what is behind it.
-/

namespace LivePatching.Junit.Program

open Host (Environment Programs)
open Telemetry (Record Config Logger)

/-- What a run of the program leaves behind. -/
structure Outcome where
  exit : Nat
  output : Bytes := []
  /-- What was logged, before any error text. -/
  log : List Record := []
  errors : String := ""

/-- What was being done, and the causes of its failure. A single cause has no number. -/
def report (doing : String) (causes : List String) : String :=
  let shown :=
    match causes with
    | [cause] => "    " ++ cause ++ "\n"
    | causes =>
      String.join <| causes.zipIdx.map fun (cause, n) =>
        "    " ++ toString n ++ ": " ++ cause ++ "\n"
  "Error: " ++ doing ++ "\n\nCaused by:\n" ++ shown

/-- The exit code and the error text of a failure with its causes. -/
def failed (doing : String) (causes : List String) : Nat × String := (1, report doing causes)

/-- The log's record of what was asked for. -/
def environmentRecord (r : CommandLine.Request) : Record :=
  let shown := fun (name : String) (value : Option String) =>
    (name, Json.Node.ofString (value.getD "-"))
  ⟨"junit_runner", .info, "Test environment",
    [shown "client" (r.specs .client), shown "server" (r.specs .server),
      shown "minion" (r.specs .minion), shown "client_ip" r.clientIp,
      shown "client_family" r.clientFamily]⟩

/-- Runs the suite on its targets: what was written, what was logged, and how it ended. -/
def runSuite (programs : Programs) (r : CommandLine.Request) (times : Runner.SuiteTimes) :
    Bytes × List Record × Nat × String :=
  match parseTargets r.specs with
  | .error (role, cause) =>
    ([], [], failed "resolving targets" (RunnerError.target role cause).messages)
  | .ok targets =>
    let machines := fun role => (targets role).map (Machine.ofTarget programs)
    let (runner, result) := Runner.runSuite { sink := {} } r.suite machines times
    let ended :=
      match result with
      | .ok summary => (if summary.allPassed then 0 else 1, "")
      | .error e => failed "running suite" e.messages
    (runner.sink.stored, runner.notes, ended)

/-- The program: reads its command line, starts the log and runs the suite. -/
def run (programs : Programs) (arguments : List Bytes) (env : Environment)
    (times : Runner.SuiteTimes) : Outcome :=
  match CommandLine.Request.read arguments env with
  | .error .help => { exit := 0, output := Bytes.ofString (CommandLine.helpText env) }
  | .error .usage => { exit := 2, errors := CommandLine.usageText }
  | .ok r =>
    let config := Config.ofEnvironment env "junit-runner"
    match Logger.start none env config with
    | .error e =>
      let (exit, errors) := failed "initializing telemetry" [e.message]
      { exit, errors }
    | .ok logger =>
      let (output, notes, exit, errors) := runSuite programs r times
      let log := Logger.opening config :: environmentRecord r :: notes ++ [Logger.closing]
      { exit, output, log := log.filter logger.writes, errors }

end LivePatching.Junit.Program
