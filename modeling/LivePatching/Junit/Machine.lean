import LivePatching.Duration
import LivePatching.Host.Files
import LivePatching.Telemetry.Record

/-!
# Machines

A machine runs commands and answers with three statuses: whether the command could be started here
and ended in time, whether the machine was reached, and how the command itself ended.

* `Status.succeeded`: all three are zero.
* `Ending.status`: what the end of a process says about the three.
-/

namespace LivePatching.Junit

/-- A command to run: where, as whom, and for how long at most. -/
structure Execution where
  host : String
  command : String
  user : String
  timeout : Duration
deriving DecidableEq, Repr, Inhabited

/-- How an execution ended: what went wrong here, on the way and in the command itself. -/
structure Status where
  localCode : Int := 0
  remoteCode : Int := 0
  commandCode : Int := 0
  /-- What the command wrote, first as output and then as errors. -/
  output : Bytes := []
deriving DecidableEq, Repr, Inhabited

/-- Whether nothing went wrong at any of the three places. -/
def Status.succeeded (s : Status) : Bool :=
  s.localCode == 0 && s.remoteCode == 0 && s.commandCode == 0

/-- Something commands are executed on. -/
structure Machine where
  name : String
  execute : Execution → Status
  /-- What is logged about an execution. -/
  notes : Execution → List Telemetry.Record := fun _ => []

/-- How a process ended. -/
inductive Ending where
  | exited (code : Nat) (output : Bytes)
  /-- Ended by a signal. -/
  | killed (output : Bytes)
  | timedOut
  | unlaunched (reason : String)
deriving DecidableEq, Repr

namespace Ending

/-- The status of a command that could not be started, and of one that a signal ended. -/
def launchFailed : Int := 1

/-- The local code of a command that ran out of time. -/
def outOfTime : Int := 110

/-- The exit code with which the remote shell reports its own failures. -/
def unreachable : Nat := 255

/-- The status of an ending, where `unreachable` is the connection's own code on a remote
machine. -/
def status (remote : Bool) : Ending → Status
  | exited code output =>
    if remote ∧ code = unreachable then { remoteCode := unreachable, output }
    else { commandCode := code, output }
  | killed output => { commandCode := launchFailed, output }
  | timedOut => { localCode := outOfTime }
  | unlaunched _ => { localCode := launchFailed }

/-- What is logged about an ending. -/
def note (remote : Bool) (timeout : Duration) (e : Ending) : Telemetry.Record :=
  let source := "junit_runner::transport"
  let finished :=
    let s := e.status remote
    ⟨source, .debug, "Command finished",
      [("remote", .num (.ofInt s.remoteCode)), ("command", .num (.ofInt s.commandCode))]⟩
  match e with
  | exited _ _ => finished
  | killed _ => finished
  | timedOut => ⟨source, .warn, "Command timed out", [("timeout", .ofString timeout.text)]⟩
  | unlaunched reason =>
    ⟨source, .warn, "Command could not be launched", [("error", .ofString reason)]⟩

end Ending

end LivePatching.Junit
