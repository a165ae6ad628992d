import LivePatching.Host.Programs
import LivePatching.Junit.Machine
import LivePatching.Junit.Target

/-!
# Reaching targets

The machine behind a target runs its commands through a program of this host: the shell for this
host itself, `ssh` for another one.

* `Ending.ofOutcome`: how a process ended, as seen within a timeout.
* `Machine.ofTarget`: the machine behind a target.
-/

namespace LivePatching.Junit

open Host (Programs)

/-- A process is given up when its time is over, at once if it has none. -/
def Ending.ofOutcome (timeout : Duration) (o : Host.Outcome) : Ending :=
  match o.elapsed with
  | none => .timedOut
  | some elapsed =>
    if timeout.nanos ≤ elapsed.nanos then .timedOut
    else
      match o.code with
      | some code => .exited code o.written
      | none => .killed o.written

/-- No argument of a program can hold a NUL. -/
def Ending.ofArguments (timeout : Duration) (arguments : List String)
    (start : List Bytes → Host.Outcome) : Ending :=
  if arguments.any (·.contains '\x00') then .unlaunched "nul byte found in provided data"
  else .ofOutcome timeout (start (arguments.map Bytes.ofString))

namespace Machine

/-- Options that keep `ssh` from asking anything. -/
def sshOptions : List String := ["-o", "BatchMode=yes", "-o", "StrictHostKeyChecking=no"]

/-- The arguments that run a command on a host. -/
def sshArguments (host : String) (e : Execution) : List String :=
  sshOptions ++ [e.user ++ "@" ++ host, "--", e.command]

/-- The machine whose executions end in this way. -/
def ofEndings (name : String) (remote : Bool) (starting : Execution → Telemetry.Record)
    (ending : Execution → Ending) : Machine where
  name := name
  execute := fun e => (ending e).status remote
  notes := fun e => [starting e, (ending e).note remote e.timeout]

/-- The machine a target names. -/
def ofTarget (programs : Programs) (t : Target) : Machine :=
  let note := fun (message : String) (fields : List (String × Json.Node)) =>
    (⟨"junit_runner::transport", .debug, message, fields⟩ : Telemetry.Record)
  let asked := fun (e : Execution) =>
    [("user", .ofString e.user), ("command", .ofString e.command)]
  match t with
  | .shell =>
    ofEndings t.host false (fun e => note "Running local command" (asked e)) fun e =>
      .ofArguments e.timeout [e.command] fun arguments =>
        programs.shell (arguments.headD [])
  | .ssh host =>
    ofEndings t.host true
      (fun e => note "Running remote command" (("host", .ofString host) :: asked e)) fun e =>
        .ofArguments e.timeout (sshArguments host e) programs.ssh

end Machine

end LivePatching.Junit
