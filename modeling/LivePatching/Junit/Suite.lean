import LivePatching.Junit.Machine
import LivePatching.Junit.Target

/-!
# Suites

A suite is one command on the machine of a role, run as one testcase. Without other settings it is
the one that initialises the server.
-/

namespace LivePatching.Junit

/-- A suite with one testcase. -/
structure Suite where
  group : String := "INIT_SERVER FOR SUSE_MANAGER!"
  role : Role := .server
  command : String :=
    "/var/lib/slenkins/tests-suma-cucumber/tests-server/bin/suma_init.sh"
  /-- The name of the testcase. -/
  case : String := "INIT_SERVER"
  timeout : Duration := .ofSecs 1000
  user : String := "root"
deriving DecidableEq, Repr, Inhabited

/-- The time that a testcase has if nothing else is said. -/
def defaultTimeout : Duration := .ofSecs 60

/-- The counts of testcases so far. -/
structure Summary where
  passed : Nat := 0
  failed : Nat := 0
deriving DecidableEq, Repr, Inhabited

namespace Summary

/-- Counts a testcase. -/
def count (s : Summary) (passed : Bool) : Summary :=
  if passed then { s with passed := s.passed + 1 } else { s with failed := s.failed + 1 }

/-- Whether no testcase failed. -/
def allPassed (s : Summary) : Bool := s.failed == 0

end Summary

/-- Why the runner stopped. -/
inductive RunnerError where
  | missingTarget (role : Role)
  | target (role : Role) (cause : TargetError)
  | sink (reason : String)
deriving DecidableEq, Repr

namespace RunnerError

/-- The text of a runner's error. -/
def message : RunnerError → String
  | missingTarget role => "No target configured for the " ++ role.name ++ " role"
  | target role cause => "Invalid " ++ role.name ++ " target: " ++ cause.message
  | sink reason => "Failed to write markers: " ++ reason

/-- The message, and the message of the error behind it if there is one. -/
def messages (e : RunnerError) : List String :=
  match e with
  | target _ cause => [e.message, cause.message]
  | _ => [e.message]

end RunnerError

/-- The machine of a role. -/
def machineOf (machines : PerRole Machine) (role : Role) : Except RunnerError Machine :=
  match machines role with
  | some m => .ok m
  | none => .error (.missingTarget role)

end LivePatching.Junit
