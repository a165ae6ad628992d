import LivePatching.Host.Shell.Run

/-!
# A host by itself

Programs for a host that reaches no other one: its shell is the one described in
`LivePatching.Host.Shell`, and its `ssh` shows its arguments and comes back to the same host. The
runner is started with these; it takes any others as well.
-/

namespace LivePatching.Host.Programs

/-- One line for each argument, in brackets. -/
def shown (arguments : List Bytes) : Bytes :=
  arguments.flatMap fun a => Bytes.ofString "[" ++ a ++ Bytes.ofString "]\n"

/-- The programs of a host that reaches only itself. -/
def loopback : Programs where
  shell := Shell.outcome []
  ssh := fun arguments => Shell.outcome (shown arguments) (arguments.getLast?.getD [])

end LivePatching.Host.Programs
