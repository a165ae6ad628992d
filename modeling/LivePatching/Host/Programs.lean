import LivePatching.Duration
import LivePatching.Host.Files

/-!
# Programs of a host

Commands are given to two programs of the host: the shell, which runs a script, and `ssh`, which has
one run on another host. What they do is not up to the runner, so it takes them as they are: what
holds of its runs holds for all programs.

* `Outcome`: what is left of a process.
* `Programs`: the two programs, by what is left of a process that runs them.
-/

namespace LivePatching.Host

/-- What is left of a process. -/
structure Outcome where
  /-- The exit code, unless a signal ended it. -/
  code : Option Nat
  /-- Output, then errors. -/
  written : Bytes
  /-- The time that it took; none if it did not end. -/
  elapsed : Option Duration
deriving Repr

/-- The programs that commands are given to. -/
structure Programs where
  /-- Runs a script. -/
  shell : Bytes → Outcome
  /-- Has a script run on another host; the arguments say where, and the last one is the script. -/
  ssh : List Bytes → Outcome

end LivePatching.Host
