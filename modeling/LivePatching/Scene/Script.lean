import LivePatching.Catalog.Provider

/-!
# Scripted kernels

A script answers loads of kernels as it is told, and can hold the next load of a scope at a gate
until the gate is opened.

* `Script.ask`: records a question and takes the oldest gate of its scope.
* `Script.answer`: the answer told last for a scope.
-/

namespace LivePatching

/-- Who has come to a gate. -/
inductive Passage where
  /-- No load has come to the gate. -/
  | unused
  | taken (load : Nat)
  | passed
deriving DecidableEq, Repr

/-- A place where one load of a scope is held up. -/
structure Gate where
  scope : Scope
  isOpen : Bool
  passage : Passage
deriving DecidableEq, Repr

/-- Prepared answers to kernel questions, and the gates that delay them. -/
structure Script where
  /-- The newest answer of a scope comes first. -/
  answers : List (Scope × Except ProviderError (List Kernel))
  gates : List Gate
  /-- The scopes asked for, in order. -/
  calls : List Scope
deriving Repr

namespace Script

/-- The script that knows no scope. -/
def empty : Script := ⟨[], [], []⟩

/-- Prepares an answer, in place of an earlier one for the scope. -/
def tell (s : Script) (scope : Scope) (answer : Except ProviderError (List Kernel)) : Script :=
  { s with answers := (scope, answer) :: s.answers }

/-- The prepared answer; a scope without one is unknown. -/
def answer (s : Script) (scope : Scope) : Except ProviderError (List Kernel) :=
  (s.answers.lookup scope).getD (.error (.unknownScope scope.text))

/-- The next load of the scope will wait at a new gate. -/
def hold (s : Script) (scope : Scope) : Script :=
  { s with gates := s.gates ++ [⟨scope, false, .unused⟩] }

/-- Whether somebody waits at the gate or may come to it yet. -/
def isListening (s : Script) (gate : Nat) : Bool :=
  match s.gates[gate]? with
  | some g => !g.isOpen && g.passage != .passed
  | none => false

/-- Opens a gate. -/
def openGate (s : Script) (gate : Nat) : Script :=
  { s with gates := s.gates.modify gate fun g => { g with isOpen := true } }

/-- The load that waits at the gate. -/
def waitingAt? (s : Script) (gate : Nat) : Option Nat :=
  match s.gates[gate]? with
  | some ⟨_, false, .taken load⟩ => some load
  | _ => none

/-- The oldest gate of the scope that no load has come to. -/
def nextGate? (s : Script) (scope : Scope) : Option Nat :=
  s.gates.findIdx? fun g => g.scope = scope ∧ g.passage = .unused

/-- A load asks; it has to wait if it comes to a gate that is not open. -/
def ask (s : Script) (scope : Scope) (load : Nat) : Script × Bool :=
  let called := { s with calls := s.calls ++ [scope] }
  match s.nextGate? scope with
  | none => (called, false)
  | some gate =>
    let waits := !(s.gates[gate]?).any (·.isOpen)
    ({ called with
        gates := s.gates.modify gate fun g =>
          { g with passage := if waits then .taken load else .passed } },
      waits)

/-- A load leaves its gate. -/
def leave (s : Script) (load : Nat) : Script :=
  { s with
    gates := s.gates.map fun g =>
      if g.passage = .taken load then { g with passage := .passed } else g }

end Script

end LivePatching
