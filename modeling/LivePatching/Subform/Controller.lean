import LivePatching.Catalog.Document
import LivePatching.Subform.Load

/-!
# The selection controller

The controller keeps the list of kernels and the chosen kernel in step with the template and the
identifiers in the form, while loads answer in any order. Each derivation has a key; an answer is
taken over only while the key of its load is current and the controller is not torn down.

The operations act on a `Session`, the form together with the sub-form mounted in it:

* `activate`: issues the loads of clients and products, once.
* `observe`: derives the kernels anew when an input changed.
* `suspend`: forgets the derivation, without a write.
* `tearDown`: stops for good.
* `start`, `answerCatalog`, `answerKernels`, `drop`: the steps of a load.
-/

namespace LivePatching

/-- What the sub-form keeps: the lists it shows, and the loads it is waiting for. -/
structure Controller where
  policy : StalePolicy
  snapshot : Snapshot
  activated : Bool
  tornDown : Bool
  /-- The number of derivations and suspensions so far. -/
  generation : Nat
  current : Option RequestKey
  /-- The inputs of the current derivation. -/
  inputs : Option Inputs
  /-- The load of the current derivation. -/
  kernelLoad : Option Nat
  /-- Other loads that are kept track of. -/
  background : List Nat
deriving DecidableEq, Repr, Inhabited

/-- A controller before anything was asked of it. -/
def Controller.ofPolicy (policy : StalePolicy) : Controller :=
  ⟨policy, .empty, false, false, 0, none, none, none, []⟩

/-- One call that waits for the loads; it holds the loads it took from the controller. -/
inductive Settling where
  | waiting (held : List Nat)
  | returned
  | abandoned
deriving DecidableEq, Repr, Inhabited

/-- Whether a loop has begun, waits for an event, or is over. -/
inductive DriveStage where
  | starting
  | waiting
  | returned
deriving DecidableEq, Repr, Inhabited

/-- A loop that renders at every event. -/
structure Drive where
  props : Props
  subscription : Subscription
  stage : DriveStage
deriving Repr, Inhabited

/-- A form and the sub-form mounted in it. Loads are known by their place in the list. -/
structure Session where
  form : Form
  /-- The context the sub-form was mounted with. -/
  context : Context
  controller : Controller
  loads : List Load
  tally : Tally
  settlings : List Settling
  drives : List Drive
  /-- The number of holders of the sub-form; without any it is torn down. -/
  holders : Nat
deriving Repr, Inhabited

namespace Session

/-- A sub-form just mounted in a form, with one holder. -/
def mount (form : Form) (context : Context) (policy : StalePolicy) : Session :=
  ⟨form, context, .ofPolicy policy, [], .zero, [], [], 1⟩

/-! ## Loads -/

/-- The next load to be issued. -/
def nextLoad (s : Session) : Nat := s.loads.length

/-- Issues a load. -/
def issue (s : Session) (q : Question) : Session :=
  { s with loads := s.loads ++ [⟨q, .queued⟩] }

/-- Moves a load to a stage. -/
def setStage (s : Session) (load : Nat) (stage : Stage) : Session :=
  { s with loads := s.loads.modify load fun l => { l with stage } }

/-- Aborts a load; one that is over stays as it is. -/
def abort (s : Session) (load : Nat) : Session :=
  { s with loads := s.loads.modify load Load.abort }

/-- Whether a load is over; one that was never issued is. -/
def isOver (s : Session) (load : Nat) : Bool :=
  match s.loads[load]? with
  | some l => l.stage.isOver
  | none => true

/-! ## Operations of the controller -/

/-- Issues the loads of the two catalog lists, once. -/
def activate (s : Session) : Session :=
  if s.controller.activated || s.controller.tornDown then s
  else
    let s' := (s.issue .clients).issue .products
    { s' with
      controller :=
        { s.controller with
          activated := true
          background := s.controller.background ++ [s.nextLoad, s.nextLoad + 1] } }

/-- Takes the load of the former derivation off: it is aborted, or left to run in the background.
Loads in the background that are over are let go. -/
def supersede (s : Session) : Session :=
  match s.controller.kernelLoad with
  | none => s
  | some load =>
    let s :=
      match s.controller.policy with
      | .cancel => s.abort load
      | .ignore =>
        { s with
          controller :=
            { s.controller with background := s.controller.background ++ [load] } }
    { s with
      controller :=
        { s.controller with
          kernelLoad := none
          background := s.controller.background.filter fun load => !s.isOver load } }

/-- Derives the list of kernels for the inputs. -/
def derive (s : Session) (inputs : Inputs) : Session :=
  let key : RequestKey := ⟨s.controller.generation + 1, inputs.scope⟩
  let s :=
    supersede
      { s with
        controller :=
          { s.controller with generation := key.generation, current := some key } }
  let c := { s.controller with inputs := some inputs }
  match inputs.scope with
  | none =>
    { s with
      controller := { c with snapshot := { c.snapshot with kernels := [], status := .idle } }
      form := s.form.writeKernelId inputs.context none }
  | some scope =>
    let load := s.nextLoad
    { s.issue (.kernels key scope) with
      controller :=
        { c with
          snapshot := { c.snapshot with kernels := [], status := .loading scope }
          kernelLoad := some load }
      tally := { s.tally with kernelLoads := s.tally.kernelLoads + 1 } }

/-- Derives anew when the inputs differ from those of the current derivation. -/
def observe (s : Session) (inputs : Inputs) : Session :=
  if s.controller.tornDown then s
  else if s.controller.inputs.any (·.same inputs) then s
  else s.derive inputs

/-- Forgets the derivation and its kernels without a write; the form keeps its kernel. -/
def suspend (s : Session) : Session :=
  if s.controller.tornDown || s.controller.inputs.isNone then s
  else
    let s :=
      supersede
        { s with
          controller :=
            { s.controller with
              generation := s.controller.generation + 1
              current := none
              inputs := none } }
    { s with
      controller :=
        { s.controller with
          snapshot := { s.controller.snapshot with kernels := [], status := .idle } } }

/-- Stops for good: every load that is kept track of is aborted, and no answer counts from now
on. -/
def tearDown (s : Session) : Session :=
  if s.controller.tornDown then s
  else
    let s' := (s.controller.kernelLoad.toList ++ s.controller.background).foldl abort s
    { s' with
      controller :=
        { s.controller with
          tornDown := true
          current := none
          kernelLoad := none
          background := [] } }

/-! ## Steps of a load -/

/-- A load that is issued asks its provider. -/
def start (s : Session) (load : Nat) : Session :=
  match s.loads[load]? with
  | some ⟨_, .queued⟩ => s.setStage load .running
  | _ => s

/-- An aborted load goes away. A load of kernels that asked has its duration taken. -/
def drop (s : Session) (load : Nat) : Session :=
  match s.loads[load]? with
  | some ⟨q, .aborted asked⟩ =>
    let s := s.setStage load (.dropped asked)
    match q with
    | .kernels .. =>
      if asked then { s with tally := { s.tally with timedLoads := s.tally.timedLoads + 1 } } else s
    | _ => s
  | _ => s

/-- The load of a list of the catalog has its answer. The list is taken over as it is; a failure is
counted and leaves the list as it was. -/
def answerCatalog (s : Session) (list : Listing) (load : Nat)
    (answer : Except ProviderError (List list.Entry)) : Session :=
  if s.loads[load]? = some ⟨list.question, .running⟩ then
    let s := s.setStage load .finished
    if s.controller.tornDown then s
    else
      match answer with
      | .ok entries =>
        { s with
          controller :=
            { s.controller with snapshot := list.install entries s.controller.snapshot } }
      | .error _ => { s with tally := list.countFailure s.tally }
  else s

/-- Takes over the kernels of the current derivation and writes the default one. -/
def install (s : Session) (inputs : Inputs) (scope : Scope) (kernels : List Kernel) : Session :=
  { s with
    controller :=
      { s.controller with
        snapshot := { s.controller.snapshot with kernels, status := .ready scope }
        kernelLoad := none }
    form := s.form.writeKernelId inputs.context (defaultKernel kernels) }

/-- Leaves the list empty; a kernel that is still chosen is taken back. -/
def refuse (s : Session) (inputs : Inputs) (scope : Scope) : Session :=
  { s with
    controller :=
      { s.controller with
        snapshot := { s.controller.snapshot with kernels := [], status := .failed scope }
        kernelLoad := none }
    tally := { s.tally with kernelFailures := s.tally.kernelFailures + 1 }
    form :=
      if ((s.form.model inputs.context.reads).id .kernelId).isSome then
        s.form.writeKernelId inputs.context none
      else s.form }

/-- The answer to a kernel load: it is installed, and its default kernel written, when the load is
the current one; otherwise it is counted as stale. -/
def answerKernels (s : Session) (load : Nat) (answer : Except ProviderError (List Kernel)) :
    Session :=
  match s.loads[load]? with
  | some ⟨.kernels key scope, .running⟩ =>
    let s := s.setStage load .finished
    let s := { s with tally := { s.tally with timedLoads := s.tally.timedLoads + 1 } }
    if s.controller.tornDown || s.controller.current != some key then
      { s with tally := { s.tally with staleResults := s.tally.staleResults + 1 } }
    else
      match s.controller.inputs with
      | none => s
      | some inputs =>
        match answer with
        | .ok kernels => s.install inputs scope kernels
        | .error _ => s.refuse inputs scope
  | _ => s

/-! ## Waiting for loads -/

/-- The loads the controller keeps track of. -/
def tracked (s : Session) : List Nat := s.controller.background ++ s.controller.kernelLoad.toList

/-- The controller lets go of all loads. -/
def untrack (s : Session) : Session :=
  { s with controller := { s.controller with background := [], kernelLoad := none } }

/-- What a call that waits does next: it returns once there is nothing to take. -/
def takeTracked (s : Session) : Session × Settling :=
  (s.untrack, if s.tracked.isEmpty then .returned else .waiting s.tracked)

/-- A call starts to wait: it takes all loads from the controller. -/
def settle (s : Session) : Session :=
  let (s, settling) := s.takeTracked
  { s with settlings := s.settlings ++ [settling] }

/-- A call goes on when the loads it holds are over. -/
def continueSettling (s : Session) (call : Nat) : Session :=
  match s.settlings[call]? with
  | some (.waiting held) =>
    if held.all s.isOver then
      let (s, settling) := s.takeTracked
      { s with settlings := s.settlings.set call settling }
    else s
  | _ => s

/-- A call may be given up; the loads it holds run on. -/
def abandonSettling (s : Session) (call : Nat) : Session :=
  match s.settlings[call]? with
  | some (.waiting _) => { s with settlings := s.settlings.set call .abandoned }
  | _ => s

end Session

end LivePatching
