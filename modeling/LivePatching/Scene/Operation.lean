import LivePatching.Scene.Schedule
import LivePatching.Selection.Invariant

/-!
# What can be done in a scene

The operations of somebody who owns the form, the sub-form and the script of a scene, beside the
actions on its session. None of them lets a job run.
-/

namespace LivePatching.Scene

/-- The models of a form that all announce their writes on the bus, or none of them. -/
def formOf (models : List FormModel) (bus : Bus) (announces : Bool) : Form where
  models := models.map (SharedModel.ofModel · announces)
  bus := if announces then { bus with holders := bus.holders + models.length } else bus

/-- A scene with a new session; nothing has happened in it. -/
def stage (form : Form) (context : Context) (policy : StalePolicy) (lists : Provider)
    (source : KernelSource) : Scene :=
  ⟨.mount form context policy, lists, source, .empty, [], 0, [], [], none⟩

/-! ## The form -/

/-- Somebody listens on the bus from now on. -/
def watch (sc : Scene) (filter : Filter) : Scene :=
  { sc.act (.subscribe filter) with
    watchers := sc.watchers ++ [(sc.session.form.bus.subscribe filter).2] }

/-- What a watcher has not heard yet. -/
def drainWatcher (sc : Scene) (watcher : Nat) : Scene × List Delivery :=
  match sc.watchers[watcher]? with
  | none => (sc, [])
  | some s =>
    let (ds, s) := s.drain sc.session.form.bus
    ({ sc with watchers := sc.watchers.set watcher s }, ds)

/-! ## The sub-form -/

/-- Renders, and gives what is shown. -/
def render (sc : Scene) (p : Props) : Scene × Option View :=
  (sc.act (.render p), (sc.session.render p).2)

/-- The controller sees the values of a context; the scope that follows from them. -/
def observe (sc : Scene) (t : Template) (c : Context) : Scene × Option Scope :=
  (sc.act (.observe t c), (Inputs.read sc.session.form t c).scope)

/-- Starts a loop; the scene remembers it as its last one. -/
def drive (sc : Scene) (p : Props) (filter : Filter) : Scene :=
  { sc.act (.drive p filter) with loop := some sc.session.drives.length }

/-- What came of the last loop. -/
inductive Joined where
  | noLoop
  | driving
  | ended (p : Props)
deriving DecidableEq, Repr

/-- Asks for the end of the loop; it is told once. -/
def join (sc : Scene) : Scene × Joined :=
  match sc.loop >>= fun n => sc.session.drives[n]? with
  | none => (sc, .noLoop)
  | some d =>
    if d.stage = .returned then ({ sc with loop := none }, .ended d.props) else (sc, .driving)

/-- The rules of a sub-form at rest: scope, kernels, and keys over all writes of the first
model. -/
def rules (sc : Scene) (t : Template) : List Bool :=
  let s := sc.session
  let log := ((s.form.models[0]?).map (·.log)).getD []
  [scopeConsistent t s.chosen s.controller.snapshot,
    kernelsMatchScope t s.chosen s.controller.snapshot, onlyKernelWritten (log.map (·.1))]

/-! ## The script -/

/-- The script answers so for the scope from now on. -/
def tell (sc : Scene) (scope : Scope) (answer : Except ProviderError (List Kernel)) : Scene :=
  { sc with script := sc.script.tell scope answer }

/-- The next load of the scope has to wait. -/
def hold (sc : Scene) (scope : Scope) : Scene := { sc with script := sc.script.hold scope }

/-- Lets the load at the gate go on. -/
def openGate (sc : Scene) (gate : Nat) : Scene :=
  enqueue { sc with script := sc.script.openGate gate }
    ((sc.script.waitingAt? gate).toList.map .load)

/-- Lets all loads go on. -/
def openAllGates (sc : Scene) : Scene := (List.range sc.script.gates.length).foldl openGate sc

end LivePatching.Scene
