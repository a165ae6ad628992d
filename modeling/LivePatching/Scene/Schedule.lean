import LivePatching.Scene.Script
import LivePatching.Subform.Action

/-!
# A schedule for a sub-form

One order in which the loads and loops of a session run: a queue of jobs, first come first served,
on a clock that only moves when told to. A job runs until it has to wait, and goes to the end of
the queue when what it waits for has come.

* `Scene.act`: an action on the session, and the jobs that it wakes.
* `Scene.run`: runs the queue until it is empty.
* `Scene.advance`: moves the clock.
* `Scene.settle`: waits for the loads, moving the clock where nothing else can go on.
-/

namespace LivePatching

/-- What can be made to go on: a load, or a loop. -/
inductive Job where
  | load (n : Nat)
  | loop (n : Nat)
deriving DecidableEq, Repr

/-- Where kernels come from. -/
inductive KernelSource where
  | provider (p : Provider)
  | script
deriving Repr

/-- A session with what answers its loads and the order in which its tasks run. -/
structure Scene where
  session : Session
  /-- Answers for clients and products. -/
  lists : Provider
  source : KernelSource
  script : Script
  queue : List Job
  /-- Milliseconds since the start. -/
  clock : Nat
  /-- The loads that wait for a time, the longest waiting first. -/
  sleeping : List (Nat × Nat)
  watchers : List Subscription
  /-- The loop whose end was not asked for yet. -/
  loop : Option Nat
deriving Repr

namespace Scene

/-- Puts jobs at the end of the queue, those that wait in it already left out. -/
def enqueue (sc : Scene) (jobs : List Job) : Scene :=
  { sc with queue := sc.queue ++ jobs.filter fun j => !sc.queue.contains j }

/-- The loads that were stopped while they waited, then the new ones. -/
def wokenLoads (before after : Session) : List Job :=
  let stopped := (List.range before.loads.length).filter fun n =>
    (before.loads[n]?).any (·.stage == .running) &&
      (after.loads[n]?).any (·.stage == .aborted true)
  let new := (List.range after.loads.length).filter fun n => before.loads.length ≤ n
  (stopped ++ new).map .load

/-- The loops that an event, the end of the bus or the end of the sub-form wakes, and new ones. -/
def wokenLoops (before after : Session) : List Job :=
  let stirred :=
    before.form.bus.published != after.form.bus.published ||
      before.form.bus.isClosed != after.form.bus.isClosed ||
      before.controller.tornDown != after.controller.tornDown
  ((List.range after.drives.length).filter fun n =>
    match after.drives[n]? with
    | some d => d.stage == .waiting && stirred || before.drives.length ≤ n
    | none => false).map .loop

/-- An action of a job that is running, which needs no waking, or of somebody else. -/
def actAs (sc : Scene) (running : Option Job) (a : Action) : Scene :=
  let s := sc.session.step a
  let jobs := wokenLoads sc.session s ++ wokenLoops sc.session s
  enqueue { sc with session := s } (jobs.filter fun j => some j != running)

/-- An action of the owner, outside any task. -/
def act (sc : Scene) (a : Action) : Scene := sc.actAs none a

/-! ## Loads -/

/-- The load handles the answer of its provider. -/
def answer (sc : Scene) (load : Nat) (q : Question) : Scene :=
  let sc := { sc with script := sc.script.leave load }
  sc.actAs (some (.load load)) <|
    match q with
    | .clients => .answerClients load sc.lists.clients
    | .products => .answerProducts load sc.lists.products
    | .kernels _ scope =>
      .answerKernels load <|
        match sc.source with
        | .provider p => p.kernels scope
        | .script => sc.script.answer scope

/-- The load waits for the time its provider takes, if it takes any. -/
def sleep (sc : Scene) (load : Nat) (q : Question) (latency : Option Duration) : Scene :=
  match latency with
  | none => sc.answer load q
  | some d =>
    if d.millis = 0 then sc.answer load q
    else { sc with sleeping := sc.sleeping ++ [(sc.clock + d.millis, load)] }

/-- The load asks its provider, and goes on at once where the provider does not make it wait. -/
def ask (sc : Scene) (load : Nat) (q : Question) : Scene :=
  match q with
  | .clients => sc.sleep load q sc.lists.latency?
  | .products => sc.sleep load q sc.lists.latency?
  | .kernels _ scope =>
    match sc.source with
    | .provider p => sc.sleep load q p.latency?
    | .script =>
      let (script, waits) := sc.script.ask scope load
      let sc := { sc with script }
      if waits then sc else sc.answer load q

/-- An aborted load goes away, from its gate and from its sleep too. -/
def discard (sc : Scene) (load : Nat) : Scene :=
  let sc := sc.actAs (some (.load load)) (.drop load)
  { sc with
    script := sc.script.leave load
    sleeping := sc.sleeping.filter fun p => p.2 ≠ load }

/-- A turn of a load. -/
def runLoad (sc : Scene) (load : Nat) : Scene :=
  match sc.session.loads[load]? with
  | some ⟨q, .queued⟩ =>
    (sc.actAs (some (.load load)) (.start load)).ask load q
  | some ⟨q, .running⟩ => sc.answer load q
  | some ⟨_, .aborted _⟩ => sc.discard load
  | _ => sc

/-! ## Loops -/

/-- Steps of a loop until it has nothing to do; the last one passes events that do not concern
it. -/
def runLoopWith (loop : Nat) : Nat → Scene → Scene
  | 0, sc => sc
  | fuel + 1, sc =>
    let ready := sc.session.canContinue loop
    let sc := sc.actAs (some (.loop loop)) (.continueDrive loop false)
    if ready then runLoopWith loop fuel sc else sc

/-- The number of events that loops have not seen yet. -/
def unseen (sc : Scene) : Nat :=
  (sc.session.drives.map fun d =>
    sc.session.form.bus.published - d.subscription.next).foldl (· + ·) 0

/-- Each event is seen once, and publishes one more at most: when it changes the template. -/
def runLoop (sc : Scene) (loop : Nat) : Scene := runLoopWith loop (4 * (sc.unseen + 4)) sc

/-! ## The queue and the clock -/

/-- A turn of a job. -/
def runJob (sc : Scene) : Job → Scene
  | .load n => sc.runLoad n
  | .loop n => sc.runLoop n

/-- Runs jobs until none is left, with fuel. -/
def runWith : Nat → Scene → Scene
  | 0, sc => sc
  | fuel + 1, sc =>
    match sc.queue with
    | [] => sc
    | job :: rest => runWith fuel ({ sc with queue := rest }.runJob job)

/-- A job wakes loops, and an event that a loop has not seen issues three loads at most. -/
def run (sc : Scene) : Scene := runWith (16 * (sc.queue.length + sc.unseen + 8)) sc

/-- The loads whose time has come go to the queue, in the order of their times. -/
def wakeSleepers (sc : Scene) : Scene :=
  let due := (sc.sleeping.filter fun p => p.1 ≤ sc.clock).mergeSort fun p q => p.1 ≤ q.1
  enqueue { sc with sleeping := sc.sleeping.filter fun p => sc.clock < p.1 }
    (due.map fun p => .load p.2)

/-- Time passes; the loads whose sleep is over go on. -/
def advance (sc : Scene) (millis : Nat) : Scene :=
  (wakeSleepers { sc with clock := sc.clock + millis }).run

/-- The next time that a load waits for. -/
def nextTime? (sc : Scene) : Option Nat := (sc.sleeping.map (·.1)).min?

/-- Whether a call that waits has returned. -/
def hasReturned (sc : Scene) (call : Nat) : Bool := sc.session.settlings[call]? == some .returned

/-- Lets a call go on as far as it can without any job running. -/
def poke (sc : Scene) (call : Nat) : Scene :=
  (sc.act (.continueSettling call)).act (.continueSettling call)

/-- Runs jobs and lets time pass until the call has returned, with fuel. -/
def settleWith (call : Nat) : Nat → Scene → Scene
  | 0, sc => sc
  | fuel + 1, sc =>
    let sc := sc.run.poke call
    if sc.hasReturned call then sc
    else
      match sc.nextTime? with
      | none => if sc.queue.isEmpty then sc else settleWith call fuel sc
      | some time => settleWith call fuel (wakeSleepers { sc with clock := max sc.clock time })

/-- Waits for the loads; whether the wait came to its end. Each round wakes a load or takes new
ones. -/
def settle (sc : Scene) : Scene × Bool :=
  let call := sc.session.settlings.length
  let sc := (sc.act .settle).poke call
  if sc.hasReturned call then (sc, true)
  else
    let sc := settleWith call (2 * (sc.session.loads.length + sc.unseen + 8)) sc
    (sc, sc.hasReturned call)

end Scene

end LivePatching
