import LivePatching.Bus.Filter
import LivePatching.Duration

/-!
# The form bus

A bus hands every event to all its receivers. It keeps the newest events in a ring of bounded
size, so a receiver that is slow loses the oldest ones it has not read. The frame is kept outside
the ring and is never lost.

* `Bus.publish`: one event for all receivers.
* `Subscription.poll`: what a receiver gets next: a matching event, the number of events it lost,
  or nothing, for now or for good.
* `Subscription.receive`: the same without word of lost events.
-/

namespace LivePatching

/-- The log is never cut here: what is no longer kept of it follows from the capacity. -/
structure Bus where
  /-- The number of events asked to be kept. -/
  capacity : Nat
  /-- All events published, in order. -/
  log : Array FormEvent
  frame : Frame
  /-- The number of receivers. -/
  receivers : Nat
  /-- The number of holders that may publish; without any the bus is closed. -/
  holders : Nat
deriving Repr, Inhabited

/-- The place of a receiver in the log: events before `next` it has seen or lost. -/
structure Subscription where
  filter : Filter
  next : Nat
deriving Repr, Inhabited

/-- What a receiver gets when it looks for an event. -/
inductive Delivery where
  | event (e : FormEvent)
  | lagged (missed : Nat)
  | pending
  | closed
deriving Repr, Inhabited

/-- Why a receiver got no event. -/
inductive SubscriptionError where
  | closed
  | timeout (limit : Duration)
  | lagged (missed : Nat)
deriving DecidableEq, Repr

/-- The text of the error. -/
def SubscriptionError.message : SubscriptionError → String
  | closed => "Form bus closed"
  | timeout limit => "No event within " ++ limit.text
  | lagged missed => "Subscriber lagged, " ++ toString missed ++ " form events dropped"

namespace Bus

/-- The capacity of a bus that is opened without one. -/
def defaultCapacity : Nat := 256

/-- The largest capacity: half a machine word. -/
def maxCapacity : Nat := Nat.pow 2 63 - 1

/-- A new bus with one holder and no receivers; a capacity out of range gives none. -/
def open? (capacity : Nat) : Option Bus :=
  if 0 < capacity ∧ capacity ≤ maxCapacity then some ⟨capacity, #[], .empty, 0, 1⟩ else none

/-- The number of events kept: the next power of two. -/
def ringSize (b : Bus) : Nat := b.capacity.nextPowerOfTwo

/-- The number of events published so far, which is the place of the next one. -/
def published (b : Bus) : Nat := b.log.size

/-- The place of the oldest event that is kept. -/
def oldest (b : Bus) : Nat := b.published - b.ringSize

/-- Nobody is left who could publish. -/
def isClosed (b : Bus) : Bool := b.holders == 0

/-- The log grows by the event; each receiver there is will get it unless it falls behind. -/
def publish (b : Bus) (e : FormEvent) : Bus :=
  { b with log := b.log.push e, frame := b.frame.apply e }

/-- A receiver sees only what is published after it subscribed. -/
def subscribe (b : Bus) (filter : Filter) : Bus × Subscription :=
  ({ b with receivers := b.receivers + 1 }, ⟨filter, b.published⟩)

/-- A receiver goes away. -/
def unsubscribe (b : Bus) : Bus := { b with receivers := b.receivers - 1 }

/-- One holder more. -/
def hold (b : Bus) : Bus := { b with holders := b.holders + 1 }

/-- A holder lets go. -/
def release (b : Bus) : Bus := { b with holders := b.holders - 1 }

/-- The events from a place on. -/
def since (b : Bus) (place : Nat) : List FormEvent := (b.log.extract place b.log.size).toList

end Bus

namespace Subscription

/-- The first matching event from a place on, and the place behind it. -/
def seek (filter : Filter) : List FormEvent → Nat → Option FormEvent × Nat
  | [], place => (none, place)
  | e :: rest, place =>
    if filter.accepts e then (some e, place + 1) else seek filter rest (place + 1)

/-- What the receiver gets next, and its place from then on. A loss is told before anything else,
and the receiver goes on with the oldest event kept; a bus is closed for a receiver only when it has
got all that was for it. -/
def poll (s : Subscription) (b : Bus) : Delivery × Subscription :=
  if s.next < b.oldest then (.lagged (b.oldest - s.next), { s with next := b.oldest })
  else
    match seek s.filter (b.since s.next) s.next with
    | (some e, place) => (.event e, { s with next := place })
    | (none, place) => (if b.isClosed then .closed else .pending, { s with next := place })

/-- Lost events are passed over: right after a loss nothing is lost. -/
def receive (s : Subscription) (b : Bus) : Delivery × Subscription :=
  match s.poll b with
  | (.lagged _, s) => s.poll b
  | r => r

/-- Waits until an event is there or the time is over; while it waits nobody publishes. -/
def receiveWithin (s : Subscription) (b : Bus) (limit : Duration) :
    Except SubscriptionError FormEvent × Subscription :=
  match s.receive b with
  | (.event e, s) => (.ok e, s)
  | (.closed, s) => (.error .closed, s)
  | (.lagged _, s) => (.error (.timeout limit), s)
  | (.pending, s) => (.error (.timeout limit), s)

/-- Polls until nothing more is there, at most `fuel` times. -/
def drainWith (b : Bus) : Nat → Subscription → List Delivery × Subscription
  | 0, s => ([], s)
  | fuel + 1, s =>
    match s.poll b with
    | (.pending, s) => ([.pending], s)
    | (.closed, s) => ([.closed], s)
    | (d, s) =>
      let (ds, s) := drainWith b fuel s
      (d :: ds, s)

/-- Every poll before the last one passes an event or reports a loss, which happens once. -/
def drain (s : Subscription) (b : Bus) : List Delivery × Subscription :=
  drainWith b (b.published - s.next + 2) s

end Subscription

end LivePatching
