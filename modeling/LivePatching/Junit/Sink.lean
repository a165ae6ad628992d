import LivePatching.Host.Files

/-!
# Sinks

A sink takes the bytes of a run, as many as it has room for, and remembers what was asked of it.

* `Sink.write`: keeps the bytes, or as many of them as fit and then fails; writing nothing asks
  nothing.
* `Sink.flush`: fails once the sink has done as many flushes as it can.
* `Sink.stored`, `Sink.flushes`: what it has kept and done so far.
-/

namespace LivePatching.Junit

/-- What a sink was asked. -/
inductive Call where
  /-- A write of which it kept some bytes and refused the others. -/
  | write (kept refused : Bytes)
  | flush (done : Bool)
deriving DecidableEq, Repr

namespace Call

/-- The bytes a call stored. -/
def kept : Call → Bytes
  | write kept _ => kept
  | flush _ => []

/-- Whether a call was refused. -/
def failed : Call → Bool
  | write _ refused => !refused.isEmpty
  | flush done => !done

end Call

/-- Where the markers go, with the calls made so far; it may have room for so much only. -/
structure Sink where
  /-- The number of bytes it can keep. -/
  room : Option Nat := none
  /-- The number of flushes it can do. -/
  flushRoom : Option Nat := none
  calls : List Call := []
deriving DecidableEq, Repr, Inhabited

namespace Sink

/-- Why a sink fails. -/
def reason : String := "sink full"

/-- The bytes stored so far. -/
def stored (s : Sink) : Bytes := s.calls.flatMap Call.kept

/-- The flushes done so far. -/
def flushes (s : Sink) : Nat := s.calls.count (.flush true)

/-- What a sink keeps of some more bytes, and what it refuses. -/
def accept (s : Sink) (bytes : Bytes) : Bytes × Bytes :=
  match s.room with
  | none => (bytes, [])
  | some room => bytes.splitAt (room - s.stored.length)

/-- Whether one more flush can be done. -/
def canFlush (s : Sink) : Bool :=
  match s.flushRoom with
  | none => true
  | some n => s.flushes < n

/-- Makes a call and tells why it failed. -/
def ask (s : Sink) (call : Call) : Sink × Option String :=
  ({ s with calls := s.calls ++ [call] }, if call.failed then some reason else none)

/-- Writes bytes; an empty write asks nothing of the sink. -/
def write (s : Sink) (bytes : Bytes) : Sink × Option String :=
  if bytes.isEmpty then (s, none)
  else
    let (kept, refused) := s.accept bytes
    s.ask (.write kept refused)

/-- Asks the sink to flush. -/
def flush (s : Sink) : Sink × Option String := s.ask (.flush s.canFlush)

end Sink

end LivePatching.Junit
