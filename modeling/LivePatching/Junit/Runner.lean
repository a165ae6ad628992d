import LivePatching.Junit.Marker
import LivePatching.Junit.Sink
import LivePatching.Junit.Suite
import LivePatching.Telemetry.Metrics

/-!
# Running suites

A runner writes markers around the output of commands. What it does is a list of moves, made one
after another until one of them fails.

* `Runner.perform`: makes the moves; those after a failure are not made.
* `Runner.runCommand`: one testcase.
* `Runner.runSuite`: a suite of one testcase; without a machine for its role nothing happens.
-/

namespace LivePatching.Junit

open Telemetry (Record Metrics)

/-- One thing that a runner does. -/
inductive Move where
  | write (bytes : Bytes)
  | flush
  | execute (e : Execution)
  | count (passed : Bool)
  | note (r : Record)
deriving Repr

/-- A block is written in its pieces and flushed. -/
def Marker.moves (m : Marker) : List Move := m.block.map (.write <| Bytes.ofString ·) ++ [.flush]

/-- The runner: its sink and what it has counted, executed, measured and logged. -/
structure Runner where
  sink : Sink
  user : String := "root"
  summary : Summary := {}
  /-- The commands so far. -/
  executed : List Execution := []
  metrics : Metrics := {}
  notes : List Record := []
deriving Repr, Inhabited

namespace Runner

/-- Uses the sink and turns its failure into the runner's. -/
def onSink (r : Runner) (use : Sink → Sink × Option String) : Runner × Option RunnerError :=
  let (sink, failure) := use r.sink
  ({ r with sink }, failure.map .sink)

/-- Makes one move. -/
def make (r : Runner) : Move → Runner × Option RunnerError
  | .write bytes => r.onSink (·.write bytes)
  | .flush => r.onSink (·.flush)
  | .execute e => ({ r with executed := r.executed ++ [e] }, none)
  | .count passed =>
    ({ r with
        summary := r.summary.count passed
        metrics := r.metrics.testcaseEnded (Keyword.verdict passed).name }, none)
  | .note record => ({ r with notes := r.notes ++ [record] }, none)

/-- Makes moves up to the first that fails. -/
def perform (r : Runner) : List Move → Runner × Option RunnerError
  | [] => (r, none)
  | move :: rest =>
    match r.make move with
    | (r, none) => r.perform rest
    | (r, some e) => (r, some e)

/-- The move that logs a message. -/
def info (message : String) (fields : List (String × Json.Node)) : Move :=
  .note ⟨"junit_runner::suite", .info, message, fields⟩

/-- The moves that open a suite. -/
def testsuiteMoves (group : String) (now : Instant) : List Move :=
  info "Starting suite" [("group", .ofString group)] ::
    Marker.moves { keyword := .testsuite, time := now, id := group, text := group }

/-- The moves that close a suite. -/
def endsuiteMoves (summary : Summary) (now : Instant) : List Move :=
  info "Suite finished" [("passed", .ofNat summary.passed), ("failed", .ofNat summary.failed)] ::
    Marker.moves { keyword := .endsuite, time := now }

/-- The log's record of a failed testcase. -/
def failureNote (host case : String) (s : Status) : Record :=
  ⟨"junit_runner::suite", .warn, "Testcase failed",
    [("host", .ofString host), ("testcase", .ofString case),
      ("local", .num (.ofInt s.localCode)), ("remote", .num (.ofInt s.remoteCode)),
      ("command", .num (.ofInt s.commandCode))]⟩

/-- When a testcase started and ended. -/
structure Times where
  started : Instant
  ended : Instant
deriving Inhabited

/-- The testcase is opened before the command runs, and its output stands before the marker that
closes it. -/
def testcaseMoves (m : Machine) (case : String) (e : Execution) (times : Times) : List Move :=
  let status := m.execute e
  let passed := status.succeeded
  Marker.moves { keyword := .testcase, time := times.started, text := case } ++
    info "Running testcase" [("host", .ofString m.name), ("testcase", .ofString case),
      ("timeout", .ofString e.timeout.text)] ::
    .execute e :: (m.notes e).map .note ++
    [.write status.output, .flush, .count passed] ++
    (if passed then [] else [.note (failureNote m.name case status)]) ++
    Marker.moves { keyword := .verdict passed, time := times.ended }

/-- Opens a suite. -/
def testsuite (r : Runner) (group : String) (now : Instant) : Runner × Option RunnerError :=
  r.perform (testsuiteMoves group now)

/-- Closes the suite. -/
def endsuite (r : Runner) (now : Instant) : Runner × Option RunnerError :=
  r.perform (endsuiteMoves r.summary now)

/-- Answers whether the testcase passed. -/
def runCommand (r : Runner) (m : Machine) (command case : String) (timeout : Duration)
    (times : Times) : Runner × Except RunnerError Bool :=
  let e : Execution := ⟨m.name, command, r.user, timeout⟩
  match r.perform (testcaseMoves m case e times) with
  | (r, none) => (r, .ok (m.execute e).succeeded)
  | (r, some failure) => (r, .error failure)

/-- When a suite was opened, its testcase, and when it was closed. -/
structure SuiteTimes where
  opened : Instant
  testcase : Times
  closed : Instant
deriving Inhabited

/-- The moves of a suite with its one testcase. -/
def suiteMoves (m : Machine) (s : Suite) (before : Summary) (times : SuiteTimes) : List Move :=
  let e : Execution := ⟨m.name, s.command, s.user, s.timeout⟩
  testsuiteMoves s.group times.opened ++ testcaseMoves m s.case e times.testcase ++
    endsuiteMoves (before.count (m.execute e).succeeded) times.closed

/-- Answers the counts of all testcases so far. -/
def runSuite (r : Runner) (s : Suite) (machines : PerRole Machine) (times : SuiteTimes) :
    Runner × Except RunnerError Summary :=
  match machineOf machines s.role with
  | .error e => (r, .error e)
  | .ok m =>
    match { r with user := s.user }.perform (suiteMoves m s r.summary times) with
    | (r, none) => (r, .ok r.summary)
    | (r, some e) => (r, .error e)

end Runner

end LivePatching.Junit
