import LivePatching.Junit.Runner
import LivePatching.Proofs.Marking

/-!
# What a runner writes

A runner is asked for one task after another. A task that has its machine puts one testcase into
the stream: markers with the output of the command among them.

* `Sink.write_unfailing`: a sink that fails nothing keeps all that is written.
* `Runner.perform_unfailing`: on such a sink all moves are made.
* `Runner.carryOut_unfailing`: what a task writes and counts.
* `Runner.after_unfailing`: a run stores the pieces of its testcases and counts them.
* `Runner.runSuite_snd`, `Runner.runCommand_snd`: what is answered.
-/

namespace LivePatching.Junit

open Telemetry (Record)

/-! ## Sinks that do not fail -/

namespace Sink

/-- Nothing that the sink was asked has failed. -/
def Unfailing (s : Sink) : Prop := ∀ c ∈ s.calls, c.failed = false

/-- What neither writes nor flushes change. -/
structure Keeps (P : Sink → Prop) : Prop where
  write : ∀ s bytes, P s → P (s.write bytes).1
  flush : ∀ s, P s → P s.flush.1

/-- What is kept and what is refused make up the bytes. -/
theorem accept_append (s : Sink) (bytes : Bytes) :
    (s.accept bytes).1 ++ (s.accept bytes).2 = bytes := by
  unfold accept
  split <;> simp

/-- Calls to a sink are never taken back. -/
theorem keeps_calls (calls : List Call) : Keeps fun s => calls <+: s.calls where
  write s bytes h := by
    unfold write
    split
    · exact h
    · exact h.trans (List.prefix_append ..)
  flush s h := h.trans (List.prefix_append ..)

/-- A sink that did not fail stores what is written. -/
theorem write_unfailing {s : Sink} {bytes : Bytes} (h : (s.write bytes).1.Unfailing) :
    (s.write bytes).2 = none ∧ (s.write bytes).1.stored = s.stored ++ bytes := by
  unfold write at h ⊢
  split at h
  case isTrue hempty => simp_all
  case isFalse hne =>
    have hcall : (s.accept bytes).2 = [] := by
      simpa [Call.failed] using h (.write (s.accept bytes).1 (s.accept bytes).2) (by simp [ask])
    have hall : (s.accept bytes).1 = bytes := by simpa [hcall] using s.accept_append bytes
    simp [hne, ask, hcall, hall, stored, Call.failed, Call.kept]

theorem flush_unfailing {s : Sink} (h : s.flush.1.Unfailing) :
    s.flush.2 = none ∧ s.flush.1.stored = s.stored := by
  have hcall : s.canFlush = true := by
    simpa [Call.failed] using h (.flush s.canFlush) (by simp [flush, ask])
  simp [flush, ask, hcall, stored, Call.failed, Call.kept]

/-- A sink without limits that has not failed will not. -/
theorem keeps_unlimited : Keeps fun s => s.room = none ∧ s.flushRoom = none ∧ s.Unfailing where
  write s bytes h := by
    obtain ⟨hroom, hflush, hs⟩ := h
    unfold write
    split
    · exact ⟨hroom, hflush, hs⟩
    · refine ⟨hroom, hflush, fun c hc => ?_⟩
      rcases List.mem_append.mp hc with hc | hc
      · exact hs c hc
      · simp_all [accept, Call.failed]
  flush s h := by
    obtain ⟨hroom, hflush, hs⟩ := h
    refine ⟨hroom, hflush, fun c hc => ?_⟩
    rcases List.mem_append.mp hc with hc | hc
    · exact hs c hc
    · simp_all [canFlush, Call.failed]

end Sink

/-! ## Moves -/

namespace Move

/-- The bytes a move writes. -/
def written : Move → Bytes
  | write bytes => bytes
  | _ => []

/-- The verdict a move counts. -/
def verdict? : Move → Option Bool
  | count passed => some passed
  | _ => none

end Move

namespace Runner

/-- What moves that were all made have changed. -/
structure Performed (r : Runner) (moves : List Move) (r' : Runner) : Prop where
  stored : r'.sink.stored = r.sink.stored ++ moves.flatMap Move.written
  summary : r'.summary = (moves.filterMap Move.verdict?).foldl Summary.count r.summary
  user : r'.user = r.user

theorem Performed.append {r r' r'' : Runner} {moves rest : List Move} (h : Performed r moves r')
    (hrest : Performed r' rest r'') : Performed r (moves ++ rest) r'' where
  stored := by rw [hrest.stored, h.stored, List.flatMap_append, List.append_assoc]
  summary := by rw [hrest.summary, h.summary, List.filterMap_append, List.foldl_append]
  user := hrest.user.trans h.user

/-- A move keeps what the sink keeps. -/
theorem make_keeps {P : Sink → Prop} (hP : Sink.Keeps P) {r : Runner} (move : Move)
    (h : P r.sink) : P (r.make move).1.sink := by
  cases move with
  | write bytes => exact hP.write _ bytes h
  | flush => exact hP.flush _ h
  | execute | count | note => exact h

theorem perform_cons (r : Runner) (move : Move) (rest : List Move) :
    r.perform (move :: rest) =
      match (r.make move).2 with
      | none => (r.make move).1.perform rest
      | some e => ((r.make move).1, some e) := by
  rw [perform]
  split <;> simp_all

/-- Moves keep what the sink keeps. -/
theorem perform_keeps {P : Sink → Prop} (hP : Sink.Keeps P) {r : Runner} (moves : List Move)
    (h : P r.sink) : P (r.perform moves).1.sink := by
  induction moves generalizing r with
  | nil => exact h
  | cons move rest ih =>
    have hmake := make_keeps hP move h
    rw [perform_cons]
    split
    · exact ih hmake
    · exact hmake

/-- A move on a sink that did not fail is performed. -/
theorem make_unfailing {r : Runner} {move : Move} (h : (r.make move).1.sink.Unfailing) :
    (r.make move).2 = none ∧ Performed r [move] (r.make move).1 := by
  cases move with
  | write bytes =>
    obtain ⟨hnone, hstored⟩ := Sink.write_unfailing h
    exact ⟨by simp [make, onSink, hnone],
      ⟨by simpa [make, onSink, Move.written] using hstored, rfl, rfl⟩⟩
  | flush =>
    obtain ⟨hnone, hstored⟩ := Sink.flush_unfailing h
    exact ⟨by simp [make, onSink, hnone],
      ⟨by simpa [make, onSink, Move.written] using hstored, rfl, rfl⟩⟩
  | execute | count | note =>
    exact ⟨rfl, ⟨by simp [make, Move.written], rfl, rfl⟩⟩

/-- Moves on a sink that did not fail are performed. -/
theorem perform_unfailing {r : Runner} {moves : List Move}
    (h : (r.perform moves).1.sink.Unfailing) :
    (r.perform moves).2 = none ∧ Performed r moves (r.perform moves).1 := by
  induction moves generalizing r with
  | nil => exact ⟨rfl, ⟨by simp [perform], rfl, rfl⟩⟩
  | cons move rest ih =>
    rw [perform_cons] at h ⊢
    cases hmake : (r.make move).2 with
    | none =>
      rw [hmake] at h
      obtain ⟨hok, hrest⟩ := ih h
      -- the sink forgets no call, so the first move has not failed either
      have hcalls := perform_keeps (Sink.keeps_calls (r.make move).1.sink.calls) rest
        (List.prefix_refl _)
      obtain ⟨-, hmove⟩ := make_unfailing fun c hc => h c (hcalls.subset hc)
      exact ⟨hok, hmove.append hrest⟩
    | some e =>
      -- the run stops at the move that has failed, and the sink remembers it
      rw [hmake] at h
      exact absurd (make_unfailing h).1 (by simp [hmake])

end Runner

/-! ## Testcases -/

/-- The suite around a testcase. -/
structure Cover where
  group : String
  opened : Instant
  closed : Instant

namespace Cover

/-- The marker that opens a suite. -/
def opening (c : Cover) : Marker :=
  { keyword := .testsuite, time := c.opened, id := c.group, text := c.group }

/-- The marker that closes a suite. -/
def closing (c : Cover) : Marker := { keyword := .endsuite, time := c.closed }

end Cover

/-- A testcase as it was carried out, with the suite around it if it has one of its own. -/
structure Testcase where
  cover : Option Cover
  case : String
  times : Runner.Times
  status : Status

/-- A part of a stream. -/
inductive Piece where
  | marker (m : Marker)
  | output (bytes : Bytes)

/-- The bytes of a piece. -/
def Piece.bytes : Piece → Bytes
  | marker m => m.bytes
  | output bytes => bytes

namespace Testcase

/-- The marker that opens a testcase. -/
def opening (t : Testcase) : Marker :=
  { keyword := .testcase, time := t.times.started, text := t.case }

/-- The marker that closes a testcase with its verdict. -/
def closing (t : Testcase) : Marker :=
  { keyword := .verdict t.status.succeeded, time := t.times.ended }

/-- The pieces of a testcase without its suite. -/
def body (t : Testcase) : List Piece :=
  [.marker t.opening, .output t.status.output, .marker t.closing]

/-- The pieces of a testcase as they are written. -/
def pieces (t : Testcase) : List Piece :=
  match t.cover with
  | none => t.body
  | some c => .marker c.opening :: t.body ++ [.marker c.closing]

end Testcase

/-! ## Tasks -/

/-- What a runner is asked to do. -/
inductive Task where
  | suite (s : Suite) (machines : PerRole Machine) (times : Runner.SuiteTimes)
  | testcase (m : Machine) (command case : String) (timeout : Duration) (times : Runner.Times)

namespace Task

/-- The testcase that a task puts into the stream, if it has its machine. -/
def testcase? (user : String) : Task → Option Testcase
  | suite s machines times => (machines s.role).map fun m =>
    { cover := some ⟨s.group, times.opened, times.closed⟩
      case := s.case
      times := times.testcase
      status := m.execute ⟨m.name, s.command, s.user, s.timeout⟩ }
  | testcase m command case timeout times => some
    { cover := none, case, times, status := m.execute ⟨m.name, command, user, timeout⟩ }

/-- The account that commands run as after a task. -/
def user (before : String) : Task → String
  | suite s machines _ => if (machines s.role).isSome then s.user else before
  | testcase .. => before

end Task

/-- The testcases of a run that starts with an account. -/
def testcases (user : String) : List Task → List Testcase
  | [] => []
  | task :: rest => (task.testcase? user).toList ++ testcases (task.user user) rest

/-- The testcases of two lists of tasks, the user of the first going on. -/
theorem testcases_append (user : String) (tasks rest : List Task) :
    testcases user (tasks ++ rest) =
      testcases user tasks ++ testcases (tasks.foldl Task.user user) rest := by
  induction tasks generalizing user with
  | nil => rfl
  | cons task tasks ih => simp [testcases, ih]

/-- The stream of a run. -/
def pieces (user : String) (tasks : List Task) : List Piece :=
  (testcases user tasks).flatMap Testcase.pieces

namespace Runner

/-- A runner after one task, whatever it answers. -/
def carryOut (r : Runner) : Task → Runner
  | .suite s machines times => (r.runSuite s machines times).1
  | .testcase m command case timeout times => (r.runCommand m command case timeout times).1

/-- The runner after tasks, from the first to the last. -/
def after (r : Runner) (tasks : List Task) : Runner := tasks.foldl carryOut r

theorem after_append (r : Runner) (tasks rest : List Task) :
    r.after (tasks ++ rest) = (r.after tasks).after rest := List.foldl_append

theorem written_marker (m : Marker) : m.moves.flatMap Move.written = m.bytes := by
  simp [Marker.moves, Marker.bytes, Move.written, List.flatMap_map]

theorem verdicts_marker (m : Marker) : m.moves.filterMap Move.verdict? = [] := by
  simp [Marker.moves, Move.verdict?, Marker.block]

theorem written_notes (records : List Record) :
    (records.map Move.note).flatMap Move.written = [] := by
  simp [Move.written]

/-- The moves of a testcase write its pieces. -/
theorem written_testcase (m : Machine) (case : String) (e : Execution) (times : Times) :
    (testcaseMoves m case e times).flatMap Move.written =
      (Testcase.body ⟨none, case, times, m.execute e⟩).flatMap Piece.bytes := by
  have hnote : (if (m.execute e).succeeded then []
      else [.note (failureNote m.name case (m.execute e))]).flatMap Move.written = [] := by
    split <;> rfl
  simp [testcaseMoves, Testcase.body, Testcase.opening, Testcase.closing, Piece.bytes,
    written_marker, written_notes, hnote, info, Move.written]

theorem verdicts_testcase (m : Machine) (case : String) (e : Execution) (times : Times) :
    (testcaseMoves m case e times).filterMap Move.verdict? = [(m.execute e).succeeded] := by
  have hnote : (if (m.execute e).succeeded then []
      else [.note (failureNote m.name case (m.execute e))]).filterMap Move.verdict? = [] := by
    split <;> rfl
  simp [testcaseMoves, verdicts_marker, List.filterMap_cons, hnote, info, Move.verdict?]

/-- The moves of a suite write its pieces. -/
theorem written_suite (m : Machine) (s : Suite) (before : Summary) (times : SuiteTimes) :
    (suiteMoves m s before times).flatMap Move.written =
      (Testcase.pieces ⟨some ⟨s.group, times.opened, times.closed⟩, s.case, times.testcase,
        m.execute ⟨m.name, s.command, s.user, s.timeout⟩⟩).flatMap Piece.bytes := by
  simp [suiteMoves, testsuiteMoves, endsuiteMoves, info, Testcase.pieces, Cover.opening,
    Cover.closing, written_testcase, written_marker, Testcase.body, Testcase.opening,
    Testcase.closing, Piece.bytes, Move.written]

theorem verdicts_suite (m : Machine) (s : Suite) (before : Summary) (times : SuiteTimes) :
    (suiteMoves m s before times).filterMap Move.verdict? =
      [(m.execute ⟨m.name, s.command, s.user, s.timeout⟩).succeeded] := by
  simp [suiteMoves, testsuiteMoves, endsuiteMoves, info, verdicts_testcase, verdicts_marker,
    List.filterMap_cons, Move.verdict?]

/-- Without a machine for its role a suite does nothing. -/
theorem runSuite_missing (r : Runner) {s : Suite} {machines : PerRole Machine}
    (times : SuiteTimes) (h : machines s.role = none) :
    r.runSuite s machines times = (r, .error (.missingTarget s.role)) := by
  simp [runSuite, machineOf, h]

theorem runSuite_fst (r : Runner) {s : Suite} {machines : PerRole Machine} {m : Machine}
    (times : SuiteTimes) (h : machines s.role = some m) :
    (r.runSuite s machines times).1 =
      ({ r with user := s.user }.perform (suiteMoves m s r.summary times)).1 := by
  simp only [runSuite, machineOf, h]
  split <;> simp_all

theorem runCommand_fst (r : Runner) (m : Machine) (command case : String) (timeout : Duration)
    (times : Times) :
    (r.runCommand m command case timeout times).1 =
      (r.perform (testcaseMoves m case ⟨m.name, command, r.user, timeout⟩ times)).1 := by
  simp only [runCommand]
  split <;> simp_all

/-- A suite on a sink that did not fail returns its counts. -/
theorem runSuite_snd {r : Runner} {s : Suite} {machines : PerRole Machine} {m : Machine}
    {times : SuiteTimes} (hm : machines s.role = some m)
    (h : (r.runSuite s machines times).1.sink.Unfailing) :
    (r.runSuite s machines times).2 = .ok (r.runSuite s machines times).1.summary := by
  rw [runSuite_fst r times hm] at h
  have hok := (perform_unfailing h).1
  simp only [runSuite, machineOf, hm]
  split <;> simp_all

theorem runCommand_snd {r : Runner} {m : Machine} {command case : String} {timeout : Duration}
    {times : Times} (h : (r.runCommand m command case timeout times).1.sink.Unfailing) :
    (r.runCommand m command case timeout times).2 =
      .ok (m.execute ⟨m.name, command, r.user, timeout⟩).succeeded := by
  rw [runCommand_fst] at h
  have hok := (perform_unfailing h).1
  simp only [runCommand]
  split <;> simp_all

/-- What a runner has written and counted on behalf of testcases. -/
structure Ran (r : Runner) (ts : List Testcase) (r' : Runner) : Prop where
  stored : r'.sink.stored = r.sink.stored ++ (ts.flatMap Testcase.pieces).flatMap Piece.bytes
  summary : r'.summary = (ts.map (·.status.succeeded)).foldl Summary.count r.summary

theorem Ran.nil (r : Runner) : Ran r [] r := ⟨by simp, rfl⟩

theorem Ran.append {r r' r'' : Runner} {ts us : List Testcase} (h : Ran r ts r')
    (hus : Ran r' us r'') : Ran r (ts ++ us) r'' where
  stored := by
    rw [hus.stored, h.stored, List.flatMap_append, List.flatMap_append, List.append_assoc]
  summary := by rw [hus.summary, h.summary, List.map_append, List.foldl_append]

/-- A task keeps what the sink keeps. -/
theorem carryOut_keeps {P : Sink → Prop} (hP : Sink.Keeps P) {r : Runner} (task : Task)
    (h : P r.sink) : P (r.carryOut task).sink := by
  cases task with
  | suite s machines times =>
    simp only [carryOut]
    cases hm : machines s.role with
    | none => rwa [runSuite_missing r times hm]
    | some m =>
      rw [runSuite_fst r times hm]
      exact perform_keeps hP _ h
  | testcase m command case timeout times =>
    simp only [carryOut, runCommand_fst]
    exact perform_keeps hP _ h

theorem after_keeps {P : Sink → Prop} (hP : Sink.Keeps P) {r : Runner} (tasks : List Task)
    (h : P r.sink) : P (r.after tasks).sink := by
  induction tasks generalizing r with
  | nil => exact h
  | cons task rest ih => exact ih (carryOut_keeps hP task h)

/-- A sink without limits never fails. -/
theorem after_unlimited {r : Runner} (hroom : r.sink.room = none)
    (hflush : r.sink.flushRoom = none) (hcalls : r.sink.calls = []) (tasks : List Task) :
    (r.after tasks).sink.Unfailing :=
  (after_keeps Sink.keeps_unlimited tasks ⟨hroom, hflush, by simp [Sink.Unfailing, hcalls]⟩).2.2

/-- A task on a sink that did not fail is carried out. -/
theorem carryOut_unfailing {r : Runner} {task : Task}
    (h : (r.carryOut task).sink.Unfailing) :
    Ran r (task.testcase? r.user).toList (r.carryOut task) ∧
      (r.carryOut task).user = task.user r.user := by
  cases task with
  | suite s machines times =>
    simp only [carryOut] at h ⊢
    -- without a machine for its role the suite leaves no testcase
    cases hm : machines s.role with
    | none =>
      rw [runSuite_missing r times hm]
      simpa [Task.testcase?, Task.user, hm] using Ran.nil r
    | some m =>
      rw [runSuite_fst r times hm] at h ⊢
      obtain ⟨-, hp⟩ := perform_unfailing h
      refine ⟨⟨?_, ?_⟩, ?_⟩
      · simpa [Task.testcase?, hm, written_suite] using hp.stored
      · simpa [Task.testcase?, hm, verdicts_suite] using hp.summary
      · simpa [Task.user, hm] using hp.user
  | testcase m command case timeout times =>
    simp only [carryOut, runCommand_fst] at h ⊢
    obtain ⟨-, hp⟩ := perform_unfailing h
    refine ⟨⟨?_, ?_⟩, hp.user⟩
    · simpa [Task.testcase?, Testcase.pieces, Testcase.body, written_testcase] using hp.stored
    · simpa [Task.testcase?, verdicts_testcase] using hp.summary

/-- A sink that has not failed had not failed before. -/
theorem unfailing_of_append {r : Runner} {tasks rest : List Task}
    (h : (r.after (tasks ++ rest)).sink.Unfailing) : (r.after tasks).sink.Unfailing := by
  rw [after_append] at h
  have hcalls := after_keeps (Sink.keeps_calls (r.after tasks).sink.calls) rest
    (List.prefix_refl _)
  exact fun c hc => h c (hcalls.subset hc)

/-- **A run on a sink that does not fail** stores the pieces of its testcases and counts them. -/
theorem after_unfailing {r : Runner} {tasks : List Task} (h : (r.after tasks).sink.Unfailing) :
    Ran r (testcases r.user tasks) (r.after tasks) ∧
      (r.after tasks).user = tasks.foldl Task.user r.user := by
  induction tasks generalizing r with
  | nil => exact ⟨.nil r, rfl⟩
  | cons task rest ih =>
    have hfirst : (r.after [task]).sink.Unfailing := unfailing_of_append h
    obtain ⟨hran, huser⟩ := carryOut_unfailing hfirst
    obtain ⟨hrest, hlast⟩ := ih h
    rw [huser] at hrest hlast
    exact ⟨hran.append hrest, hlast⟩

end Runner

end LivePatching.Junit
