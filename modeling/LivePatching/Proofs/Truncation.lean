import LivePatching.Proofs.Framing

/-!
# Runs on a sink that fails

A runner stops at the first call of its sink that fails. What the sink has kept by then is the
beginning of what a sink without limits keeps of the same run.

* `Sink.Holds`: the sink has room for all that some moves write, and can do all their flushes.
* `Runner.make_cases`: a move is made, or its call of the sink fails.
* `Runner.perform_holds`, `Runner.perform_refused`: all moves are made, or the run stops at one of
  them.
* `Runner.executed_of_prefix`: what is executed if the suite stops after some of its moves.
* `Runner.runSuite_truncated`: **a suite on a sink that fails.**
-/

namespace LivePatching.Junit

/-! ## Calls of a sink -/

namespace Move

/-- What a sink is asked by a move that is made. -/
def calls : Move → List Call
  | write bytes => if bytes.isEmpty then [] else [.write bytes []]
  | flush => [.flush true]
  | _ => []

/-- The calls of moves that are made do not fail. -/
theorem failed_calls (moves : List Move) : ∀ c ∈ moves.flatMap calls, c.failed = false := by
  intro c hc
  obtain ⟨move, -, hmove⟩ := List.mem_flatMap.mp hc
  cases move with
  | write bytes => cases bytes <;> simp_all [calls, Call.failed]
  | flush => simp_all [calls, Call.failed]
  | execute | count | note => exact absurd hmove List.not_mem_nil

/-- Whether a move flushes the sink. -/
def isFlush : Move → Bool
  | flush => true
  | _ => false

/-- The command a move executes. -/
def executed? : Move → Option Execution
  | execute e => some e
  | _ => none

end Move

namespace Sink

/-- A sink without limits that has been asked the same. -/
def unlimited (s : Sink) : Sink := { s with room := none, flushRoom := none }

/-- The sink when the moves have been made. -/
def after (s : Sink) (moves : List Move) : Sink :=
  { s with calls := s.calls ++ moves.flatMap Move.calls }

/-- When some is used up, the limit leaves enough for more. No more needs nothing. -/
def Suffices (limit : Option Nat) (used more : Nat) : Prop :=
  ∀ n, limit = some n → more = 0 ∨ used + more ≤ n

theorem suffices_zero {limit : Option Nat} {used : Nat} : Suffices limit used 0 :=
  fun _ _ => .inl rfl

/-- What is enough for both parts is enough for one after the other. -/
theorem suffices_add {limit : Option Nat} {used more rest : Nat} :
    Suffices limit used (more + rest) ↔
      Suffices limit used more ∧ Suffices limit (used + more) rest := by
  simp only [Suffices, ← forall_and]
  refine forall_congr' fun n => forall_congr' fun _ => ?_
  omega

/-- The sink has room for all that the moves write, and can do all their flushes. -/
structure Holds (s : Sink) (moves : List Move) : Prop where
  room : Suffices s.room s.stored.length (moves.flatMap Move.written).length
  flushRoom : Suffices s.flushRoom s.flushes (moves.countP Move.isFlush)

variable {s : Sink} {moves rest : List Move} {bytes : Bytes}

/-- A sink stores what the moves write. -/
theorem stored_after (s : Sink) (moves : List Move) :
    (s.after moves).stored = s.stored ++ moves.flatMap Move.written := by
  have hkept : ∀ move : Move, move.calls.flatMap Call.kept = move.written := by
    intro move
    cases move with
    | write bytes => cases bytes <;> simp [Move.calls, Move.written, Call.kept]
    | _ => rfl
  simp only [after, stored, List.flatMap_append, List.flatMap_assoc, hkept]

/-- A sink counts the flushes of the moves. -/
theorem flushes_after (s : Sink) (moves : List Move) :
    (s.after moves).flushes = s.flushes + moves.countP Move.isFlush := by
  have hcount : (moves.flatMap Move.calls).count (.flush true) = moves.countP Move.isFlush := by
    induction moves with
    | nil => rfl
    | cons move moves ih =>
      rw [List.flatMap_cons, List.count_append, ih, List.countP_cons, Nat.add_comm]
      congr 1
      cases move with
      | write bytes => cases bytes <;> simp [Move.calls, Move.isFlush]
      | _ => rfl
  simp only [after, flushes, List.count_append, hcount]

theorem after_append (s : Sink) (moves rest : List Move) :
    s.after (moves ++ rest) = (s.after moves).after rest := by
  simp only [after, List.flatMap_append, List.append_assoc]

/-- What is asked by moves one after another is asked of the sink as the first ones leave it. -/
theorem holds_append : s.Holds (moves ++ rest) ↔ s.Holds moves ∧ (s.after moves).Holds rest := by
  -- the limits are those of the sink; only what has been used of them grows
  have hroom : (s.after moves).room = s.room := rfl
  have hflushRoom : (s.after moves).flushRoom = s.flushRoom := rfl
  constructor
  · rintro ⟨h, h'⟩
    rw [List.flatMap_append, List.length_append, suffices_add] at h
    rw [List.countP_append, suffices_add] at h'
    refine ⟨⟨h.1, h'.1⟩, ⟨?_, ?_⟩⟩
    · rw [hroom, stored_after, List.length_append]
      exact h.2
    · rw [hflushRoom, flushes_after]
      exact h'.2
  · rintro ⟨⟨h, h'⟩, ⟨hrest, hrest'⟩⟩
    rw [hroom, stored_after, List.length_append] at hrest
    rw [hflushRoom, flushes_after] at hrest'
    refine ⟨?_, ?_⟩
    · rw [List.flatMap_append, List.length_append, suffices_add]
      exact ⟨h, hrest⟩
    · rw [List.countP_append, suffices_add]
      exact ⟨h', hrest'⟩

/-- A sink holds a write when there is room for it. -/
theorem holds_write :
    s.Holds [.write bytes] ↔ Suffices s.room s.stored.length bytes.length := by
  refine ⟨fun h => by simpa [Move.written] using h.room, fun h => ⟨?_, suffices_zero⟩⟩
  simpa [Move.written] using h

theorem holds_flush : s.Holds [.flush] ↔ Suffices s.flushRoom s.flushes 1 :=
  ⟨fun h => h.flushRoom, fun h => ⟨suffices_zero, h⟩⟩

/-- Nothing is refused when there is room. -/
theorem accept_snd_eq_nil :
    (s.accept bytes).2 = [] ↔ Suffices s.room s.stored.length bytes.length := by
  unfold accept
  cases s.room with
  | none => simp [Suffices]
  | some n =>
    simp only [List.splitAt_eq, List.drop_eq_nil_iff, Suffices, Option.some.injEq, forall_eq']
    omega

/-- A write is kept whole, or only its beginning is, and then it has failed. -/
theorem write_cases (s : Sink) (bytes : Bytes) :
    s.Holds [.write bytes] ∧ s.write bytes = (s.after [.write bytes], none) ∨
      ¬ s.Holds [.write bytes] ∧ ∃ kept refused, kept ++ refused = bytes ∧ refused ≠ [] ∧
        s.write bytes = ({ s with calls := s.calls ++ [.write kept refused] }, some reason) := by
  rw [holds_write, ← accept_snd_eq_nil]
  have hparts := s.accept_append bytes
  unfold write
  split
  · next hempty =>
    -- an empty write is not even handed to the sink
    refine .inl ⟨?_, by simp [after, Move.calls, hempty]⟩
    exact (List.append_eq_nil_iff.mp (hparts.trans (List.isEmpty_iff.mp hempty))).2
  · next hne =>
    by_cases hrefused : (s.accept bytes).2 = []
    · have hkept : (s.accept bytes).1 = bytes := by simpa [hrefused] using hparts
      exact .inl ⟨hrefused, by simp [ask, after, Move.calls, hne, hrefused, hkept, Call.failed]⟩
    · exact .inr ⟨hrefused, _, _, hparts, hrefused, by simp [ask, hrefused, Call.failed]⟩

/-- A flush is done, or it is refused. -/
theorem flush_cases (s : Sink) :
    s.Holds [.flush] ∧ s.flush = (s.after [.flush], none) ∨
      ¬ s.Holds [.flush] ∧
        s.flush = ({ s with calls := s.calls ++ [.flush false] }, some reason) := by
  have hcan : s.canFlush = true ↔ s.Holds [.flush] := by
    rw [holds_flush, canFlush, Suffices]
    cases s.flushRoom with
    | none => simp
    | some n =>
      rw [decide_eq_true_iff, ← Nat.succ_le_iff]
      simp
  unfold flush
  cases h : s.canFlush with
  | true => exact .inl ⟨hcan.mp h, by simp [ask, after, Move.calls, Call.failed]⟩
  | false => exact .inr ⟨by simp [← hcan, h], by simp [ask, Call.failed]⟩

/-- A sink with the limits of the first fails before it has kept and done what the other has. -/
def Overrun (s full : Sink) : Prop :=
  (∃ n, s.room = some n ∧ n < full.stored.length) ∨ ∃ n, s.flushRoom = some n ∧ n < full.flushes

theorem holds_unlimited (s : Sink) (moves : List Move) : s.unlimited.Holds moves :=
  ⟨fun _ h => (nomatch h), fun _ h => (nomatch h)⟩

/-- Moves that write and flush are too much for a sink exactly if they run over its limits. -/
theorem holds_iff_not_overrun (hwrite : moves.flatMap Move.written ≠ []) (hflush : .flush ∈ moves) :
    s.Holds moves ↔ ¬ s.Overrun (s.unlimited.after moves) := by
  have hbytes : 0 < (moves.flatMap Move.written).length := List.length_pos_iff.mpr hwrite
  have hflushes : 0 < moves.countP Move.isFlush := List.countP_pos_iff.mpr ⟨_, hflush, rfl⟩
  -- a sink may be over a limit that the moves do not use; these use both
  have hlimit {limit : Option Nat} {used more : Nat} (hmore : 0 < more) :
      Suffices limit used more ↔ ¬ ∃ n, limit = some n ∧ n < used + more := by
    simp only [Suffices, not_exists, not_and, Nat.not_lt, Nat.ne_of_gt hmore, false_or]
  rw [Overrun, not_or, stored_after, flushes_after, List.length_append]
  exact ⟨fun h => ⟨(hlimit hbytes).mp h.room, (hlimit hflushes).mp h.flushRoom⟩,
    fun h => ⟨(hlimit hbytes).mpr h.1, (hlimit hflushes).mpr h.2⟩⟩

end Sink

/-! ## Moves -/

namespace Runner

variable {r : Runner} {move : Move} {moves rest : List Move}

/-- All moves have been made. -/
structure Made (r : Runner) (moves : List Move) (r' : Runner) : Prop where
  sink : r'.sink = r.sink.after moves
  executed : r'.executed = r.executed ++ moves.filterMap Move.executed?
  summary : r'.summary = (moves.filterMap Move.verdict?).foldl Summary.count r.summary

theorem Made.nil (r : Runner) : Made r [] r := ⟨by simp [Sink.after], by simp, rfl⟩

theorem Made.append {r' r'' : Runner} (h : Made r moves r') (hrest : Made r' rest r'') :
    Made r (moves ++ rest) r'' where
  sink := by rw [hrest.sink, h.sink, Sink.after_append]
  executed := by rw [hrest.executed, h.executed, List.filterMap_append, List.append_assoc]
  summary := by rw [hrest.summary, h.summary, List.filterMap_append, List.foldl_append]

/-- The last call has failed; of the move that made it the sink has kept the beginning. -/
structure Refused (r : Runner) (move : Move) (r' : Runner) : Prop where
  sink : ∃ call : Call, call.failed = true ∧ call.kept <+: move.written ∧
    r'.sink = { r.sink with calls := r.sink.calls ++ [call] }
  executed : r'.executed = r.executed
  summary : r'.summary = r.summary

/-- A move is made if the sink can hold it, and else it fails. -/
theorem make_cases (r : Runner) (move : Move) :
    r.sink.Holds [move] ∧ (r.make move).2 = none ∧ Made r [move] (r.make move).1 ∨
      ¬ r.sink.Holds [move] ∧ (r.make move).2 = some (.sink Sink.reason) ∧
        Refused r move (r.make move).1 := by
  cases move with
  | write bytes =>
    rcases r.sink.write_cases bytes with ⟨hholds, h⟩ | ⟨hholds, kept, refused, hparts, hne, h⟩
    · refine .inl ⟨hholds, ?_, ⟨?_, ?_, ?_⟩⟩ <;>
        simp [make, onSink, h, List.filterMap_cons, Move.executed?, Move.verdict?]
    · refine .inr ⟨hholds, by simp [make, onSink, h], ⟨⟨.write kept refused, ?_, ?_, ?_⟩, rfl, rfl⟩⟩
      · simpa [Call.failed] using hne
      · exact ⟨refused, hparts⟩
      · simp [make, onSink, h]
  | flush =>
    rcases r.sink.flush_cases with ⟨hholds, h⟩ | ⟨hholds, h⟩
    · refine .inl ⟨hholds, ?_, ⟨?_, ?_, ?_⟩⟩ <;>
        simp [make, onSink, h, List.filterMap_cons, Move.executed?, Move.verdict?]
    · refine .inr ⟨hholds, by simp [make, onSink, h], ⟨⟨.flush false, rfl, ?_, ?_⟩, rfl, rfl⟩⟩
      · exact List.nil_prefix
      · simp [make, onSink, h]
  | execute | count | note =>
    -- nothing is asked of the sink
    refine .inl ⟨⟨Sink.suffices_zero, Sink.suffices_zero⟩, rfl, ⟨?_, ?_, ?_⟩⟩ <;>
      simp [make, Sink.after, Move.calls, List.filterMap_cons, Move.executed?, Move.verdict?]

/-- A sink that refused a move has stored the front of what was to be written. -/
theorem Refused.stored {before rest : List Move} {r' r'' : Runner} (h : Refused r' move r'')
    (hmade : Made r before r') :
    r''.sink.stored <+: r.sink.stored ++ (before ++ move :: rest).flatMap Move.written := by
  obtain ⟨call, -, hkept, hsink⟩ := h.sink
  have hstored : r''.sink.stored =
      r.sink.stored ++ (before.flatMap Move.written ++ call.kept) := by
    rw [← List.append_assoc, ← Sink.stored_after, ← hmade.sink, hsink]
    simp [Sink.stored]
  rw [hstored, List.flatMap_append, List.flatMap_cons, List.prefix_append_right_inj,
    List.prefix_append_right_inj]
  exact hkept.trans (List.prefix_append ..)

/-- All moves are made if the sink can hold them. -/
theorem perform_holds (h : r.sink.Holds moves) :
    (r.perform moves).2 = none ∧ Made r moves (r.perform moves).1 := by
  induction moves generalizing r with
  | nil => exact ⟨rfl, .nil r⟩
  | cons move rest ih =>
    obtain ⟨hmove, hrest⟩ := Sink.holds_append.mp (show r.sink.Holds ([move] ++ rest) from h)
    rcases r.make_cases move with ⟨-, hnone, hmade⟩ | ⟨hno, -⟩
    · rw [← hmade.sink] at hrest
      obtain ⟨hok, hmades⟩ := ih hrest
      rw [perform_cons, hnone]
      exact ⟨hok, hmade.append hmades⟩
    · exact absurd hmove hno

/-- If it cannot, the run stops at the first move that the sink does not hold. -/
theorem perform_refused (h : ¬ r.sink.Holds moves) : ∃ before move rest,
    moves = before ++ move :: rest ∧ (r.perform moves).2 = some (.sink Sink.reason) ∧
      ∃ r', Made r before r' ∧ Refused r' move (r.perform moves).1 := by
  induction moves generalizing r with
  | nil => exact absurd ⟨Sink.suffices_zero, Sink.suffices_zero⟩ h
  | cons move rest ih =>
    rcases r.make_cases move with ⟨hmove, hnone, hmade⟩ | ⟨-, hsome, hrefused⟩
    · -- the first move is made, so it is the rest that is too much
      have hrest : ¬ (r.make move).1.sink.Holds rest := by
        rw [hmade.sink]
        exact fun hrest => h (Sink.holds_append.mpr ⟨hmove, hrest⟩)
      obtain ⟨before, stop, after, rfl, herror, r', hr', hstop⟩ := ih hrest
      rw [perform_cons, hnone]
      exact ⟨move :: before, stop, after, rfl, herror, r', hmade.append hr', hstop⟩
    · rw [perform_cons, hsome]
      exact ⟨[], move, rest, rfl, rfl, r, .nil r, hrefused⟩

/-- As many moves are made as the sink can hold. -/
theorem perform_made (r : Runner) (moves : List Move) : ∃ made, made <+: moves ∧
    (r.perform moves).1.executed = r.executed ++ made.filterMap Move.executed? ∧
      (r.sink.after made).calls <+: (r.perform moves).1.sink.calls := by
  by_cases h : r.sink.Holds moves
  · obtain ⟨-, hmade⟩ := perform_holds h
    exact ⟨moves, List.prefix_refl _, hmade.executed, hmade.sink ▸ List.prefix_refl _⟩
  · obtain ⟨made, stop, rest, rfl, -, r', hmade, hstop⟩ := perform_refused h
    obtain ⟨call, -, -, hsink⟩ := hstop.sink
    refine ⟨made, List.prefix_append .., by rw [hstop.executed, hmade.executed], ?_⟩
    rw [hsink, hmade.sink]
    exact List.prefix_append ..

end Runner

/-! ## Suites -/

/-- What a sink is asked by a block that it keeps. -/
def Marker.calls (m : Marker) : List Call :=
  m.block.map (fun text => .write (Bytes.ofString text) []) ++ [.flush true]

theorem Marker.calls_moves (m : Marker) : m.moves.flatMap Move.calls = m.calls := by
  have hseparator : Bytes.ofString separator ≠ [] := by simp [separator_bytes]
  have hfeed : Bytes.ofString "\n" ≠ [] := by
    rw [Bytes.ofString_eq]
    decide
  have hline : Bytes.ofString m.line ≠ [] :=
    fun h => not_isMarkerLine_nil (h ▸ m.isMarkerLine_line)
  simp [moves, calls, block, Move.calls, hseparator, hfeed, hline]

theorem Marker.executed_moves (m : Marker) : m.moves.filterMap Move.executed? = [] := by
  simp [moves, block, Move.executed?]

namespace Suite

/-- The execution of the command of a suite. -/
def execution (s : Suite) (m : Machine) : Execution := ⟨m.name, s.command, s.user, s.timeout⟩

/-- The marker that opens the suite, and the one that opens its testcase. -/
def openings (s : Suite) (times : Runner.SuiteTimes) : List Marker :=
  [{ keyword := .testsuite, time := times.opened, id := s.group, text := s.group },
    { keyword := .testcase, time := times.testcase.started, text := s.case }]

end Suite

namespace Runner

/-- A suite executes its command once, behind the two markers that open it. -/
theorem suiteMoves_eq (m : Machine) (s : Suite) (before : Summary) (times : SuiteTimes) :
    ∃ opening closing,
      suiteMoves m s before times = opening ++ .execute (s.execution m) :: closing ∧
        opening.filterMap Move.executed? = [] ∧ closing.filterMap Move.executed? = [] ∧
          opening.flatMap Move.calls = (s.openings times).flatMap Marker.calls := by
  let status := m.execute (s.execution m)
  -- what is written before the command runs, and all that comes after it
  refine ⟨testsuiteMoves s.group times.opened ++
      Marker.moves { keyword := .testcase, time := times.testcase.started, text := s.case } ++
        [info "Running testcase" [("host", .ofString m.name), ("testcase", .ofString s.case),
          ("timeout", .ofString s.timeout.text)]],
    (m.notes (s.execution m)).map .note ++
      [.write status.output, .flush, .count status.succeeded] ++
      (if status.succeeded then [] else [.note (failureNote m.name s.case status)]) ++
        Marker.moves { keyword := .verdict status.succeeded, time := times.testcase.ended } ++
          endsuiteMoves (before.count status.succeeded) times.closed, ?_, ?_, ?_, ?_⟩
  · simp only [suiteMoves, testcaseMoves, List.append_assoc, List.cons_append, List.nil_append]
    rfl
  · simp [testsuiteMoves, info, Marker.executed_moves, List.filterMap_cons, Move.executed?]
  · have hnote : (if status.succeeded then []
        else [Move.note (failureNote m.name s.case status)]).filterMap Move.executed? = [] := by
      split <;> rfl
    simp [endsuiteMoves, info, hnote, Marker.executed_moves, List.filterMap_cons, Move.executed?]
  · simp [testsuiteMoves, info, Suite.openings, Marker.calls_moves, Move.calls]

/-- If only some of the moves are made, the command is executed once at most, and then the sink has
kept both markers. -/
theorem executed_of_prefix {m : Machine} {s : Suite} {before : Summary} {times : SuiteTimes}
    {made : List Move} (h : made <+: suiteMoves m s before times) :
    made.filterMap Move.executed? = [] ∨
      made.filterMap Move.executed? = [s.execution m] ∧
        (s.openings times).flatMap Marker.calls <+: made.flatMap Move.calls := by
  obtain ⟨opening, closing, hmoves, hopening, hclosing, hcalls⟩ := suiteMoves_eq m s before times
  rw [hmoves] at h
  -- the suite stops before its command, or the command is among the moves that are made
  rcases List.prefix_or_prefix_of_prefix h (List.prefix_append ..) with hearly | ⟨more, rfl⟩
  · exact .inl (List.prefix_nil.mp (hopening ▸ hearly.filterMap _))
  · rw [List.prefix_append_right_inj, List.prefix_cons_iff] at h
    rcases h with rfl | ⟨late, rfl, hlate⟩
    · exact .inl (by simpa using hopening)
    · have hnone : late.filterMap Move.executed? = [] :=
        List.prefix_nil.mp (hclosing ▸ hlate.filterMap _)
      refine .inr ⟨by simp [hopening, hnone, Move.executed?], ?_⟩
      rw [List.flatMap_append, hcalls]
      exact List.prefix_append ..

theorem written_suiteMoves_ne_nil (m : Machine) (s : Suite) (before : Summary)
    (times : SuiteTimes) : (suiteMoves m s before times).flatMap Move.written ≠ [] := by
  have hmem : .write (Bytes.ofString Marker.separator) ∈ suiteMoves m s before times := by
    simp [suiteMoves, testsuiteMoves, Marker.moves, Marker.block]
  intro hnil
  have hempty := List.flatMap_eq_nil_iff.mp hnil _ hmem
  simp [Move.written, Marker.separator_bytes] at hempty

theorem flush_mem_suiteMoves (m : Machine) (s : Suite) (before : Summary) (times : SuiteTimes) :
    .flush ∈ suiteMoves m s before times := by
  simp [suiteMoves, testsuiteMoves, Marker.moves]

/-- The runner with a sink that has been asked the same and has no limits. -/
def unlimited (r : Runner) : Runner := { r with sink := r.sink.unlimited }

/-- The runner of a suite that has been stopped after some of its moves. -/
def stage (r : Runner) (m : Machine) (s : Suite) (times : SuiteTimes) (moves : Nat) : Runner :=
  ({ r with user := s.user }.perform ((suiteMoves m s r.summary times).take moves)).1

/-- A stage of a suite has executed its command once at most, and only behind the markers that open
it. -/
theorem executed_stage (r : Runner) (m : Machine) (s : Suite) (times : SuiteTimes) (moves : Nat) :
    (r.stage m s times moves).executed = r.executed ∨
      (r.stage m s times moves).executed = r.executed ++ [s.execution m] ∧
        r.sink.calls ++ (s.openings times).flatMap Marker.calls <+:
          (r.stage m s times moves).sink.calls := by
  obtain ⟨made, hmade, hcommands, hcalls⟩ := perform_made { r with user := s.user }
    ((suiteMoves m s r.summary times).take moves)
  rcases executed_of_prefix (hmade.trans (List.take_prefix ..)) with hnone | ⟨hone, hopenings⟩
  · exact .inl (by simpa [stage, hnone] using hcommands)
  · refine .inr ⟨by simpa [stage, hone] using hcommands, ?_⟩
    exact ((List.prefix_append_right_inj _).mpr hopenings).trans hcalls

variable {r : Runner} {s : Suite} {machines : PerRole Machine} {m : Machine} {times : SuiteTimes}

/-- A sink with room for the suite lets it run to its end. -/
theorem runSuite_holds (hm : machines s.role = some m)
    (h : r.sink.Holds (suiteMoves m s r.summary times)) :
    (r.runSuite s machines times).2 =
        .ok (r.summary.count (m.execute (s.execution m)).succeeded) ∧
      Made { r with user := s.user } (suiteMoves m s r.summary times)
        (r.runSuite s machines times).1 := by
  obtain ⟨hnone, hmade⟩ := perform_holds (r := { r with user := s.user }) h
  rw [runSuite_fst r times hm]
  refine ⟨?_, hmade⟩
  have hsummary := hmade.summary
  rw [verdicts_suite] at hsummary
  simp only [runSuite, machineOf, hm]
  split
  · next hr => simpa [hr, Suite.execution] using hsummary
  · next hr => simp [hr] at hnone

/-- A sink without room for the suite makes it fail. -/
theorem runSuite_refused (hm : machines s.role = some m)
    (h : ¬ r.sink.Holds (suiteMoves m s r.summary times)) :
    (r.runSuite s machines times).2 = .error (.sink Sink.reason) ∧
      ∃ before move rest, suiteMoves m s r.summary times = before ++ move :: rest ∧
        ∃ r', Made { r with user := s.user } before r' ∧
          Refused r' move (r.runSuite s machines times).1 := by
  obtain ⟨before, move, rest, hmoves, herror, hstop⟩ :=
    perform_refused (r := { r with user := s.user }) h
  rw [runSuite_fst r times hm]
  refine ⟨?_, before, move, rest, hmoves, hstop⟩
  simp only [runSuite, machineOf, hm]
  split <;> simp_all

/-- What becomes of a suite on the sink of a runner, next to what becomes of it on a sink without
limits. -/
structure Truncated (r : Runner) (s : Suite) (machines : PerRole Machine) (m : Machine)
    (times : SuiteTimes) : Prop where
  /-- Without limits the suite comes to its end. -/
  whole : (r.unlimited.runSuite s machines times).2 =
    .ok (r.summary.count (m.execute (s.execution m)).succeeded)
  fails : (r.runSuite s machines times).2 = .error (.sink Sink.reason) ↔
    r.sink.Overrun (r.unlimited.runSuite s machines times).1.sink
  succeeds : ¬ r.sink.Overrun (r.unlimited.runSuite s machines times).1.sink →
    (r.runSuite s machines times).2 = (r.unlimited.runSuite s machines times).2 ∧
      (r.runSuite s machines times).1.sink.stored =
        (r.unlimited.runSuite s machines times).1.sink.stored
  stored : (r.runSuite s machines times).1.sink.stored <+:
    (r.unlimited.runSuite s machines times).1.sink.stored
  /-- The first call that fails is the last one. -/
  stops : r.sink.Overrun (r.unlimited.runSuite s machines times).1.sink →
    ∃ done call, (r.runSuite s machines times).1.sink.calls = r.sink.calls ++ done ++ [call] ∧
      (∀ c ∈ done, c.failed = false) ∧ call.failed = true
  /-- The command is executed once at most, and not before the sink has done what the two markers
  before it have asked. -/
  executed : ∀ moves, (r.stage m s times moves).executed = r.executed ∨
    (r.stage m s times moves).executed = r.executed ++ [s.execution m] ∧
      r.sink.calls ++ (s.openings times).flatMap Marker.calls <+:
        (r.stage m s times moves).sink.calls
  ends : (r.runSuite s machines times).1 =
    r.stage m s times (suiteMoves m s r.summary times).length

/-- **A suite on a sink that fails** stops there: the sink has kept the beginning of what the suite
writes, and is asked no more. -/
theorem runSuite_truncated (r : Runner) (times : SuiteTimes) (hm : machines s.role = some m) :
    Truncated r s machines m times := by
  -- without limits the suite runs to its end, and all its bytes are stored
  obtain ⟨hwhole, hfull⟩ := runSuite_holds (r := r.unlimited) hm (r.sink.holds_unlimited _)
  have hsink : (r.unlimited.runSuite s machines times).1.sink =
      r.sink.unlimited.after (suiteMoves m s r.summary times) := hfull.sink
  have hstored : (r.unlimited.runSuite s machines times).1.sink.stored =
      r.sink.stored ++ (suiteMoves m s r.summary times).flatMap Move.written := by
    rw [hsink, Sink.stored_after]
    rfl
  have hoverrun : r.sink.Holds (suiteMoves m s r.summary times) ↔
      ¬ r.sink.Overrun (r.unlimited.runSuite s machines times).1.sink := by
    rw [hsink]
    exact Sink.holds_iff_not_overrun (written_suiteMoves_ne_nil m s _ times)
      (flush_mem_suiteMoves ..)
  have hends : (r.runSuite s machines times).1 =
      r.stage m s times (suiteMoves m s r.summary times).length := by
    rw [runSuite_fst r times hm, stage, List.take_length]
  -- the sink holds all the moves, or one of them is the first to be refused
  by_cases hholds : r.sink.Holds (suiteMoves m s r.summary times)
  · have hwithin := hoverrun.mp hholds
    obtain ⟨hok, hmade⟩ := runSuite_holds hm hholds
    have hsame : (r.runSuite s machines times).1.sink.stored =
        (r.unlimited.runSuite s machines times).1.sink.stored := by
      rw [hstored, hmade.sink, Sink.stored_after]
    exact
      { whole := hwhole
        fails := iff_of_false (by simp [hok]) hwithin
        succeeds := fun _ => ⟨hok.trans hwhole.symm, hsame⟩
        stored := hsame ▸ List.prefix_refl _
        stops := fun h => absurd h hwithin
        executed := r.executed_stage m s times
        ends := hends }
  · have hover := not_not.mp (mt hoverrun.mpr hholds)
    obtain ⟨herror, before, move, rest, hmoves, r', hmade, hstop⟩ := runSuite_refused hm hholds
    obtain ⟨call, hfailed, -, hcalls⟩ := hstop.sink
    exact
      { whole := hwhole
        fails := iff_of_true herror hover
        succeeds := fun h => absurd hover h
        stored := by
          rw [hstored, hmoves]
          exact Refused.stored (r := { r with user := s.user }) hstop hmade
        stops := fun _ => ⟨before.flatMap Move.calls, call, by rw [hcalls, hmade.sink]; rfl,
          Move.failed_calls before, hfailed⟩
        executed := r.executed_stage m s times
        ends := hends }

/-- The sink fails within the marker that opens the testcase, so nothing is executed. -/
theorem runSuite_truncated_opening :
    let r : Runner := { sink := { room := some 250 } }
    let m := printing [111, 107, 10]
    let run := r.runSuite {} (fun _ => some m) default
    Truncated r {} (fun _ => some m) m default ∧ run.2 = .error (.sink Sink.reason) ∧
      run.1.sink.stored.length = 250 ∧ run.1.sink.flushes = 1 ∧ run.1.executed = [] := by
  intro r m run
  have htruncated : Truncated r {} (fun _ => some m) m default := r.runSuite_truncated default rfl
  exact ⟨htruncated, htruncated.fails.mpr (.inl ⟨250, rfl, by decide +kernel⟩),
    by decide +kernel, by decide +kernel, by decide +kernel⟩

end Runner

end LivePatching.Junit
