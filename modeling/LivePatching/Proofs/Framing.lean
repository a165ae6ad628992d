import Mathlib.Tactic.Common
import Mathlib.Tactic.FinCases
import LivePatching.Proofs.Stream

/-!
# The lines of a run

The lines of a stream are those of its testcases. A block that is written at the start of a line
stands in three lines of its own; one that follows an output without a last line feed does not: its
first separator prolongs the last line of the output.

* `Testcase.lines_pieces`: the lines of a testcase, and those of what follows it.
* `lines_pieces`: the lines of a run.
* `framed_iff`: a block is framed if and only if no line is open before it.
* `Runner.markers_framed_iff`: all blocks of a run are framed if and only if every output is empty
  or ends with a line feed.
-/

namespace LivePatching.Junit

open Bytes (lineFeed)

/-! ## The lines of a testcase -/

namespace Testcase

/-- The texts in the markers have no line feed. -/
structure OneLine (t : Testcase) : Prop where
  case : '\n' ∉ t.case.toList
  group : ∀ c, t.cover = some c → '\n' ∉ c.group.toList

/-- The lines of a testcase without its suite, where the closing marker goes on with an unfinished
line of the output. -/
def bodyLines (t : Testcase) : List Bytes :=
  t.opening.linesAfter [] ++ t.status.output.wholeLines ++
    t.closing.linesAfter t.status.output.openLine

/-- The lines of a testcase as they stand in the stream. -/
def lines (t : Testcase) : List Bytes :=
  match t.cover with
  | none => t.bodyLines
  | some c => c.opening.linesAfter [] ++ t.bodyLines ++ c.closing.linesAfter []

variable {t : Testcase}

theorem oneLine_opening (h : t.OneLine) : t.opening.OneLine := by
  simp [Marker.OneLine, opening, h.case]

theorem oneLine_closing (t : Testcase) : t.closing.OneLine := by
  simp [Marker.OneLine, closing]

theorem oneLine_cover (h : t.OneLine) {c : Cover} (hc : t.cover = some c) :
    c.opening.OneLine ∧ c.closing.OneLine := by
  simp [Marker.OneLine, Cover.opening, Cover.closing, h.group c hc]

/-- The lines of a testcase without its suite. -/
theorem lines_body (h : t.OneLine) (after : Bytes) :
    Bytes.lines (t.body.flatMap Piece.bytes ++ after) = t.bodyLines ++ after.lines := by
  have hopening := Marker.lines_bytes (oneLine_opening h) []
    (t.status.output ++ t.closing.bytes ++ after)
  rw [Marker.lines_bytes (oneLine_closing t)] at hopening
  simpa [body, bodyLines, Piece.bytes] using hopening

/-- The lines of a testcase come first in a stream that begins with it. -/
theorem lines_pieces (h : t.OneLine) (after : Bytes) :
    Bytes.lines (t.pieces.flatMap Piece.bytes ++ after) = t.lines ++ after.lines := by
  cases hc : t.cover with
  | none => simpa [pieces, lines, hc] using lines_body h after
  | some c =>
    obtain ⟨hopening, hclosing⟩ := oneLine_cover h hc
    have hbody := lines_body h (c.closing.bytes ++ after)
    have hend := Marker.lines_bytes hclosing [] after
    have hall := Marker.lines_bytes hopening []
      (t.body.flatMap Piece.bytes ++ (c.closing.bytes ++ after))
    simp only [List.nil_append, Bytes.wholeLines_nil, Bytes.openLine_nil] at hend hall
    rw [hbody, hend] at hall
    simpa [pieces, lines, hc, Piece.bytes] using hall

end Testcase

/-- The lines of a run. -/
theorem lines_pieces {user : String} {tasks : List Task}
    (h : ∀ t ∈ testcases user tasks, t.OneLine) :
    Bytes.lines ((pieces user tasks).flatMap Piece.bytes) =
      (testcases user tasks).flatMap Testcase.lines ++ [[]] := by
  unfold pieces
  generalize testcases user tasks = ts at h
  induction ts with
  | nil => rfl
  | cons t ts ih =>
    obtain ⟨ht, hts⟩ := List.forall_mem_cons.mp h
    rw [List.flatMap_cons, List.flatMap_append, Testcase.lines_pieces ht, ih hts,
      List.flatMap_cons, List.append_assoc]

/-! ## Frames -/

/-- The block of a marker that is written after some bytes is three lines of the stream. -/
def Framed (stream before : Bytes) (m : Marker) : Prop :=
  before.wholeLines ++ [Bytes.ofString Marker.separator, Bytes.ofString m.line,
    Bytes.ofString Marker.separator] <+: stream.wholeLines

/-- A marker is framed exactly where it begins a line. -/
theorem framed_iff {m : Marker} (h : m.OneLine) (before after : Bytes) :
    Framed (before ++ m.bytes ++ after) before m ↔ before.openLine = [] := by
  rw [Framed, Bytes.wholeLines_of_lines (Marker.lines_bytes h before after), List.append_assoc,
    List.prefix_append_right_inj]
  simp only [Marker.linesAfter, List.cons_append, List.cons_prefix_cons, List.nil_append,
    List.nil_prefix, List.self_eq_append_left, and_true]

/-- A stream of pieces that each end their last line ends its last line. -/
theorem openLine_pieces {ps : List Piece} (h : ∀ p ∈ ps, p.bytes.openLine = []) :
    Bytes.openLine (ps.flatMap Piece.bytes) = [] := by
  induction ps with
  | nil => rfl
  | cons p ps ih =>
    obtain ⟨hp, hps⟩ := List.forall_mem_cons.mp h
    rw [List.flatMap_cons, Bytes.openLine_append hp, ih hps]

/-- Behind a marker a new line begins. -/
theorem openLine_append_marker (b : Bytes) (m : Marker) : Bytes.openLine (b ++ m.bytes) = [] := by
  rw [Marker.bytes_eq, ← List.append_assoc, Bytes.openLine_append_cons,
    Bytes.openLine_append_cons, Bytes.openLine_append_cons, Bytes.openLine_nil]

namespace Testcase

variable {t : Testcase}

/-- Around its body a testcase has nothing but markers. -/
theorem mem_pieces {p : Piece} (h : p ∈ t.pieces) :
    p ∈ t.body ∨ ∃ c, t.cover = some c ∧ (p = .marker c.opening ∨ p = .marker c.closing) := by
  unfold pieces at h
  split at h
  case h_1 => exact .inl h
  case h_2 c hc =>
    simp only [List.cons_append, List.mem_cons, List.mem_append, List.not_mem_nil, or_false] at h
    rcases h with h | h | h
    · exact .inr ⟨c, hc, .inl h⟩
    · exact .inl h
    · exact .inr ⟨c, hc, .inr h⟩

/-- The markers of a testcase are on one line when its texts are. -/
theorem oneLine_of_mem (h : t.OneLine) {m : Marker} (hm : .marker m ∈ t.pieces) : m.OneLine := by
  rcases mem_pieces hm with hbody | ⟨c, hc, hmarker⟩
  · simp only [body, List.mem_cons, List.not_mem_nil, or_false, reduceCtorEq, false_or,
      Piece.marker.injEq] at hbody
    rcases hbody with rfl | rfl
    · exact oneLine_opening h
    · exact oneLine_closing t
  · simp only [Piece.marker.injEq] at hmarker
    rcases hmarker with rfl | rfl
    · exact (oneLine_cover h hc).1
    · exact (oneLine_cover h hc).2

/-- The only output in a testcase is that of its command. -/
theorem eq_output_of_mem {b : Bytes} (h : .output b ∈ t.pieces) : b = t.status.output := by
  rcases mem_pieces h with hbody | ⟨c, -, hmarker⟩
  · simpa [body] using hbody
  · simp at hmarker

theorem exists_pieces_eq (t : Testcase) : ∃ before after, t.pieces = before ++ t.body ++ after := by
  unfold pieces
  split
  case h_1 => exact ⟨[], [], by simp⟩
  case h_2 c _ => exact ⟨[.marker c.opening], [.marker c.closing], rfl⟩

end Testcase

namespace Runner

/-- A sink without failures stores the pieces of the tasks. -/
theorem stored_after {r : Runner} {tasks : List Task} (hcalls : r.sink.calls = [])
    (hsink : (r.after tasks).sink.Unfailing) :
    (r.after tasks).sink.stored = (pieces r.user tasks).flatMap Piece.bytes := by
  rw [(after_unfailing hsink).1.stored, Sink.stored, hcalls]
  rfl

/-- A block of a run is framed if and only if no line is open where it starts. -/
theorem framed_iff_openLine {r : Runner} {tasks : List Task} (hcalls : r.sink.calls = [])
    (hsink : (r.after tasks).sink.Unfailing)
    (htexts : ∀ t ∈ testcases r.user tasks, t.OneLine) {before after : List Piece} {m : Marker}
    (hpieces : pieces r.user tasks = before ++ .marker m :: after) :
    Framed (r.after tasks).sink.stored (before.flatMap Piece.bytes) m ↔
      Bytes.openLine (before.flatMap Piece.bytes) = [] := by
  -- the marker belongs to a testcase, and so it is one line
  have hmem : .marker m ∈ pieces r.user tasks := by simp [hpieces]
  obtain ⟨t, ht, hm⟩ := List.mem_flatMap.mp hmem
  rw [stored_after hcalls hsink, hpieces, List.flatMap_append, List.flatMap_cons,
    ← List.append_assoc]
  exact framed_iff (Testcase.oneLine_of_mem (htexts t ht) hm) _ _

/-- **The blocks of a run are framed if and only if every output ends its last line.** -/
theorem markers_framed_iff {r : Runner} {tasks : List Task} (hcalls : r.sink.calls = [])
    (hsink : (r.after tasks).sink.Unfailing)
    (htexts : ∀ t ∈ testcases r.user tasks, t.OneLine) :
    (∀ before m after, pieces r.user tasks = before ++ .marker m :: after →
        Framed (r.after tasks).sink.stored (before.flatMap Piece.bytes) m) ↔
      ∀ t ∈ testcases r.user tasks,
        t.status.output = [] ∨ t.status.output.getLast? = some lineFeed := by
  constructor
  · intro h t ht
    -- the block that closes the testcase starts where its output stopped
    obtain ⟨ts, us, hts⟩ := List.append_of_mem ht
    obtain ⟨before, after, hbody⟩ := t.exists_pieces_eq
    have hpieces : pieces r.user tasks =
        (ts.flatMap Testcase.pieces ++ before ++ [.marker t.opening, .output t.status.output]) ++
          .marker t.closing :: (after ++ us.flatMap Testcase.pieces) := by
      simp [pieces, hts, hbody, Testcase.body]
    have hopen := (framed_iff_openLine hcalls hsink htexts hpieces).mp (h _ _ _ hpieces)
    rw [← Bytes.openLine_eq_nil, ← hopen, List.flatMap_append]
    simp only [List.flatMap_cons, List.flatMap_nil, List.append_nil, Piece.bytes,
      ← List.append_assoc]
    exact (Bytes.openLine_append (openLine_append_marker _ _) _).symm
  · intro h before m after hpieces
    refine (framed_iff_openLine hcalls hsink htexts hpieces).mpr (openLine_pieces fun p hp => ?_)
    have hmem : p ∈ pieces r.user tasks := hpieces ▸ List.mem_append_left _ hp
    obtain ⟨t, ht, hpt⟩ := List.mem_flatMap.mp hmem
    cases p with
    | marker m => exact openLine_append_marker [] m
    | output b => exact Bytes.openLine_eq_nil.mpr (Testcase.eq_output_of_mem hpt ▸ h t ht)

/-- A machine whose commands succeed with one output. -/
def printing (output : Bytes) : Machine where
  name := "scripted"
  execute := fun _ => { output }

/-- A testcase with one line of output, `abc`, and one without any. -/
def finishedRun : List Task :=
  [.testcase (printing [97, 98, 99, 10]) "true" "case" defaultTimeout default,
    .testcase (printing []) "true" "case" defaultTimeout default]

theorem markers_framed_iff_finished :
    let r : Runner := { sink := {} }
    ∀ before m after, pieces r.user finishedRun = before ++ .marker m :: after →
      Framed (r.after finishedRun).sink.stored (before.flatMap Piece.bytes) m := by
  intro r
  refine (markers_framed_iff rfl (after_unlimited rfl rfl rfl finishedRun) ?_).mpr ?_
  · intro t ht
    fin_cases ht <;> exact ⟨by simp, by simp⟩
  · intro t ht
    fin_cases ht <;> decide

/-- The output `abc` without a line feed: the block that closes the testcase starts behind it. -/
theorem markers_not_framed :
    let r : Runner := { sink := {} }
    let tasks := [.testcase (printing [97, 98, 99]) "true" "case" defaultTimeout default]
    (r.after tasks).sink.Unfailing ∧ (∀ t ∈ testcases r.user tasks, t.OneLine) ∧
      ¬ ∀ before m after, pieces r.user tasks = before ++ .marker m :: after →
        Framed (r.after tasks).sink.stored (before.flatMap Piece.bytes) m := by
  intro r tasks
  have hsink : (r.after tasks).sink.Unfailing := after_unlimited rfl rfl rfl tasks
  have htexts : ∀ t ∈ testcases r.user tasks, t.OneLine := by
    intro t ht
    fin_cases ht
    exact ⟨by simp, by simp⟩
  refine ⟨hsink, htexts, fun h => ?_⟩
  let t : Testcase := ⟨none, "case", default, { output := [97, 98, 99] }⟩
  have hpieces : pieces r.user tasks =
      [.marker t.opening, .output t.status.output] ++ .marker t.closing :: [] := rfl
  have hopen : Bytes.openLine ([] ++ t.opening.bytes ++ [97, 98, 99]) = [] :=
    (framed_iff_openLine rfl hsink htexts hpieces).mp (h _ _ _ hpieces)
  rw [Bytes.openLine_append (openLine_append_marker [] t.opening)] at hopen
  exact absurd hopen (by decide)

end Runner

end LivePatching.Junit
