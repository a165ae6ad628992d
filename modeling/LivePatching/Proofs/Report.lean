import LivePatching.Proofs.Framing

/-!
# What a stream reports

The words of the marker lines of a stream say which testcases ran and how they ended. If no output
has a marker line of its own, they say what the runner has counted and answered.

* `Testcase.keywords`: the markers that a testcase calls for.
* `Runner.words_after`: the words of a run are those of its testcases.
* `Runner.summary_after`: the counts of a run are those of its words.
* `Runner.stream_reports`: the stream, the counts and the answers of a run agree.
-/

namespace LivePatching.Junit

/-! ## The words of a testcase -/

namespace Testcase

/-- A testcase has passed if all three statuses are zero. -/
def Passed (t : Testcase) : Prop :=
  t.status.localCode = 0 ∧ t.status.remoteCode = 0 ∧ t.status.commandCode = 0

instance (t : Testcase) : Decidable t.Passed := inferInstanceAs (Decidable (_ ∧ _))

/-- The keyword that closes a testcase. -/
def verdict (t : Testcase) : Keyword := if t.Passed then .success else .failure

/-- The keywords of a testcase's markers, in order. -/
def keywords (t : Testcase) : List Keyword :=
  if t.cover.isSome then [.testsuite, .testcase, t.verdict, .endsuite] else [.testcase, t.verdict]

/-- The output of the command has no marker line of its own. -/
structure Plain (t : Testcase) : Prop extends t.OneLine where
  output : ∀ l ∈ t.status.output.lines, ¬ IsMarkerLine l

variable {t : Testcase}

/-- A command succeeds when none of its three codes says otherwise. -/
theorem succeeded_iff (t : Testcase) : t.status.succeeded = true ↔ t.Passed := by
  simp [Status.succeeded, Passed, and_assoc]

theorem verdict_eq (t : Testcase) : t.verdict = .verdict t.status.succeeded := by
  simp only [Keyword.verdict, verdict, succeeded_iff]

/-- The marker lines of a testcase are those of its two markers. -/
theorem markerLines_body (h : t.Plain) :
    t.bodyLines.filter (IsMarkerLine ·) =
      [Bytes.ofString t.opening.line, Bytes.ofString t.closing.line] := by
  have houtput := h.output
  rw [Bytes.lines_eq] at houtput
  have hwhole : t.status.output.wholeLines.filter (IsMarkerLine ·) = [] := by
    simpa using fun l hl => houtput l (List.mem_append_left _ hl)
  have hopen := houtput t.status.output.openLine (by simp)
  rw [bodyLines, List.filter_append, List.filter_append, hwhole,
    Marker.filter_linesAfter _ Marker.not_isMarkerLine_nil, Marker.filter_linesAfter _ hopen]
  rfl

/-- The marker lines among the lines of a testcase say its keywords. -/
theorem words_lines (h : t.Plain) :
    (t.lines.filter (IsMarkerLine ·)).map markerWord = t.keywords.map Keyword.word := by
  have hbody := markerLines_body h
  have hverdict : markerWord (Bytes.ofString t.closing.line) = t.verdict.word := by
    rw [Marker.markerWord_line, verdict_eq]
    rfl
  cases hc : t.cover with
  | none =>
    simp [lines, hc, hbody, keywords, hverdict, Marker.markerWord_line, opening]
  | some c =>
    simp [lines, hc, hbody, keywords, hverdict, Marker.markerWord_line, opening, Cover.opening,
      Cover.closing, Marker.filter_linesAfter _ Marker.not_isMarkerLine_nil]

end Testcase

/-! ## The words of a run -/

/-- The counts that a reader makes of the words of a stream. -/
def Summary.ofWords (words : List Bytes) : Summary where
  passed := words.count Keyword.success.word
  failed := words.count Keyword.failure.word

/-- Different keywords have different words. -/
theorem Keyword.word_injective : Function.Injective Keyword.word := by
  intro k l h
  simp only [Keyword.word, Bytes.ofString_eq] at h
  revert h
  cases k <;> cases l <;> decide

/-- Counting verdicts counts each kind. -/
theorem Summary.foldl_count (verdicts : List Bool) (s : Summary) :
    verdicts.foldl Summary.count s =
      ⟨s.passed + verdicts.count true, s.failed + verdicts.count false⟩ := by
  induction verdicts generalizing s with
  | nil => rfl
  | cons passed rest ih =>
    rw [List.foldl_cons, ih]
    cases passed <;> simp [Summary.count] <;> omega

theorem Testcase.count_keywords (t : Testcase) (passed : Bool) :
    t.keywords.count (.verdict passed) = [t.status.succeeded].count passed := by
  by_cases hp : t.Passed
  · have hs := t.succeeded_iff.mpr hp
    cases hc : t.cover <;> cases passed <;> simp [keywords, verdict, Keyword.verdict, hc, hp, hs]
  · have hs : t.status.succeeded = false := by simpa [← t.succeeded_iff] using hp
    cases hc : t.cover <;> cases passed <;> simp [keywords, verdict, Keyword.verdict, hc, hp, hs]

/-- There is a closing keyword for each verdict. -/
theorem count_keywords (ts : List Testcase) (passed : Bool) :
    (ts.flatMap Testcase.keywords).count (.verdict passed) =
      (ts.map (·.status.succeeded)).count passed := by
  induction ts with
  | nil => rfl
  | cons t ts ih =>
    rw [List.flatMap_cons, List.count_append, ih, t.count_keywords]
    exact (List.count_append : ([_] ++ _).count passed = _).symm

namespace Runner

/-- What a reader of the stream of a runner sees. -/
def words (r : Runner) : List Bytes := markerWords r.sink.stored

variable {r : Runner} {tasks : List Task}

/-- The words of a run are those of its testcases. -/
theorem words_after (hcalls : r.sink.calls = []) (hsink : (r.after tasks).sink.Unfailing)
    (hplain : ∀ t ∈ testcases r.user tasks, t.Plain) :
    (r.after tasks).words =
      (testcases r.user tasks).flatMap fun t => t.keywords.map Keyword.word := by
  have htexts : ∀ t ∈ testcases r.user tasks, t.OneLine := fun t ht => (hplain t ht).toOneLine
  rw [words, markerWords, markerLines, stored_after hcalls hsink, lines_pieces htexts,
    List.filter_append, List.filter_flatMap, List.map_append, List.map_flatMap]
  have hnil : ([[]] : List Bytes).filter (IsMarkerLine ·) = [] := by
    simp [Marker.not_isMarkerLine_nil]
  rw [hnil, List.map_nil, List.append_nil]
  exact List.flatMap_congr fun t ht => Testcase.words_lines (hplain t ht)

/-- The counts of a run are those of its words. -/
theorem summary_after (hcalls : r.sink.calls = []) (hsummary : r.summary = {})
    (hsink : (r.after tasks).sink.Unfailing) (hplain : ∀ t ∈ testcases r.user tasks, t.Plain) :
    (r.after tasks).summary = .ofWords (r.after tasks).words := by
  have hcount (passed : Bool) : (r.after tasks).words.count (Keyword.verdict passed).word =
      ((testcases r.user tasks).map (·.status.succeeded)).count passed := by
    rw [words_after hcalls hsink hplain, ← List.map_flatMap,
      List.count_map_of_injective _ _ Keyword.word_injective, count_keywords]
  rw [(after_unfailing hsink).1.summary, hsummary, Summary.foldl_count, Summary.ofWords,
    ← hcount true, ← hcount false]
  simp [Keyword.verdict]

/-- The stream, the counts and the answers of a run agree. -/
structure StreamReports (r : Runner) (tasks : List Task) : Prop where
  /-- The marker lines are those that the testcases call for, in their order. -/
  words : (r.after tasks).words =
    (testcases r.user tasks).flatMap fun t => t.keywords.map Keyword.word
  summary : (r.after tasks).summary = .ofWords (r.after tasks).words
  allPassed : (r.after tasks).summary.allPassed = true ↔
    Keyword.failure.word ∉ (r.after tasks).words
  /-- A suite answers the counts of the stream as it leaves it. -/
  suite : ∀ {earlier s machines times later m},
    tasks = earlier ++ .suite s machines times :: later → machines s.role = some m →
      ((r.after earlier).runSuite s machines times).2 =
        .ok (.ofWords (r.after (earlier ++ [.suite s machines times])).words)
  /-- A testcase answers what the last word of the stream says. -/
  testcase : ∀ {earlier m command case timeout times later},
    tasks = earlier ++ .testcase m command case timeout times :: later →
      ∃ passed, ((r.after earlier).runCommand m command case timeout times).2 = .ok passed ∧
        (r.after (earlier ++ [.testcase m command case timeout times])).words.getLast? =
          some (Keyword.verdict passed).word

/-- **The stream of a run agrees with its results.** A suite without a machine changes nothing. -/
theorem stream_reports :
    (∀ (r : Runner) {s : Suite} {machines : PerRole Machine} (times : SuiteTimes),
      machines s.role = none →
        r.runSuite s machines times = (r, .error (.missingTarget s.role))) ∧
    ∀ {r : Runner} {tasks : List Task}, r.sink.calls = [] → r.summary = {} →
      (r.after tasks).sink.Unfailing → (∀ t ∈ testcases r.user tasks, t.Plain) →
        StreamReports r tasks := by
  refine ⟨runSuite_missing, fun {r tasks} hcalls hsummary hsink hplain => ?_⟩
  have hcounts := summary_after hcalls hsummary hsink hplain
  -- what holds of the run holds of it up to any task
  have hpart {earlier : List Task} {task : Task} {later : List Task}
      (htasks : tasks = earlier ++ task :: later) :
      (r.after (earlier ++ [task])).sink.Unfailing ∧
        ∀ t ∈ testcases r.user (earlier ++ [task]), t.Plain := by
    obtain rfl : tasks = (earlier ++ [task]) ++ later := by simp [htasks]
    refine ⟨unfailing_of_append hsink, fun t ht => hplain t ?_⟩
    rw [testcases_append]
    exact List.mem_append_left _ ht
  refine ⟨words_after hcalls hsink hplain, hcounts, ?_, ?_, ?_⟩
  · rw [hcounts, Summary.allPassed, Summary.ofWords, beq_iff_eq, List.count_eq_zero]
  · intro earlier s machines times later m htasks hm
    obtain ⟨hsink', hplain'⟩ := hpart htasks
    -- the counts that the suite answers are those of the runner as it leaves it
    rw [← summary_after hcalls hsummary hsink' hplain']
    rw [after_append] at hsink' ⊢
    exact runSuite_snd hm hsink'
  · intro earlier m command case timeout times later htasks
    obtain ⟨hsink', hplain'⟩ := hpart htasks
    have huser := (after_unfailing (unfailing_of_append hsink')).2
    rw [words_after hcalls hsink' hplain', testcases_append, List.flatMap_append, ← huser]
    rw [after_append] at hsink'
    refine ⟨_, runCommand_snd hsink', ?_⟩
    simp [testcases, Task.testcase?, Testcase.keywords, Testcase.verdict_eq]

/-- A suite whose output stops within a lead-in, a testcase on a machine that is not reached, and a
suite without a machine. -/
def prolongedRun : List Task :=
  [.suite {} (fun _ => some (printing [108, 111, 103, 13, 10, 35, 35, 35, 106, 117, 110])) default,
    .testcase { name := "scripted", execute := fun _ => { remoteCode := 255 } } "true" "case"
      defaultTimeout default,
    .suite { role := .client } (fun _ => none) default]

theorem stream_reports_prolonged :
    let r : Runner := { sink := {} }
    StreamReports r prolongedRun ∧
      (r.after prolongedRun).words =
        [.testsuite, .testcase, .success, .endsuite, .testcase, .failure].map Keyword.word ∧
      r.runSuite { role := .client } (fun _ => none) default =
        (r, .error (.missingTarget .client)) := by
  intro r
  have hplain : ∀ t ∈ testcases r.user prolongedRun, t.Plain := by
    intro t ht
    fin_cases ht <;> refine ⟨⟨by simp, by simp⟩, ?_⟩ <;>
      simp only [IsMarkerLine, Marker.lead_bytes] <;> decide
  have hreports : StreamReports r prolongedRun :=
    stream_reports.2 rfl rfl (after_unlimited rfl rfl rfl prolongedRun) hplain
  exact ⟨hreports, hreports.words, stream_reports.1 r default rfl⟩

end Runner

end LivePatching.Junit
