import LivePatching.Junit.Marker
import LivePatching.Proofs.Calendar
import LivePatching.Proofs.Lines

/-!
# Marker lines

A reader of a stream looks for lines that start with the lead-in; the word behind it says what the
marker is.

* `Marker.lineFeed_not_mem_line`: a marker is one line if its attributes have no line feed.
* `Marker.lines_bytes`: a block adds three lines; its first separator ends the line that has not
  ended before it.
* `markerWords`: what the marker lines of a stream say.
* `Marker.markerWord_line`: a marker line says the keyword of its marker.
-/

namespace LivePatching

/-! ## The text of an instant -/

namespace Instant

/-- The characters of an instant other than digits. -/
def marks : List Char := ['+', '-', 'T', ':', 'Z']

/-- Digits and the marks of a time, none of which needs escaping. -/
def Plain (cs : List Char) : Prop := ∀ c ∈ cs, c.isDigit = true ∨ c ∈ marks

theorem Plain.append {cs ds : List Char} (hc : Plain cs) (hd : Plain ds) : Plain (cs ++ ds) :=
  fun c h => (List.mem_append.mp h).elim (hc c) (hd c)

theorem Plain.cons {c : Char} {cs : List Char} (hc : c ∈ marks) (hcs : Plain cs) :
    Plain (c :: cs) :=
  List.forall_mem_cons.mpr ⟨.inr hc, hcs⟩

theorem plain_padded (width n : Nat) : Plain (padded width n) := fun _ h => .inl (isDigit_padded h)

theorem plain_yearText (year : Int) : Plain (yearText year) := by
  unfold yearText
  split
  · exact plain_padded 4 _
  · refine .cons ?_ (plain_padded 4 _)
    split <;> decide

/-- A time is written with digits and the marks. -/
theorem plain_text (t : Instant) : Plain t.text.toList := by
  have number (n : Nat) {c : Char} {cs : List Char} (hc : c ∈ marks) (hcs : Plain cs) :
      Plain (padded 2 n ++ c :: cs) := (plain_padded 2 n).append (.cons hc hcs)
  have last : Plain [] := by simp [Plain]
  simp only [text, String.toList_ofList, List.append_assoc, List.cons_append]
  exact (plain_yearText _).append <| .cons (by decide) <| number _ (by decide) <|
    number _ (by decide) <| number _ (by decide) <| number _ (by decide) <|
    number _ (by decide) last

theorem lineFeed_not_mem_text (t : Instant) : '\n' ∉ t.text.toList :=
  fun h => absurd (plain_text t _ h) (by decide)

end Instant

namespace Junit

open Bytes (lineFeed)

namespace Marker

/-! ## One line -/

/-- No attribute has a line feed. -/
def OneLine (m : Marker) : Prop :=
  ∀ value ∈ [m.id, m.text, m.hostname, m.kind], ∀ v, value = some v → '\n' ∉ v.toList

theorem lineFeed_not_mem_attributeText {name : String} {value : Option String}
    (hname : '\n' ∉ name.toList) (hvalue : ∀ v, value = some v → '\n' ∉ v.toList) :
    '\n' ∉ (attributeText name value).toList := by
  cases value with
  | none => simp [attributeText]
  | some v => simp [attributeText, hname, hvalue v rfl]

/-- A marker with texts of one line is one line. -/
theorem lineFeed_not_mem_line {m : Marker} (h : m.OneLine) : '\n' ∉ m.line.toList := by
  have hkeyword : '\n' ∉ m.keyword.name.toList := by cases m.keyword <;> simp [Keyword.name]
  have hattribute (name : String) {value : Option String} (hname : '\n' ∉ name.toList)
      (hvalue : value ∈ [m.id, m.text, m.hostname, m.kind]) :
      '\n' ∉ (attributeText name value).toList :=
    lineFeed_not_mem_attributeText hname (h value hvalue)
  simp only [line, String.toList_append, List.mem_append, not_or, and_assoc]
  exact ⟨by simp [lead], by simp, hkeyword, by simp, Instant.lineFeed_not_mem_text _, by simp,
    hattribute "id" (by simp) (by simp), hattribute "text" (by simp) (by simp),
    hattribute "hostname" (by simp) (by simp), hattribute "type" (by simp) (by simp)⟩

/-! ## A block -/

/-- The bytes of a marker's block. -/
def bytes (m : Marker) : Bytes := m.block.flatMap Bytes.ofString

theorem lineFeed_not_mem_separator : lineFeed ∉ Bytes.ofString separator := by
  rw [Bytes.lineFeed_mem_ofString]
  simp [separator]

/-- A marker is three lines. -/
theorem bytes_eq (m : Marker) :
    m.bytes = Bytes.ofString separator ++ lineFeed :: (Bytes.ofString m.line ++
      lineFeed :: (Bytes.ofString separator ++ [lineFeed])) := by
  have hfeed : Bytes.ofString "\n" = [lineFeed] := by
    rw [Bytes.ofString_eq]
    decide
  simp [bytes, block, hfeed]

/-- What a block adds to the lines of a stream whose last line is open. -/
def linesAfter (m : Marker) (openLine : Bytes) : List Bytes :=
  [openLine ++ Bytes.ofString separator, Bytes.ofString m.line, Bytes.ofString separator]

/-- The lines of a stream with a marker in it. -/
theorem lines_bytes {m : Marker} (h : m.OneLine) (before after : Bytes) :
    (before ++ m.bytes ++ after).lines =
      before.wholeLines ++ m.linesAfter before.openLine ++ after.lines := by
  have hline : lineFeed ∉ Bytes.ofString m.line := by
    rw [Bytes.lineFeed_mem_ofString]
    exact lineFeed_not_mem_line h
  have hblock : before ++ m.bytes ++ after =
      (before ++ Bytes.ofString separator) ++ lineFeed :: (Bytes.ofString m.line ++
        lineFeed :: (Bytes.ofString separator ++ lineFeed :: after)) := by
    simp [bytes_eq]
  -- only the first separator may have something before it on its line
  rw [hblock, Bytes.lines_append_cons, Bytes.lines_append before lineFeed_not_mem_separator,
    Bytes.lines_append_cons, Bytes.lines_of_not_mem hline, Bytes.lines_append_cons,
    Bytes.lines_of_not_mem lineFeed_not_mem_separator]
  simp [linesAfter]

end Marker

/-! ## Reading a stream -/

/-- A marker line starts with the lead-in. -/
def IsMarkerLine (l : Bytes) : Prop := Bytes.ofString Marker.lead <+: l

instance : DecidablePred IsMarkerLine := fun _ => inferInstanceAs (Decidable (_ <+: _))

/-- The marker lines of a stream. -/
def markerLines (b : Bytes) : List Bytes := b.lines.filter (IsMarkerLine ·)

/-- The bytes that end the word of a marker. -/
def isBlank (b : UInt8) : Bool := b == 32 || (9 ≤ b && b ≤ 13)

/-- The word behind the lead-in of a marker line. -/
def markerWord (l : Bytes) : Bytes :=
  ((l.drop (Bytes.ofString Marker.lead).length).dropWhile isBlank).takeWhile (!isBlank ·)

/-- The words of a stream's marker lines. -/
def markerWords (b : Bytes) : List Bytes := (markerLines b).map markerWord

/-- What a reader sees of a keyword. -/
def Keyword.word (k : Keyword) : Bytes := Bytes.ofString k.name

namespace Marker

theorem lead_bytes : Bytes.ofString lead = [35, 35, 35, 106, 117, 110, 105, 116] := by
  rw [Bytes.ofString_eq]
  decide

theorem separator_bytes : Bytes.ofString separator = List.replicate 50 61 := by
  rw [Bytes.ofString_eq]
  decide

/-- The line of a marker is a marker line. -/
theorem isMarkerLine_line (m : Marker) : IsMarkerLine (Bytes.ofString m.line) := by
  simp only [IsMarkerLine, line, Bytes.ofString_append, List.append_assoc]
  exact List.prefix_append ..

/-- A separator at its end makes no line a marker line. -/
theorem not_isMarkerLine_separator_append {l : Bytes} (h : ¬ IsMarkerLine l) :
    ¬ IsMarkerLine (l ++ Bytes.ofString separator) := by
  have hforeign : ∀ b ∈ Bytes.ofString separator, b ∉ Bytes.ofString lead := by
    intro b hb
    rw [separator_bytes] at hb
    rw [lead_bytes, List.eq_of_mem_replicate hb]
    decide
  rwa [IsMarkerLine, Bytes.prefix_append_iff hforeign]

theorem not_isMarkerLine_nil : ¬ IsMarkerLine [] := by
  simp [IsMarkerLine, lead_bytes]

theorem not_isMarkerLine_separator : ¬ IsMarkerLine (Bytes.ofString separator) :=
  not_isMarkerLine_separator_append not_isMarkerLine_nil

/-- A block has one marker line, also where it ends a line that is not one. -/
theorem filter_linesAfter (m : Marker) {openLine : Bytes} (h : ¬ IsMarkerLine openLine) :
    (m.linesAfter openLine).filter (IsMarkerLine ·) = [Bytes.ofString m.line] := by
  simp [linesAfter, not_isMarkerLine_separator_append h, isMarkerLine_line,
    not_isMarkerLine_separator]

/-- The word of a marker line is read up to the blank behind it. -/
theorem markerWord_eq {w : Bytes} (hne : w ≠ []) (hw : ∀ b ∈ w, isBlank b = false) (tail : Bytes) :
    markerWord (Bytes.ofString lead ++ 32 :: (w ++ 32 :: tail)) = w := by
  obtain ⟨b, rest, rfl⟩ := List.exists_cons_of_ne_nil hne
  have hb : isBlank b = false := hw b List.mem_cons_self
  rw [markerWord, List.drop_left, List.dropWhile_cons_of_pos (by decide), List.cons_append,
    List.dropWhile_cons_of_neg (by simp [hb]), ← List.cons_append,
    List.takeWhile_append_of_pos (by simpa using hw), List.takeWhile_cons_of_neg (by decide),
    List.append_nil]

/-- Blanks stand on both sides of the keyword. -/
theorem ofString_line (m : Marker) : ∃ tail, Bytes.ofString m.line =
    Bytes.ofString lead ++ 32 :: (m.keyword.word ++ 32 :: tail) := by
  have hspace : Bytes.ofString " " = [32] := by
    rw [Bytes.ofString_eq]
    decide
  have htime : Bytes.ofString " time=\"" = 32 :: Bytes.ofString "time=\"" := by
    simp only [Bytes.ofString_eq]
    decide
  simp only [line, Bytes.ofString_append, hspace, htime, Keyword.word, List.append_assoc,
    List.cons_append, List.nil_append]
  exact ⟨_, rfl⟩

theorem markerWord_line (m : Marker) : markerWord (Bytes.ofString m.line) = m.keyword.word := by
  obtain ⟨tail, hline⟩ := ofString_line m
  have hne : m.keyword.word ≠ [] := by
    simp only [Keyword.word, Bytes.ofString_eq]
    cases m.keyword <;> decide
  have hword : m.keyword.word.all (!isBlank ·) = true := by
    simp only [Keyword.word, Bytes.ofString_eq]
    cases m.keyword <;> decide
  rw [hline, markerWord_eq hne (by simpa using hword)]

end Marker

end Junit

end LivePatching
