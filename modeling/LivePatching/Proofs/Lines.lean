import LivePatching.Host.Files

/-!
# Lines of bytes

A line feed ends a line. What stands after the last line feed is a line that has not ended; it is
empty if nothing stands there.

* `Bytes.ofString_append`, `lineFeed_mem_ofString`: a text in UTF-8 has the line feeds that it has
  as characters, and no others.
* `lines_append_cons`: a line feed parts the lines before it from those after it.
* `lines_append`: bytes without a line feed prolong the line that has not ended.
* `prefix_append_iff`: nor do they complete a lead-in of which they have no byte.
-/

namespace LivePatching.Bytes

/-! ## Texts in UTF-8 -/

theorem toList_loop (b : ByteArray) (i : Nat) (r : List UInt8) :
    ByteArray.toList.loop b i r = r.reverse ++ b.data.toList.drop i := by
  fun_induction ByteArray.toList.loop b i r with
  | case1 i r hi ih =>
    have hi' : i < b.data.size := hi
    rw [ih, List.drop_eq_getElem_cons hi']
    simp [ByteArray.get!, getElem!_pos b.data i hi']
  | case2 i r hi =>
    have hi' : b.data.toList.length ≤ i := Nat.le_of_not_lt hi
    simp [List.drop_eq_nil_of_le hi']

/-- The bytes of a text are those of its characters. -/
theorem ofString_eq (s : String) : ofString s = s.toList.flatMap String.utf8EncodeChar := by
  simp only [ofString, ByteArray.toList, toList_loop, String.toUTF8_eq_toByteArray,
    ← String.utf8Encode_toList, List.utf8Encode, List.toList_data_toByteArray]
  rfl

@[simp] theorem ofString_append (s t : String) :
    ofString (s ++ t) = ofString s ++ ofString t := by
  simp [ofString_eq]

/-- A byte below 128 stands for the character of its number and for no other. -/
theorem toNat_of_mem_utf8EncodeChar {b : UInt8} {c : Char} (hb : b.toNat < 128)
    (h : b ∈ String.utf8EncodeChar c) : c.toNat = b.toNat := by
  simp only [String.utf8EncodeChar] at h
  simp only [Char.toNat]
  split at h
  · simp only [List.mem_singleton] at h
    subst h
    simp only [UInt8.toNat_ofNat']
    omega
  · -- every byte of a longer code is above 127
    exfalso
    split at h
    · simp only [List.mem_cons, List.not_mem_nil, or_false] at h
      rcases h with rfl | rfl <;> simp only [UInt8.toNat_ofNat'] at hb <;> omega
    · split at h <;> simp only [List.mem_cons, List.not_mem_nil, or_false] at h
      · rcases h with rfl | rfl | rfl <;> simp only [UInt8.toNat_ofNat'] at hb <;> omega
      · rcases h with rfl | rfl | rfl | rfl <;> simp only [UInt8.toNat_ofNat'] at hb <;> omega

/-- The byte that ends a line. -/
def lineFeed : UInt8 := 10

/-- Only a line feed is encoded with the byte of one. -/
theorem lineFeed_mem_ofString {s : String} : lineFeed ∈ ofString s ↔ '\n' ∈ s.toList := by
  rw [ofString_eq, List.mem_flatMap]
  constructor
  · rintro ⟨c, hc, hb⟩
    have : c = '\n' := Char.toNat_inj.mp (toNat_of_mem_utf8EncodeChar (by decide) hb)
    exact this ▸ hc
  · exact fun h => ⟨_, h, by decide⟩

/-! ## Lines -/

/-- The lines, the one that has not ended last. -/
def lines (b : Bytes) : List Bytes := b.splitOn lineFeed

theorem lines_ne_nil (b : Bytes) : b.lines ≠ [] := by simp [lines]

/-- The lines that have ended. -/
def wholeLines (b : Bytes) : List Bytes := b.lines.dropLast

/-- The line that has not ended. -/
def openLine (b : Bytes) : Bytes := b.lines.getLast b.lines_ne_nil

/-- The lines are the whole ones and the open one. -/
theorem lines_eq (b : Bytes) : b.lines = b.wholeLines ++ [b.openLine] :=
  (List.dropLast_concat_getLast b.lines_ne_nil).symm

theorem lines_of_not_mem {b : Bytes} (h : lineFeed ∉ b) : b.lines = [b] :=
  List.splitOn_eq_singleton h

@[simp] theorem wholeLines_nil : wholeLines [] = [] := rfl

@[simp] theorem openLine_nil : openLine [] = [] := rfl

/-- A line feed separates the lines. -/
theorem lines_append_cons (b c : Bytes) : (b ++ lineFeed :: c).lines = b.lines ++ c.lines :=
  List.splitOn_append_cons_self b c

/-- The lines before a point are whole. -/
theorem wholeLines_of_lines {b c : Bytes} {ls : List Bytes} (h : b.lines = ls ++ c.lines) :
    b.wholeLines = ls ++ c.wholeLines := by
  rw [wholeLines, h, List.dropLast_append_of_ne_nil c.lines_ne_nil, wholeLines]

theorem wholeLines_append_cons (b c : Bytes) :
    (b ++ lineFeed :: c).wholeLines = b.lines ++ c.wholeLines :=
  wholeLines_of_lines (lines_append_cons b c)

theorem openLine_append_cons (b c : Bytes) : (b ++ lineFeed :: c).openLine = c.openLine := by
  simp only [openLine, lines_append_cons, List.getLast_append_of_ne_nil _ c.lines_ne_nil]

/-- Bytes are one line that has not ended, or a line and the bytes after it. -/
@[elab_as_elim]
theorem byLine {motive : Bytes → Prop} (last : ∀ l, lineFeed ∉ l → motive l)
    (line : ∀ l b, lineFeed ∉ l → motive b → motive (l ++ lineFeed :: b)) (b : Bytes) :
    motive b := by
  by_cases h : lineFeed ∈ b
  · obtain ⟨l, c, hb, hl⟩ := List.eq_append_cons_of_mem h
    have : c.length < b.length := by simp [hb]; omega
    exact hb ▸ line l c hl (byLine last line c)
  · exact last b h
termination_by b.length

/-- Bytes without a line feed go on with the open line. -/
theorem lines_append (b : Bytes) {c : Bytes} (h : lineFeed ∉ c) :
    (b ++ c).lines = b.wholeLines ++ [b.openLine ++ c] := by
  induction b using byLine with
  | last l hl =>
    have hlc : lineFeed ∉ l ++ c := by simp [hl, h]
    simp [lines_of_not_mem hlc, wholeLines, openLine, lines_of_not_mem hl]
  | line l b hl ih =>
    rw [List.append_assoc, List.cons_append, lines_append_cons, ih, wholeLines_append_cons,
      openLine_append_cons, List.append_assoc]

/-- The last byte is a line feed, or there is no byte. -/
theorem openLine_eq_nil {b : Bytes} : b.openLine = [] ↔ b = [] ∨ b.getLast? = some lineFeed := by
  induction b using byLine with
  | last l hl =>
    have hlast : l.getLast? ≠ some lineFeed := fun h => hl (List.mem_of_getLast? h)
    simp [openLine, lines_of_not_mem hl, hlast]
  | line l b hl ih =>
    rw [openLine_append_cons, ih]
    cases b <;> simp

/-- Bytes after a line feed, or at the start, are on their own. -/
theorem openLine_append {b : Bytes} (h : b.openLine = []) (c : Bytes) :
    (b ++ c).openLine = c.openLine := by
  rcases openLine_eq_nil.mp h with rfl | hlast
  · rfl
  · obtain ⟨b', rfl⟩ := List.getLast?_eq_some_iff.mp hlast
    rw [List.append_assoc]
    exact openLine_append_cons b' c

/-- A word that shares no byte with a suffix is a prefix only of what stands before. -/
theorem prefix_append_iff {w b c : Bytes} (h : ∀ x ∈ c, x ∉ w) : w <+: b ++ c ↔ w <+: b := by
  constructor
  · intro hw
    rcases List.prefix_or_prefix_of_prefix hw (List.prefix_append b c) with hb | ⟨t, rfl⟩
    · exact hb
    · -- the word goes on after `b`, so its next byte would be one of `c`
      have ht : t <+: c := (List.prefix_append_right_inj b).mp hw
      cases t with
      | nil => simp
      | cons x t => exact absurd (by simp) (h x (ht.subset List.mem_cons_self))
  · exact fun hw => hw.trans (List.prefix_append b c)

end LivePatching.Bytes
