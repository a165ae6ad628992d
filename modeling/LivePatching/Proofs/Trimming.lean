import LivePatching.Text.Blank
import LivePatching.Proofs.Numerals

/-!
# Texts without the blanks at their ends

* `Trimmed`: neither the first nor the last character of a text is blank.
* `trim_eq_iff`: **what is left of a text without the blanks at its ends** is the one part of it
  that is trimmed and has only blanks around it.
* `trim_eq_nil_iff`: nothing is left of blanks alone.
-/

namespace LivePatching.Text

variable {before cs after : List Char} {c : Char}

/-- Neither the first nor the last character is blank. -/
structure Trimmed (cs : List Char) : Prop where
  first : Json.StopsAt isBlank cs
  last : Json.StopsAt isBlank cs.reverse

theorem trimmed_nil : Trimmed [] := ⟨Json.stopsAt_nil, Json.stopsAt_nil⟩

theorem trimmed_of_forall (h : ∀ c ∈ cs, isBlank c = false) : Trimmed cs where
  first c hc := h c (List.mem_of_mem_head? hc)
  last c hc := h c (List.mem_reverse.mp (List.mem_of_mem_head? hc))

/-- The blanks in front are taken off. -/
theorem trimStart_append (hb : ∀ c ∈ before, isBlank c = true) (hcs : Json.StopsAt isBlank cs) :
    trimStart (before ++ cs) = cs :=
  Json.dropWhile_append hb hcs

/-- The blanks behind are taken off. -/
theorem trimEnd_append (hcs : Json.StopsAt isBlank cs.reverse)
    (ha : ∀ c ∈ after, isBlank c = true) : trimEnd (cs ++ after) = cs := by
  have hrev : ∀ c ∈ after.reverse, isBlank c = true := fun c hc => ha c (List.mem_reverse.mp hc)
  rw [trimEnd, List.reverse_append, Json.dropWhile_append hrev hcs, List.reverse_reverse]

/-- Blanks around a trimmed text are cut off. -/
theorem trim_append (hb : ∀ c ∈ before, isBlank c = true) (hcs : Trimmed cs)
    (ha : ∀ c ∈ after, isBlank c = true) : trim (before ++ cs ++ after) = cs := by
  cases cs with
  | nil =>
    -- the blanks on both sides are taken off at once
    have hblank : ∀ c ∈ before ++ after, isBlank c = true := List.forall_mem_append.mpr ⟨hb, ha⟩
    have hstart := trimStart_append hblank Json.stopsAt_nil
    rw [List.append_nil] at hstart
    rw [List.append_nil, trim, hstart]
    rfl
  | cons c cs =>
    have hstart : trimStart (before ++ (c :: cs ++ after)) = c :: cs ++ after :=
      trimStart_append hb (Json.stopsAt_cons.mpr (Json.stopsAt_cons.mp hcs.first))
    rw [List.append_assoc, trim, hstart, trimEnd_append hcs.last ha]

theorem stopsAt_dropWhile (cs : List Char) : Json.StopsAt isBlank (cs.dropWhile isBlank) := by
  intro c hc
  have hhead := List.head?_dropWhile_not isBlank cs
  rw [hc] at hhead
  exact hhead

theorem stopsAt_left (h : Json.StopsAt isBlank (cs ++ after)) : Json.StopsAt isBlank cs := by
  cases cs with
  | nil => exact Json.stopsAt_nil
  | cons c cs => exact Json.stopsAt_cons.mpr (Json.stopsAt_cons.mp h)

/-- A text is what is left of it, with blanks around that. -/
theorem exists_eq_trim (cs : List Char) : Trimmed (trim cs) ∧ ∃ before after,
    (∀ c ∈ before ++ after, isBlank c = true) ∧ cs = before ++ trim cs ++ after := by
  have hstart : cs = cs.takeWhile isBlank ++ trimStart cs := List.takeWhile_append_dropWhile.symm
  have hend : trimStart cs = trim cs ++ ((trimStart cs).reverse.takeWhile isBlank).reverse := by
    rw [trim, trimEnd, ← List.reverse_append, List.takeWhile_append_dropWhile, List.reverse_reverse]
  have hfirst : Json.StopsAt isBlank (trimStart cs) := stopsAt_dropWhile cs
  rw [hend] at hfirst
  refine ⟨⟨stopsAt_left hfirst, ?_⟩, cs.takeWhile isBlank,
    ((trimStart cs).reverse.takeWhile isBlank).reverse, ?_, ?_⟩
  · rw [trim, trimEnd, List.reverse_reverse]
    exact stopsAt_dropWhile _
  · refine List.forall_mem_append.mpr ⟨List.all_eq_true.mp List.all_takeWhile, fun c hc => ?_⟩
    exact List.all_eq_true.mp List.all_takeWhile c (List.mem_reverse.mp hc)
  · rw [List.append_assoc, ← hend]
    exact hstart

/-- **What is left of a text** is the one trimmed part of it that has only blanks around it. -/
theorem trim_eq_iff {ds : List Char} : trim cs = ds ↔ Trimmed ds ∧ ∃ before after,
    (∀ c ∈ before ++ after, isBlank c = true) ∧ cs = before ++ ds ++ after := by
  constructor
  · rintro rfl
    exact exists_eq_trim cs
  · rintro ⟨hds, before, after, hblank, rfl⟩
    obtain ⟨hb, ha⟩ := List.forall_mem_append.mp hblank
    exact trim_append hb hds ha

/-- Nothing is left of blanks. -/
theorem trim_eq_nil_iff : trim cs = [] ↔ ∀ c ∈ cs, isBlank c = true := by
  rw [trim_eq_iff]
  constructor
  · rintro ⟨-, before, after, hblank, rfl⟩
    rwa [List.append_nil]
  · exact fun h => ⟨trimmed_nil, cs, [], by rwa [List.append_nil], by simp⟩

end LivePatching.Text
