import LivePatching.Instant
import LivePatching.Proofs.Numerals

/-!
# The text of an instant tells its second

* `Date.toDay`, `Date.toDay_ofDay`: the day of a date, so no two days have the same date.
* `Instant.padded_inj`, `Instant.yearText_inj`: numbers with zeros in front, and years, are read
  back.
* `Instant.text_inj`: **instants with the same text are of the same second**, and both are leap
  seconds or neither is.
-/

namespace LivePatching

namespace Date

/-! ## Days and dates -/

/-- The day of a date, counted from the first of January 1970. -/
def toDay (d : Date) : Int :=
  let year := if d.month ≤ 2 then d.year - 1 else d.year
  let month := if d.month ≤ 2 then d.month + 9 else d.month - 3
  let yearOfEra := (year % 400).toNat
  let start := 365 * yearOfEra + yearOfEra / 4 - yearOfEra / 100
  year / 400 * daysPerEra + start + ((153 * month + 2) / 5 + (d.day - 1) : Nat) - 719468

section Era

variable {n year : Nat}

/-- The year of a day is in the century of the day, but for the last day of the era. -/
theorem century_eq (h : n < 146096) :
    (n - n / 1460 + n / 36524 - n / 146096) / 365 / 100 = n / 36524 := by
  have hlast : n / 146096 = 0 := by omega
  obtain ⟨c, hc⟩ : ∃ c, c = n / 36524 := ⟨_, rfl⟩
  have hle : c ≤ 3 := by omega
  rw [hlast, ← hc]
  omega

/-- A year starts on the day or before it, by 365 days at most. -/
theorem start_le (h : n < 146097) (hy : year = (n - n / 1460 + n / 36524 - n / 146096) / 365) :
    365 * year + year / 4 - year / 100 ≤ n ∧
      n - (365 * year + year / 4 - year / 100) ≤ 365 ∧ year < 400 := by
  by_cases hn : n = 146096
  · subst hn hy
    decide
  · have hlast : n / 146096 = 0 := by omega
    have hcentury := century_eq (n := n) (by omega)
    rw [← hy] at hcentury
    rw [hlast] at hy
    rw [hcentury]
    omega

/-- A day of an era is found again from its date. -/
theorem toDay_ofDayOfEra (era : Int) (h : n < 146097) :
    toDay (ofDayOfEra era n) = era * daysPerEra + n - 719468 := by
  obtain ⟨year, hy⟩ : ∃ year, year = (n - n / 1460 + n / 36524 - n / 146096) / 365 := ⟨_, rfl⟩
  obtain ⟨hstart, hrest, hyear⟩ := start_le h hy
  obtain ⟨start, hs⟩ : ∃ start, start = 365 * year + year / 4 - year / 100 := ⟨_, rfl⟩
  rw [← hs] at hstart hrest
  simp only [ofDayOfEra, ← hy, ← hs]
  obtain ⟨month, hm⟩ : ∃ month, month = (5 * (n - start) + 2) / 153 := ⟨_, rfl⟩
  have hera : (era * 400 + year) / 400 = era := by omega
  have hyearOfEra : ((era * 400 + year) % 400).toNat = year := by omega
  rw [← hm]
  -- years start in March here, so the last two months are in the next year
  by_cases hmonth : month < 10
  · have hlate : ¬ month + 3 ≤ 2 := by omega
    simp only [if_pos hmonth, toDay, if_neg hlate, hera, hyearOfEra, ← hs]
    omega
  · have hearly : month - 9 ≤ 2 := by omega
    have hback : era * 400 + year + 1 - 1 = era * 400 + year := by omega
    simp only [if_neg hmonth, toDay, if_pos hearly, hback, hera, hyearOfEra, ← hs]
    omega

end Era

/-- A day is found again from its date. -/
theorem toDay_ofDay (n : Int) : toDay (ofDay n) = n := by
  have hrange : ((n + 719468) % (daysPerEra : Int)).toNat < 146097 := by
    simp only [daysPerEra]
    omega
  rw [ofDay, toDay_ofDayOfEra _ hrange]
  simp only [daysPerEra]
  omega

/-- Different days have different dates. -/
theorem ofDay_inj {n m : Int} (h : ofDay n = ofDay m) : n = m := by
  rw [← toDay_ofDay n, h, toDay_ofDay]

end Date

namespace Instant

/-! ## Numbers -/

/-- A padded number is read back. -/
theorem ofDigitChars_padded (width n : Nat) : Nat.ofDigitChars 10 (padded width n) 0 = n := by
  have hzeros : ∀ (k : Nat) (ds : List Char),
      Nat.ofDigitChars 10 (List.replicate k '0' ++ ds) 0 = Nat.ofDigitChars 10 ds 0 := by
    intro k ds
    induction k with
    | zero => rfl
    | succ k ih => exact ih
  rw [padded, hzeros, Nat.ofDigitChars_ten_toDigits]

theorem padded_inj {width n m : Nat} (h : padded width n = padded width m) : n = m := by
  rw [← ofDigitChars_padded width n, h, ofDigitChars_padded]

/-- A padded number consists of digits. -/
theorem isDigit_padded {width n : Nat} {c : Char} (h : c ∈ padded width n) : c.isDigit = true := by
  rcases List.mem_append.mp h with h | h
  · rw [List.eq_of_mem_replicate h]
    rfl
  · exact Nat.isDigit_of_mem_toDigits (by decide) (by decide) h

theorem not_mem_padded {c : Char} (h : c.isDigit = false) (width n : Nat) : c ∉ padded width n :=
  fun hc => absurd (isDigit_padded hc) (by simp [h])

/-- Different years have different texts. -/
theorem yearText_inj {year year' : Int} (h : yearText year = yearText year') : year = year' := by
  -- a year of four digits begins with a digit, and any other with its sign
  have hunsigned : ∀ (year : Int) (n m : Nat),
      padded 4 n ≠ (if year < 0 then '-' else '+') :: padded 4 m := by
    intro year n m he
    have hsign : (if year < 0 then '-' else '+').isDigit = false := by split <;> rfl
    exact not_mem_padded hsign 4 n (he ▸ List.mem_cons_self)
  unfold yearText at h
  by_cases hr : 0 ≤ year ∧ year ≤ 9999 <;> by_cases hr' : 0 ≤ year' ∧ year' ≤ 9999
  · rw [if_pos hr, if_pos hr'] at h
    have := padded_inj h
    omega
  · rw [if_pos hr, if_neg hr'] at h
    exact absurd h (hunsigned year' _ _)
  · rw [if_neg hr, if_pos hr'] at h
    exact absurd h.symm (hunsigned year _ _)
  · rw [if_neg hr, if_neg hr'] at h
    obtain ⟨hsign, hdigits⟩ := List.cons.inj h
    have habs := padded_inj hdigits
    have hneg : year < 0 ↔ year' < 0 := by
      by_cases hn : year < 0 <;> by_cases hn' : year' < 0 <;> simp [hn, hn'] at hsign ⊢
    omega

/-! ## Instants -/

/-- The last of the marks divides a text, if there are none behind it. -/
theorem split_last {c : Char} {xs ys xs' ys' : List Char} (h : xs ++ c :: ys = xs' ++ c :: ys')
    (hy : c ∉ ys) (hy' : c ∉ ys') : xs = xs' ∧ ys = ys' := by
  rcases List.append_eq_append_iff.mp h with ⟨zs, hxs, hys⟩ | ⟨zs, hxs, hys⟩
  · cases zs with
    | nil => exact ⟨by simpa using hxs.symm, (List.cons.inj hys).2⟩
    | cons z zs =>
      obtain ⟨rfl, rfl⟩ := List.cons.inj hys
      exact absurd (List.mem_append_right _ List.mem_cons_self) hy
  · cases zs with
    | nil => exact ⟨by simpa using hxs, (List.cons.inj hys).2.symm⟩
    | cons z zs =>
      obtain ⟨rfl, rfl⟩ := List.cons.inj hys
      exact absurd (List.mem_append_right _ List.mem_cons_self) hy'

/-- Only a leap second is the sixtieth of its minute. -/
theorem leap_iff (t : Instant) :
    t.secondOfDay % 60 + (if t.isLeap then 1 else 0) = 60 ↔ t.isLeap = true := by
  simp only [secondOfDay]
  split
  · next hleap =>
    have hnanos : 1000000000 ≤ t.nanos := of_decide_eq_true hleap
    have hvalid := t.valid.2
    exact ⟨fun _ => hleap, fun _ => by omega⟩
  · next hleap => exact ⟨fun h => by omega, fun h => absurd h hleap⟩

variable {t t' : Instant}

/-- **Instants with the same text are of the same second**, and both are leap seconds or neither
is. -/
theorem text_inj (h : t.text = t'.text) : t.secs = t'.secs ∧ t.isLeap = t'.isLeap := by
  -- the numbers are cut off from the end, as a year may have a dash of its own
  have hchars := List.append_cancel_right (String.ofList_injective h)
  obtain ⟨hchars, hsecond⟩ := split_last hchars (not_mem_padded rfl _ _) (not_mem_padded rfl _ _)
  obtain ⟨hchars, hminute⟩ := split_last hchars (not_mem_padded rfl _ _) (not_mem_padded rfl _ _)
  obtain ⟨hchars, hhour⟩ := split_last hchars (not_mem_padded rfl _ _) (not_mem_padded rfl _ _)
  obtain ⟨hchars, hday⟩ := split_last hchars (not_mem_padded rfl _ _) (not_mem_padded rfl _ _)
  obtain ⟨hyear, hmonth⟩ := split_last hchars (not_mem_padded rfl _ _) (not_mem_padded rfl _ _)
  have hdate : t.date = t'.date := by
    calc t.date = ⟨t.date.year, t.date.month, t.date.day⟩ := rfl
      _ = ⟨t'.date.year, t'.date.month, t'.date.day⟩ := by
        rw [yearText_inj hyear, padded_inj hmonth, padded_inj hday]
      _ = t'.date := rfl
  have hdays : t.secs / 86400 = t'.secs / 86400 := Date.ofDay_inj hdate
  have hh := padded_inj hhour
  have hm := padded_inj hminute
  have hs := padded_inj hsecond
  have hleap : t.isLeap = t'.isLeap := by
    rw [Bool.eq_iff_iff, ← leap_iff t, ← leap_iff t', hs]
  rw [hleap] at hs
  have hs' := Nat.add_right_cancel hs
  simp only [secondOfDay] at hh hm hs'
  exact ⟨by omega, hleap⟩

end Instant

end LivePatching
