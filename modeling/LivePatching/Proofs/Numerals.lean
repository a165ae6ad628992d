import Mathlib.Algebra.Ring.Int.Defs
import Mathlib.Tactic.Common
import LivePatching.Json.Value

/-!
# Numerals are read back

* `Numeral.Written`: the digits of a numeral stand as the grammar has them.
* `Numeral.read_print`: **a written numeral is read back** in front of whatever does not prolong it.
* `Numeral.written_of_read`: every numeral that is read is written.
* `Number.ofNumeral?_ofInt`: the numeral of an integer that fits a machine word names that integer.
-/

namespace LivePatching.Json

/-- The text does not start with a character of the kind. -/
def StopsAt (kind : Char → Bool) (cs : List Char) : Prop := ∀ c ∈ cs.head?, kind c = false

/-- The characters that prolong a numeral. -/
def prolongs (c : Char) : Bool := c.isDigit || c == '.' || c == 'e' || c == 'E'

section StopsAt

variable {kind kind' : Char → Bool} {c : Char} {cs ds rest : List Char}

theorem stopsAt_nil : StopsAt kind [] := by simp [StopsAt]

theorem stopsAt_cons : StopsAt kind (c :: cs) ↔ kind c = false := by simp [StopsAt]

/-- What stops a larger class of characters stops a smaller one. -/
theorem StopsAt.mono (h : StopsAt kind cs) (hk : ∀ c, kind' c = true → kind c = true) :
    StopsAt kind' cs := by
  intro c hc
  have hkind := h c hc
  cases hk' : kind' c with
  | false => rfl
  | true => rw [hk c hk'] at hkind; cases hkind

/-- A run of characters is read up to what stops it. -/
theorem takeWhile_append (h : ∀ c ∈ ds, kind c = true) (hr : StopsAt kind rest) :
    (ds ++ rest).takeWhile kind = ds := by
  rw [List.takeWhile_append_of_pos h]
  cases rest with
  | nil => simp
  | cons c cs => simp [stopsAt_cons.mp hr]

/-- Behind a run of characters what stops it is left. -/
theorem dropWhile_append (h : ∀ c ∈ ds, kind c = true) (hr : StopsAt kind rest) :
    (ds ++ rest).dropWhile kind = rest := by
  rw [List.dropWhile_append_of_pos h]
  cases rest with
  | nil => rfl
  | cons c cs => simp [stopsAt_cons.mp hr]

end StopsAt

namespace Numeral

/-- Digits, one or more. -/
def Digits (ds : List Char) : Prop := ds ≠ [] ∧ ∀ c ∈ ds, c.isDigit = true

/-- The digits of the numeral stand as the grammar has them. -/
structure Written (n : Numeral) : Prop where
  whole : Digits n.whole
  /-- A leading zero stands alone. -/
  zero : n.whole.head? = some '0' → n.whole = ['0']
  fraction : ∀ c ∈ n.fraction, c.isDigit = true
  exponent : ∀ negative ds, n.exponent = some (negative, ds) → Digits ds

/-- The point and the digits after it, if there are any. -/
def pointed (ds : List Char) : List Char := if ds.isEmpty then [] else '.' :: ds

/-- Digits with their sign. -/
def signed (negative : Bool) (ds : List Char) : List Char := if negative then '-' :: ds else ds

/-- The exponent as it is printed, if there is one. -/
def powered : Option (Bool × List Char) → List Char
  | none => []
  | some (negative, ds) => 'e' :: signed negative ds

variable {n : Numeral} {ds cs rest : List Char}

/-- The parts of a printed numeral, one after another. -/
theorem print_append (n : Numeral) (rest : List Char) : n.print ++ rest =
    signed n.negative (n.whole ++ (pointed n.fraction ++ (powered n.exponent ++ rest))) := by
  obtain ⟨negative, whole, fraction, exponent⟩ := n
  rcases exponent with _ | ⟨(_ | _), ds⟩ <;> cases negative <;>
    simp [print, signed, pointed, powered]

theorem Digits.cons (h : Digits ds) : ∃ d ds', ds = d :: ds' ∧ d.isDigit = true := by
  obtain ⟨hne, hd⟩ := h
  cases ds with
  | nil => exact absurd rfl hne
  | cons d ds' => exact ⟨d, ds', rfl, hd d List.mem_cons_self⟩

theorem digits_takeWhile (h : cs.takeWhile Char.isDigit ≠ []) :
    Digits (cs.takeWhile Char.isDigit) :=
  ⟨h, List.all_eq_true.mp List.all_takeWhile⟩

/-! ## From the text to the numeral -/

/-- What stops a numeral stops the digits before the exponent. -/
theorem stopsAt_powered (e : Option (Bool × List Char)) (hr : StopsAt prolongs rest) :
    StopsAt (fun c => c.isDigit || c == '.') (powered e ++ rest) := by
  cases e with
  | none =>
    refine hr.mono fun c hc => ?_
    simp only [prolongs, hc, Bool.true_or]
  | some p => exact stopsAt_cons.mpr (by decide)

theorem stopsAt_pointed (ds : List Char) (e : Option (Bool × List Char))
    (hr : StopsAt prolongs rest) :
    StopsAt Char.isDigit (pointed ds ++ (powered e ++ rest)) := by
  cases ds with
  | nil =>
    refine (stopsAt_powered e hr).mono fun c hc => ?_
    simp only [hc, Bool.true_or]
  | cons d ds => exact stopsAt_cons.mpr (by decide)

/-- The digits before the point are read back. -/
theorem readWhole_append (h : Digits ds) (hz : ds.head? = some '0' → ds = ['0'])
    (hr : StopsAt Char.isDigit rest) : readWhole (ds ++ rest) = some (ds, rest) := by
  obtain ⟨d, ds', rfl, -⟩ := h.cons
  unfold readWhole
  split
  · next rest' he =>
    obtain ⟨rfl, -⟩ := List.cons.inj he
    rw [hz rfl] at he ⊢
    rw [← (List.cons.inj he).2]
    rfl
  · rw [takeWhile_append h.2 hr, dropWhile_append h.2 hr]

/-- The digits behind the point are read back. -/
theorem readFraction_append (h : ∀ c ∈ ds, c.isDigit = true)
    (hr : StopsAt (fun c => c.isDigit || c == '.') rest) :
    readFraction (pointed ds ++ rest) = some (ds, rest) := by
  cases ds with
  | nil =>
    show readFraction rest = _
    unfold readFraction
    split
    · exact absurd (stopsAt_cons.mp hr) (by decide)
    · rfl
  | cons d ds =>
    have hr' : StopsAt Char.isDigit rest := hr.mono fun c hc => by simp only [hc, Bool.true_or]
    show readFraction ('.' :: ((d :: ds) ++ rest)) = _
    unfold readFraction
    simp only [takeWhile_append h hr', dropWhile_append h hr']

/-- The sign of an exponent is read back. -/
theorem readSign_signed (h : Digits ds) (negative : Bool) (rest : List Char) :
    readSign (signed negative ds ++ rest) = (negative, ds ++ rest) := by
  cases negative with
  | true => rfl
  | false =>
    -- without a sign a digit comes first
    obtain ⟨d, ds', rfl, hd⟩ := h.cons
    show readSign (d :: (ds' ++ rest)) = _
    unfold readSign
    split
    · next he =>
      obtain ⟨rfl, -⟩ := List.cons.inj he
      cases hd
    · next he =>
      obtain ⟨rfl, -⟩ := List.cons.inj he
      cases hd
    · rfl

/-- The exponent is read back. -/
theorem readExponent_append {e : Option (Bool × List Char)}
    (h : ∀ negative ds, e = some (negative, ds) → Digits ds) (hr : StopsAt prolongs rest) :
    readExponent (powered e ++ rest) = some (e, rest) := by
  cases e with
  | none =>
    show readExponent rest = _
    unfold readExponent
    split
    · exact absurd (stopsAt_cons.mp hr) (by decide)
    · exact absurd (stopsAt_cons.mp hr) (by decide)
    · rfl
  | some p =>
    obtain ⟨negative, ds⟩ := p
    have hds := h negative ds rfl
    -- what stops a numeral is no digit, so it stops the power too
    have hr' : StopsAt Char.isDigit rest := hr.mono fun c hc => by
      simp only [prolongs, hc, Bool.true_or]
    show readPower (signed negative ds ++ rest) = _
    unfold readPower
    rw [readSign_signed hds]
    simp only [takeWhile_append hds.2 hr', dropWhile_append hds.2 hr']
    obtain ⟨d, ds', rfl, -⟩ := hds.cons
    rfl

/-- A numeral is read back behind its sign. -/
theorem readUnsigned_append (h : n.Written) (hr : StopsAt prolongs rest) :
    readUnsigned n.negative (n.whole ++ (pointed n.fraction ++ (powered n.exponent ++ rest))) =
      some (n, rest) := by
  unfold readUnsigned
  rw [readWhole_append h.whole h.zero (stopsAt_pointed _ _ hr)]
  simp only [Option.bind_eq_bind, Option.bind_some]
  rw [readFraction_append h.fraction (stopsAt_powered _ hr)]
  simp only [Option.bind_some]
  rw [readExponent_append h.exponent hr]
  rfl

/-- **A written numeral is read back**, in front of whatever does not prolong it. -/
theorem read_print (h : n.Written) (hr : StopsAt prolongs rest) :
    read (n.print ++ rest) = some (n, rest) := by
  have hread := readUnsigned_append h hr
  rw [print_append]
  cases hn : n.negative with
  | true => rw [hn] at hread; exact hread
  | false =>
    rw [hn] at hread
    obtain ⟨d, ds, hw, hd⟩ := h.whole.cons
    rw [hw] at hread ⊢
    show read (d :: (ds ++ _)) = _
    unfold read
    split
    · next he =>
      obtain ⟨rfl, -⟩ := List.cons.inj he
      cases hd
    · exact hread

/-- The first character of a numeral is a digit or the sign. -/
theorem Written.head (h : n.Written) :
    ∃ c cs, n.print = c :: cs ∧ (c.isDigit = true ∨ c = '-') := by
  have hprint := print_append n []
  rw [List.append_nil] at hprint
  cases hn : n.negative with
  | true =>
    rw [hn] at hprint
    exact ⟨'-', _, hprint, .inr rfl⟩
  | false =>
    obtain ⟨d, ds, hw, hd⟩ := h.whole.cons
    rw [hn, hw] at hprint
    exact ⟨d, _, hprint, .inl hd⟩

/-! ## What is read -/

/-- What is read before the point are digits, a zero alone. -/
theorem readWhole_eq_some (h : readWhole cs = some (ds, rest)) :
    Digits ds ∧ (ds.head? = some '0' → ds = ['0']) := by
  unfold readWhole at h
  split at h
  · cases h
    exact ⟨⟨by simp, fun c hc => by rw [List.mem_singleton.mp hc]; rfl⟩, fun _ => rfl⟩
  · next hno =>
    split at h
    · cases h
    · next hne =>
      cases h
      refine ⟨digits_takeWhile hne, fun hz => ?_⟩
      rw [List.head?_takeWhile, Option.filter_eq_some_iff, List.head?_eq_some_iff] at hz
      obtain ⟨⟨rest', he⟩, -⟩ := hz
      exact absurd he (hno rest')

/-- What is read behind the point are digits. -/
theorem readFraction_eq_some (h : readFraction cs = some (ds, rest)) :
    ∀ c ∈ ds, c.isDigit = true := by
  unfold readFraction at h
  split at h
  · split at h
    · cases h
    · next hne => cases h; exact (digits_takeWhile hne).2
  · cases h; simp

theorem readPower_eq_some {e : Option (Bool × List Char)} (h : readPower cs = some (e, rest)) :
    ∀ negative ds, e = some (negative, ds) → Digits ds := by
  unfold readPower at h
  simp only at h
  split at h
  · cases h
  · next hne =>
    cases h
    intro negative ds he
    cases he
    exact digits_takeWhile hne

/-- What is read as an exponent are digits. -/
theorem readExponent_eq_some {e : Option (Bool × List Char)}
    (h : readExponent cs = some (e, rest)) :
    ∀ negative ds, e = some (negative, ds) → Digits ds := by
  unfold readExponent at h
  split at h
  · exact readPower_eq_some h
  · exact readPower_eq_some h
  · cases h
    intro negative ds he
    cases he

/-- What is read is a numeral as it is written. -/
theorem readUnsigned_eq_some {negative : Bool} (h : readUnsigned negative cs = some (n, rest)) :
    n.Written := by
  simp only [readUnsigned, Option.bind_eq_bind, Option.bind_eq_some_iff, Option.pure_def,
    Option.some.injEq, Prod.exists, Prod.mk.injEq] at h
  obtain ⟨whole, cs₁, hw, fraction, cs₂, hf, exponent, cs₃, he, rfl, -⟩ := h
  exact ⟨(readWhole_eq_some hw).1, (readWhole_eq_some hw).2, readFraction_eq_some hf,
    readExponent_eq_some he⟩

/-- Every numeral that is read is written. -/
theorem written_of_read (h : read cs = some (n, rest)) : n.Written := by
  unfold read at h
  split at h
  · exact readUnsigned_eq_some h
  · exact readUnsigned_eq_some h

/-! ## Integers -/

/-- A natural number is written in digits. -/
theorem digits_toDigits (n : Nat) : Digits (Nat.toDigits 10 n) :=
  ⟨Nat.toDigits_ne_nil, fun _ => Nat.isDigit_of_mem_toDigits (by decide) (by decide)⟩

/-- Only zero is written with a leading zero. -/
theorem eq_zero_of_head_toDigits {n : Nat} (h : (Nat.toDigits 10 n).head? = some '0') : n = 0 := by
  induction n using Nat.strongRecOn with
  | ind n ih =>
    rw [Nat.toDigits_eq_if (by decide)] at h
    split at h
    · simpa using h
    · next hn =>
      -- the first digit is that of the number without its last digit
      obtain ⟨d, ds, he, -⟩ := (digits_toDigits (n / 10)).cons
      rw [he] at h
      have hzero := ih (n / 10) (by omega) (by rw [he]; exact h)
      omega

/-- The numeral of an integer is one as it is written. -/
theorem written_ofInt (i : Int) : (ofInt i).Written := by
  have hz : ∀ n, (Nat.toDigits 10 n).head? = some '0' → Nat.toDigits 10 n = ['0'] := by
    intro n h
    rw [eq_zero_of_head_toDigits h, Nat.toDigits_zero]
  cases i with
  | ofNat n => exact ⟨digits_toDigits n, hz n, by simp [ofInt, ofNat], by simp [ofInt, ofNat]⟩
  | negSucc n => exact ⟨digits_toDigits _, hz _, by simp [ofInt], by simp [ofInt]⟩

end Numeral

namespace Number

/-- The integers of a machine word, with a sign or without. -/
def InRange (i : Int) : Prop := -2 ^ 63 ≤ i ∧ i < 2 ^ 64

instance (i : Int) : Decidable (InRange i) := inferInstanceAs (Decidable (_ ∧ _))

/-- An integer of a word is read back from its numeral. -/
theorem int?_ofInt {i : Int} (h : InRange i) : int? (.ofInt i) = some i := by
  obtain ⟨hlow, hhigh⟩ := h
  cases i with
  | ofNat n =>
    have hn : n < UInt64.size := by
      simp only [UInt64.size, Int.ofNat_eq_natCast] at hhigh ⊢
      omega
    simp [int?, Numeral.ofInt, Numeral.ofNat, Nat.ofDigitChars_ten_toDigits, hn]
  | negSucc n =>
    have hn : ¬ (n + 1 = 0 ∨ Nat.pow 2 63 < n + 1) := by
      simp only [Nat.pow_eq]
      omega
    simp only [int?, Numeral.ofInt, Nat.ofDigitChars_ten_toDigits, if_neg hn]
    rfl

/-- The numeral of an integer that fits a machine word names that integer. -/
theorem ofNumeral?_ofInt {i : Int} (h : InRange i) : ofNumeral? (.ofInt i) = some (.int i) := by
  rw [ofNumeral?, int?_ofInt h]

end Number

end LivePatching.Json
