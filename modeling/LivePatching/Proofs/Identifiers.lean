import Mathlib.Data.List.Induction
import Mathlib.Data.Nat.Digits.Defs
import LivePatching.Proofs.Lookup
import LivePatching.Proofs.Trimming
import LivePatching.Proofs.Write

/-!
# Values that name an entity

A value of the form names an entity by the number of its identifier: as a number that is written
with digits alone, or as a text that spells the number out.

* `Text.decimal`: the number that decimal digits stand for.
* `Text.Spells`, `Text.ofSignedDigits?_trim`: a text is read if it spells a number: digits between
  blanks, with one plus sign before them or without.
* `Names`, `names_numeral`: the number that a value names; of numerals only those without sign,
  point and exponent name any.
* `parseId_names`: **a value is read as the identifier that it names, and as none if it names
  none.**
-/

namespace LivePatching

open Json

/-! ## Numbers in decimal digits -/

namespace Text

variable {cs ds : List Char} {c : Char} {n : Nat}

/-- The number that decimal digits stand for: the last digit counts once, and each other ten times
as much as it would one place further on. -/
def decimal (ds : List Char) : Nat := Nat.ofDigits 10 (ds.reverse.map fun d => d.toNat - '0'.toNat)

theorem ofDigitChars_eq_decimal (ds : List Char) : Nat.ofDigitChars 10 ds 0 = decimal ds := by
  induction ds using List.reverseRecOn with
  | nil => rfl
  | append_singleton ds d ih =>
    rw [Nat.ofDigitChars_append, ih, decimal, decimal, List.reverse_append, List.reverse_singleton,
      List.singleton_append, List.map_cons, Nat.ofDigits_cons, Nat.add_comm]
    rfl

/-- A text of digits is read as the number it spells. -/
theorem ofDigits?_eq_some : ofDigits? ds = some n ↔ Numeral.Digits ds ∧ decimal ds = n := by
  unfold ofDigits?
  rw [Option.ite_none_right_eq_some, ofDigitChars_eq_decimal, List.all_eq_true, Option.some.injEq]
  rfl

/-- The text is a number in decimal digits, with one plus sign before them or without, and with
blanks around it or without. -/
inductive Spells : List Char → Nat → Prop where
  | intro {before sign digits after : List Char} (hblank : ∀ c ∈ before ++ after, isBlank c = true)
      (hsign : sign = [] ∨ sign = ['+']) (hdigits : Numeral.Digits digits) :
    Spells (before ++ (sign ++ digits) ++ after) (decimal digits)

/-- A plus sign before the digits changes nothing. -/
theorem ofSignedDigits?_eq_some : ofSignedDigits? cs = some n ↔
    ∃ sign digits, (sign = [] ∨ sign = ['+']) ∧ cs = sign ++ digits ∧ Numeral.Digits digits ∧
      decimal digits = n := by
  constructor
  · intro h
    unfold ofSignedDigits? at h
    split at h
    · exact ⟨['+'], _, .inr rfl, rfl, ofDigits?_eq_some.mp h⟩
    · exact ⟨[], _, .inl rfl, rfl, ofDigits?_eq_some.mp h⟩
  · rintro ⟨sign, digits, rfl | rfl, rfl, hdigits⟩
    · -- no digit is a plus sign
      obtain ⟨d, ds, rfl, hd⟩ := hdigits.1.cons
      unfold ofSignedDigits?
      split
      · next he =>
        obtain ⟨rfl, -⟩ := List.cons.inj he
        cases hd
      · exact ofDigits?_eq_some.mpr hdigits
    · exact ofDigits?_eq_some.mpr hdigits

/-- No digit is a blank. -/
theorem not_isBlank_of_isDigit (h : c.isDigit = true) : isBlank c = false := by
  have hrange : '0'.val ≤ c.val ∧ c.val ≤ '9'.val := by simpa [Char.isDigit] using h
  rw [Bool.eq_false_iff]
  intro hb
  simp only [isBlank, Bool.or_eq_true, Bool.and_eq_true, decide_eq_true_eq, beq_iff_eq,
    or_assoc, Char.le_def] at hb
  -- of the blanks one range lies before the digits and one behind; the others are single
  rcases hb with hb | rfl | rfl | rfl | rfl | hb | rfl | rfl | rfl | rfl | rfl <;>
    first | cases h | grind

/-- Neither the sign nor the digits are blank, so they are what is left without the blanks. -/
theorem ofSignedDigits?_trim : ofSignedDigits? (trim cs) = some n ↔ Spells cs n := by
  rw [ofSignedDigits?_eq_some]
  constructor
  · rintro ⟨sign, digits, hsign, htrim, hdigits, rfl⟩
    obtain ⟨-, before, after, hblank, he⟩ := exists_eq_trim cs
    rw [he, htrim]
    exact .intro hblank hsign hdigits
  · rintro @⟨before, sign, digits, after, hblank, hsign, hdigits⟩
    have hplain : ∀ c ∈ sign ++ digits, isBlank c = false := by
      refine List.forall_mem_append.mpr ⟨?_, fun c hc => not_isBlank_of_isDigit (hdigits.2 c hc)⟩
      rcases hsign with rfl | rfl
      · exact List.forall_mem_nil _
      · exact List.forall_mem_singleton.mpr (by decide)
    exact ⟨sign, digits, hsign,
      trim_eq_iff.mpr ⟨trimmed_of_forall hplain, before, after, hblank, rfl⟩, hdigits, rfl⟩

end Text

/-! ## Values -/

namespace EntityId

variable {id : EntityId} {n : Nat}

theorem toNat_inj {id' : EntityId} : id.toNat = id'.toNat ↔ id = id' := by
  refine ⟨fun h => congrArg EntityId.mk (UInt64.toNat_inj.mp h), congrArg toNat⟩

theorem toNat_lt (id : EntityId) : id.toNat < 2 ^ 64 := id.val.toNat_lt

/-- A number is an identifier exactly when it fits a word. -/
theorem map_toNat_ofNat? {m n : Nat} : (ofNat? m).map toNat = some n ↔ n < 2 ^ 64 ∧ m = n := by
  unfold ofNat?
  split
  · next hm =>
    rw [Option.map_some, Option.some.injEq]
    show (UInt64.ofNat m).toNat = n ↔ _
    rw [UInt64.toNat_ofNat_of_lt' hm]
    exact ⟨fun h => ⟨h ▸ hm, h⟩, fun h => h.2⟩
  · next hm =>
    refine ⟨fun h => (by cases h), fun ⟨hn, he⟩ => absurd hn ?_⟩
    exact he ▸ hm

end EntityId

/-- The number that a value names. -/
inductive Names : Value → Nat → Prop where
  | number (n : Nat) : Names (.num (.int n)) n
  | text {s : String} {n : Nat} (h : Text.Spells s.toList n) : Names (.str s) n

variable {v : Value} {n : Nat}

theorem names_str {s : String} : Names (.str s) n ↔ Text.Spells s.toList n := by
  constructor
  · rintro ⟨⟩
    assumption
  · exact .text

theorem names_num {x : Number} : Names (.num x) n ↔ x = .int n := by
  constructor
  · rintro ⟨⟩
    rfl
  · rintro rfl
    exact .number n

/-- A value is read as what it names. -/
theorem map_parseId : (parseId v).map EntityId.toNat = some n ↔ n < 2 ^ 64 ∧ Names v n := by
  unfold parseId
  split
  · next m =>
    rw [EntityId.map_toNat_ofNat?, names_num, Number.int.injEq, Int.ofNat_eq_natCast, Nat.cast_inj]
  · next s =>
    rw [names_str, ← Text.ofSignedDigits?_trim, Option.bind_eq_bind, Option.map_bind,
      Option.bind_eq_some_iff]
    simp only [Function.comp_apply, EntityId.map_toNat_ofNat?]
    constructor
    · rintro ⟨m, hm, hn, rfl⟩
      exact ⟨hn, hm⟩
    · exact fun ⟨hn, hm⟩ => ⟨n, hm, hn, rfl⟩
  · next hnum hstr =>
    refine ⟨fun h => (by cases h), fun ⟨_, h⟩ => ?_⟩
    cases h with
    | number => exact (hnum n rfl).elim
    | text => exact (hstr _ rfl).elim

/-- The numerals of a natural number: its digits without sign, point or exponent. -/
theorem int?_eq_natCast {num : Numeral} : Number.int? num = some (n : Int) ↔
    n < 2 ^ 64 ∧ num.negative = false ∧ num.fraction = [] ∧ num.exponent = none ∧
      Text.decimal num.whole = n := by
  obtain ⟨negative, whole, fraction, exponent⟩ := num
  simp only [Number.int?, Text.ofDigitChars_eq_decimal, Bool.and_eq_true, List.isEmpty_iff,
    Option.isNone_iff_eq_none]
  by_cases hplain : fraction = [] ∧ exponent = none
  · rw [if_pos hplain]
    cases negative with
    | true =>
      -- zero has no sign, and what has one is below zero
      refine ⟨fun h => ?_, fun h => (by cases h.2.1)⟩
      rw [if_pos rfl, Option.ite_none_left_eq_some, not_or, Option.some.injEq] at h
      omega
    | false =>
      rw [if_neg Bool.false_ne_true, Option.ite_none_right_eq_some, Option.some.injEq, Nat.cast_inj]
      constructor
      · rintro ⟨hn, rfl⟩
        exact ⟨hn, rfl, hplain.1, hplain.2, rfl⟩
      · rintro ⟨hn, -, -, -, rfl⟩
        exact ⟨hn, rfl⟩
  · rw [if_neg hplain]
    exact ⟨fun h => (by cases h), fun h => (hplain ⟨h.2.2.1, h.2.2.2.1⟩).elim⟩

/-- A numeral becomes an integer exactly when it is one. -/
theorem ofNumeral?_int {num : Numeral} {x : Number} (h : Number.ofNumeral? num = some x) :
    x = .int n ↔ Number.int? num = some (n : Int) := by
  unfold Number.ofNumeral? at h
  cases hint : Number.int? num with
  | some i =>
    rw [hint] at h
    cases h
    simp
  | none =>
    rw [hint] at h
    obtain ⟨y, -, rfl⟩ := Option.map_eq_some_iff.mp h
    simp

/-- Of numbers only those name one that are written with digits alone. -/
theorem names_numeral {levels : Nat} {num : Numeral}
    (h : Value.ofNode? levels (.num num) = some v) :
    Names v n ↔ n < 2 ^ 64 ∧ num.negative = false ∧ num.fraction = [] ∧ num.exponent = none ∧
      Text.decimal num.whole = n := by
  rw [Value.ofNode?, Option.map_eq_some_iff] at h
  obtain ⟨x, hx, rfl⟩ := h
  rw [names_num, ofNumeral?_int hx, int?_eq_natCast]

namespace FormModel

/-- An identifier that is set is read back. -/
theorem id_setId (m : FormModel) (f : Field) (id : Option EntityId) : (m.setId f id).id f = id := by
  rw [setId, id_set, if_pos rfl, parseId_idValue]

/-- To set one identifier leaves the other keys as they are. -/
theorem get?_setId_of_ne (m : FormModel) {f : Field} {key : String} (h : key ≠ f.key)
    (id : Option EntityId) : (m.setId f id).get? key = m.get? key := by
  rw [setId, get?_set, if_neg h.symm]

end FormModel

/-- The text of an identifier spells it, with blanks around it too. -/
theorem spells_text (id : EntityId) {before after : List Char}
    (h : ∀ c ∈ before ++ after, Text.isBlank c = true) :
    Text.Spells (before ++ id.text.toList ++ after) id.toNat := by
  have hdecimal : Text.decimal id.text.toList = id.toNat := by
    rw [← Text.ofDigitChars_eq_decimal, EntityId.toList_text, Nat.ofDigitChars_ten_toDigits]
  have hspells := Text.Spells.intro h (.inl rfl) id.plain_text.digits
  rwa [List.nil_append, hdecimal] at hspells

/-- The values that are read as an identifier. -/
theorem parseId_eq_some {id : EntityId} : parseId v = some id ↔ Names v id.toNat := by
  constructor
  · intro h
    exact (map_parseId.mp (by rw [h, Option.map_some])).2
  · intro h
    obtain ⟨id', hid, hnat⟩ := Option.map_eq_some_iff.mp (map_parseId.mpr ⟨id.toNat_lt, h⟩)
    rw [hid, EntityId.toNat_inj.mp hnat]

/-- The values that are read as no identifier. -/
theorem parseId_eq_none : parseId v = none ↔ ∀ n < 2 ^ 64, ¬ Names v n := by
  rw [← Option.map_eq_none_iff (f := EntityId.toNat), Option.eq_none_iff_forall_ne_some]
  simp only [ne_eq, map_parseId, not_and]

/-- **A value is read as the identifier that it names**, and as none if it names none. What is
written for an identifier is read as that, and so is its text with blanks around it; a field that
is set holds what was set, and the other keys keep their values. -/
theorem parseId_names :
    (∀ v n, (parseId v).map EntityId.toNat = some n ↔ n < 2 ^ 64 ∧ Names v n) ∧
    (∀ v, parseId v = none ↔ ∀ n < 2 ^ 64, ¬ Names v n) ∧
    (∀ levels num v, Value.ofNode? levels (.num num) = some v → ∀ n, Names v n ↔
      n < 2 ^ 64 ∧ num.negative = false ∧ num.fraction = [] ∧ num.exponent = none ∧
        Text.decimal num.whole = n) ∧
    (∀ id, parseId (idValue id) = id) ∧
    (∀ (id : EntityId) (before after : List Char), (∀ c ∈ before ++ after, Text.isBlank c = true) →
      parseId (.str (String.ofList (before ++ id.text.toList ++ after))) = some id) ∧
    ∀ (m : FormModel) (f : Field) (id : Option EntityId), (m.setId f id).id f = id ∧
      ∀ key, key ≠ f.key → (m.setId f id).get? key = m.get? key := by
  -- what is accepted, what is not, the same on numerals, and what is printed is read back
  refine ⟨fun v n => map_parseId, fun v => parseId_eq_none, fun levels num v h n => names_numeral h,
    parseId_idValue, fun id before after h => ?_, fun m f id => ⟨m.id_setId f id, fun key h => ?_⟩⟩
  · rw [parseId_eq_some, names_str, String.toList_ofList]
    exact spells_text id h
  · exact m.get?_setId_of_ne h id

/-- The largest identifier: with a sign and a zero before it and with blanks around it, and as a
numeral. The number after it is none. -/
theorem parseId_names_largest :
    (parseId (.str "\u2003+018446744073709551615\n")).map EntityId.toNat =
        some 18446744073709551615 ∧
      parseId (.str "18446744073709551616") = none ∧
      parseId (.str "\u2003\u00a018446744073709551615\x0c") = some ⟨18446744073709551615⟩ ∧
      ∀ v, Value.ofNode? 0 (.num ⟨false, "18446744073709551615".toList, [], none⟩) = some v →
        Names v 18446744073709551615 := by
  obtain ⟨hnames, -, hnumeral, -, hblank, -⟩ := parseId_names
  have hdigits : Numeral.Digits "018446744073709551615".toList :=
    ⟨by decide, List.all_eq_true.mp (by decide)⟩
  have haround : ∀ c ∈ ['\u2003'] ++ ['\n'], Text.isBlank c = true :=
    List.all_eq_true.mp (by decide)
  have hspells : Text.Spells "\u2003+018446744073709551615\n".toList 18446744073709551615 :=
    .intro haround (.inr rfl) hdigits
  refine ⟨(hnames _ _).mpr ⟨by decide, .text hspells⟩, by decide, ?_, fun v hv => ?_⟩
  · exact hblank ⟨18446744073709551615⟩ ['\u2003', '\u00a0'] ['\x0c']
      (List.all_eq_true.mp (by decide))
  · exact (hnumeral 0 _ v hv _).mpr ⟨by decide, rfl, rfl, rfl, by decide⟩

end LivePatching
