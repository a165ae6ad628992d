import LivePatching.Proofs.Lines

/-!
# Keys in the order of their bytes

* `utf8EncodeChar_lt`: of two characters the smaller one has the smaller code.
* `ofString_lt`: **texts in order have their bytes in UTF-8 in order**.
-/

namespace LivePatching.Bytes

section Codes

variable {m n : Nat} {x y : List UInt8}

/-- Bytes that stand for numbers, the first of which decides. -/
theorem cons_lt_of_lt (h : m % 256 < n % 256) : UInt8.ofNat m :: x < UInt8.ofNat n :: y := by
  rw [List.cons_lt_cons_iff, UInt8.lt_iff_toNat_lt, UInt8.toNat_ofNat', UInt8.toNat_ofNat']
  exact .inl h

theorem cons_lt_of_eq (h : m = n) (hxy : x < y) : UInt8.ofNat m :: x < UInt8.ofNat n :: y := by
  rw [List.cons_lt_cons_iff]
  exact .inr ⟨by rw [h], hxy⟩

/-- The last places of a code: six bits each, the higher ones first. -/
theorem places_lt (h : m % 64 < n % 64) :
    UInt8.ofNat (m % 64 + 128) :: x < UInt8.ofNat (n % 64 + 128) :: y :=
  cons_lt_of_lt (by omega)

theorem places₂_lt (h : m % 4096 < n % 4096) :
    UInt8.ofNat (m / 64 % 64 + 128) :: UInt8.ofNat (m % 64 + 128) :: x <
      UInt8.ofNat (n / 64 % 64 + 128) :: UInt8.ofNat (n % 64 + 128) :: y := by
  rcases Nat.lt_or_ge (m / 64 % 64) (n / 64 % 64) with hlt | hge
  · exact cons_lt_of_lt (by omega)
  · exact cons_lt_of_eq (by omega) (places_lt (by omega))

theorem places₃_lt (h : m % 262144 < n % 262144) :
    UInt8.ofNat (m / 4096 % 64 + 128) :: UInt8.ofNat (m / 64 % 64 + 128) ::
        UInt8.ofNat (m % 64 + 128) :: x <
      UInt8.ofNat (n / 4096 % 64 + 128) :: UInt8.ofNat (n / 64 % 64 + 128) ::
        UInt8.ofNat (n % 64 + 128) :: y := by
  rcases Nat.lt_or_ge (m / 4096 % 64) (n / 4096 % 64) with hlt | hge
  · exact cons_lt_of_lt (by omega)
  · exact cons_lt_of_eq (by omega) (places₂_lt (by omega))

end Codes

/-- Of two characters the smaller one has the smaller code, whatever stands behind the codes. -/
theorem utf8EncodeChar_lt {c d : Char} (h : c < d) (x y : List UInt8) :
    String.utf8EncodeChar c ++ x < String.utf8EncodeChar d ++ y := by
  have hlt : c.val.toNat < d.val.toNat := h
  have hd : d.val.toNat < 1114112 := by
    rcases d.valid with hd | ⟨-, hd⟩
    · exact Nat.lt_trans hd (by decide)
    · exact hd
  simp only [String.utf8EncodeChar]
  generalize c.val.toNat = m at hlt ⊢
  generalize d.val.toNat = n at hlt hd ⊢
  -- a longer code starts with a greater byte; codes of one length are compared place by place
  split
  · split
    · exact cons_lt_of_lt (by omega)
    split
    · exact cons_lt_of_lt (by omega)
    split
    · exact cons_lt_of_lt (by omega)
    · exact cons_lt_of_lt (by omega)
  split
  · rw [if_neg (by omega)]
    split
    · rcases Nat.lt_or_ge (m / 64) (n / 64) with hq | hq
      · exact cons_lt_of_lt (by omega)
      · exact cons_lt_of_eq (by omega) (places_lt (by omega))
    split
    · exact cons_lt_of_lt (by omega)
    · exact cons_lt_of_lt (by omega)
  split
  · rw [if_neg (by omega), if_neg (by omega)]
    split
    · rcases Nat.lt_or_ge (m / 4096) (n / 4096) with hq | hq
      · exact cons_lt_of_lt (by omega)
      · exact cons_lt_of_eq (by omega) (places₂_lt (by omega))
    · exact cons_lt_of_lt (by omega)
  · rw [if_neg (by omega), if_neg (by omega), if_neg (by omega)]
    rcases Nat.lt_or_ge (m / 262144) (n / 262144) with hq | hq
    · exact cons_lt_of_lt (by omega)
    · exact cons_lt_of_eq (by omega) (places₃_lt (by omega))

/-- Encoded texts are in the order of their characters. -/
theorem flatMap_utf8EncodeChar_lt {cs ds : List Char} (h : cs < ds) :
    cs.flatMap String.utf8EncodeChar < ds.flatMap String.utf8EncodeChar := by
  induction ds generalizing cs with
  | nil => cases h
  | cons d ds ih =>
    cases cs with
    | nil =>
      obtain ⟨b, bs, hb⟩ : ∃ b bs, String.utf8EncodeChar d = b :: bs :=
        List.exists_cons_of_ne_nil String.utf8EncodeChar_ne_nil
      rw [List.flatMap_nil, List.flatMap_cons, hb]
      exact List.nil_lt_cons _ _
    | cons c cs =>
      rw [List.flatMap_cons, List.flatMap_cons]
      -- the first character that differs decides, for no encoding is the beginning of another
      rcases List.cons_lt_cons_iff.mp h with hlt | ⟨rfl, hlt⟩
      · exact utf8EncodeChar_lt hlt _ _
      · exact List.append_left_lt (ih hlt)

/-- **Texts in order have their bytes in UTF-8 in order.** -/
theorem ofString_lt {s t : String} (h : s < t) : ofString s < ofString t := by
  rw [ofString_eq, ofString_eq]
  exact flatMap_utf8EncodeChar_lt h

end LivePatching.Bytes
