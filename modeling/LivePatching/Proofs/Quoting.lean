import Mathlib.Tactic.Common
import LivePatching.Json.Reader

/-!
# Quoted texts are read back

* `readPieces_escape`: the escape of a character is read as that character.
* `readKey_quote`: **a quoted text is read back**, whatever follows it.
-/

namespace LivePatching.Json

/-- The four digits of a control character name that character. -/
theorem unit?_control {n : Nat} (h : n < 32) :
    unit? '0' '0' (Nat.digitChar (n / 16)) (Nat.digitChar (n % 16)) = some n := by
  have hall : ∀ n < 32,
      unit? '0' '0' (Nat.digitChar (n / 16)) (Nat.digitChar (n % 16)) = some n := by decide
  exact hall n h

theorem ofUnit_control {c : Char} (h : c.toNat < 32) : Piece.ofUnit c.toNat = .char c := by
  have hlow : ¬ 0xd800 ≤ c.toNat ∧ ¬ 0xdc00 ≤ c.toNat := by omega
  simp [Piece.ofUnit, isLeading, isTrailing, hlow, Char.ofNat_toNat]

/-- The escape of a character is read as that character. -/
theorem readPieces_escape (c : Char) (rest : List Char) :
    readPieces (escape c ++ rest) =
      (readPieces rest).map fun (ps, rest) => (.char c :: ps, rest) := by
  unfold escape
  split
  · next h => subst h; rfl
  split
  · next h => subst h; rfl
  split
  · next h => subst h; rfl
  split
  · next h => subst h; rfl
  split
  · next h => subst h; rfl
  split
  · next h => subst h; rfl
  split
  · next h => subst h; rfl
  split
  · next h =>
    simp only [List.cons_append, List.nil_append, readPieces, unit?_control h, ofUnit_control h]
  · next hquote hback _ _ _ _ _ h =>
    -- a character that stands for itself is neither a quote nor a backslash nor a control character
    show readPieces (c :: rest) = _
    rw [readPieces.eq_def]
    split
    · next he => cases he
    · next he => exact absurd (List.cons.inj he).1 hquote
    · next he => exact absurd (List.cons.inj he).1 hback
    · next he => exact absurd (List.cons.inj he).1 hback
    · next he =>
      obtain ⟨rfl, rfl⟩ := List.cons.inj he
      rw [if_neg h]

/-- Escaped characters are read back up to the quote. -/
theorem readPieces_escapes (cs rest : List Char) :
    readPieces (cs.flatMap escape ++ '"' :: rest) = some (cs.map .char, rest) := by
  induction cs with
  | nil => rfl
  | cons c cs ih => rw [List.flatMap_cons, List.append_assoc, readPieces_escape, ih]; rfl

theorem assemble_chars (cs : List Char) : assemble (cs.map .char) = some cs := by
  induction cs with
  | nil => rfl
  | cons c cs ih => rw [List.map_cons, assemble, ih]; rfl

/-- **A quoted text is read back**, whatever follows it. -/
theorem readKey_quote (s : String) (rest : List Char) :
    readKey (quote s ++ rest) = some (some s, rest) := by
  have hquote : quote s ++ rest = '"' :: (s.toList.flatMap escape ++ '"' :: rest) := by
    simp [quote]
  rw [hquote, readKey, readPieces_escapes]
  simp only [Option.map_some, assemble_chars, String.ofList_toList]

end LivePatching.Json
