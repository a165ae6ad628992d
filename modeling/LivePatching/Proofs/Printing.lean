import LivePatching.Proofs.Numerals
import LivePatching.Proofs.Quoting

/-!
# Printed nodes are read back

* `Node.Written`: every text of a node has its characters, and every numeral is written.
* `readItems_print`, `readMembers_print`: items and members are read back if each node among them
  is.
* `Node.parse?_text`: **the text of a written node is read as that node.**
-/

namespace LivePatching.Json

namespace Node

/-- Every text has its characters, and every numeral is written. -/
inductive Written : Node → Prop where
  | null : Written .null
  | bool (b : Bool) : Written (.bool b)
  | num {n : Numeral} (h : n.Written) : Written (.num n)
  | str (s : String) : Written (.str (some s))
  | arr {items : List Node} (h : ∀ n ∈ items, Written n) : Written (.arr items)
  | obj {members : List (Option String × Node)} (hk : ∀ m ∈ members, ∃ k, m.1 = some k)
      (h : ∀ m ∈ members, Written m.2) : Written (.obj members)

/-- With as many nested calls as it has characters, the node is read back. -/
def ReadBack (n : Node) : Prop :=
  ∀ fuel rest, n.print.length ≤ fuel → StopsAt prolongs rest →
    readNode fuel (n.print ++ rest) = some (n, rest)

end Node

open Node

variable {c : Char} {cs rest : List Char} {fuel : Nat}

/-! ## One character ahead -/

theorem skipBlanks_cons (h : isBlank c = false) : skipBlanks (c :: cs) = c :: cs := by
  simp [skipBlanks, h]

/-- The first character of a numeral is no blank and no bracket. -/
theorem not_isBlank_numeral (hc : c.isDigit = true ∨ c = '-') : isBlank c = false ∧ c ≠ ']' := by
  constructor
  · cases hb : isBlank c with
    | false => rfl
    | true =>
      simp only [isBlank, Bool.or_eq_true, beq_iff_eq] at hb
      rcases hb with ((rfl | rfl) | rfl) | rfl <;> rcases hc with hc | hc <;> cases hc
  · rintro rfl
    rcases hc with hc | hc <;> cases hc

/-- The text of a node starts with a character that is no blank and does not end an array. -/
theorem Node.Written.head {n : Node} (h : n.Written) :
    ∃ c cs, n.print = c :: cs ∧ isBlank c = false ∧ c ≠ ']' := by
  cases h with
  | null => exact ⟨'n', _, by rw [print], by decide⟩
  | bool b => cases b <;> exact ⟨_, _, by rw [print], by decide⟩
  | num hn =>
    obtain ⟨c, cs, hp, hc⟩ := hn.head
    exact ⟨c, cs, by rw [print, hp], not_isBlank_numeral hc⟩
  | str s => exact ⟨'"', _, by rw [print]; rfl, by decide⟩
  | arr _ => exact ⟨'[', _, by rw [print], by decide⟩
  | obj _ _ => exact ⟨'\x7b', _, by rw [print], by decide⟩

/-- What starts like a numeral is read as one. -/
theorem readNode_numeral (hc : c.isDigit = true ∨ c = '-') : readNode (fuel + 1) (c :: cs) =
    (Numeral.read (c :: cs)).map fun (n, rest) => (.num n, rest) := by
  have hother : ∀ {d ds}, c :: cs = d :: ds → ¬ (d.isDigit = true ∨ d = '-') → False := by
    intro d ds he hd
    rw [(List.cons.inj he).1] at hc
    exact hd hc
  rw [readNode, skipBlanks_cons (not_isBlank_numeral hc).1]
  split
  · next he => exact (hother he (by decide)).elim
  · next he => exact (hother he (by decide)).elim
  · next he => exact (hother he (by decide)).elim
  · next he => exact (hother he (by decide)).elim
  · next he => exact (hother he (by decide)).elim
  · next he => exact (hother he (by decide)).elim
  · rfl

/-! ## Items and members -/

/-- Behind a key and a colon comes a node. -/
theorem readMembers_key (k : String) (cs : List Char) :
    readMembers (fuel + 1) (quote k ++ ':' :: cs) =
      (readNode fuel cs).bind fun (n, cs) =>
        match skipBlanks cs with
        | '\x7d' :: cs => some ([(some k, n)], cs)
        | ',' :: cs => (readMembers fuel cs).bind fun (members, cs) =>
          some ((some k, n) :: members, cs)
        | _ => none := by
  have hkey : skipBlanks (quote k ++ ':' :: cs) = quote k ++ ':' :: cs :=
    skipBlanks_cons (by decide)
  have hcolon : skipBlanks (':' :: cs) = ':' :: cs := skipBlanks_cons (by decide)
  rw [readMembers, hkey, readKey_quote]
  simp only [Option.bind_eq_bind, Option.bind_some, hcolon]
  rfl

section Rows

variable {n : Node} (hn : n.ReadBack) (hfuel : n.print.length ≤ fuel)

include hn hfuel

/-- The last item of a list is read back. -/
theorem readItems_last : readItems (fuel + 1) (n.print ++ ']' :: rest) = some ([n], rest) := by
  rw [readItems, hn fuel _ hfuel (stopsAt_cons.mpr (by decide))]
  rfl

/-- An item of a list is read back when those behind it are. -/
theorem readItems_more {items : List Node} {cs : List Char}
    (h : readItems fuel cs = some (items, rest)) :
    readItems (fuel + 1) (n.print ++ ',' :: cs) = some (n :: items, rest) := by
  rw [readItems, hn fuel _ hfuel (stopsAt_cons.mpr (by decide))]
  simp only [Option.bind_eq_bind, Option.bind_some,
    skipBlanks_cons (by decide : isBlank ',' = false)]
  rw [h]
  rfl

/-- The last member of an object is read back. -/
theorem readMembers_last (k : String) :
    readMembers (fuel + 1) (quote k ++ ':' :: (n.print ++ '\x7d' :: rest)) =
      some ([(some k, n)], rest) := by
  rw [readMembers_key, hn fuel _ hfuel (stopsAt_cons.mpr (by decide))]
  rfl

/-- A member of an object is read back when those behind it are. -/
theorem readMembers_more (k : String) {members : List (Option String × Node)} {cs : List Char}
    (h : readMembers fuel cs = some (members, rest)) :
    readMembers (fuel + 1) (quote k ++ ':' :: (n.print ++ ',' :: cs)) =
      some ((some k, n) :: members, rest) := by
  have hcomma : skipBlanks (',' :: cs) = ',' :: cs := skipBlanks_cons (by decide)
  rw [readMembers_key, hn fuel _ hfuel (stopsAt_cons.mpr (by decide))]
  simp only [Option.bind_some, hcomma, h]

end Rows

/-- Items are read back if each of them is. -/
theorem readItems_print {items : List Node} (hne : items ≠ []) (h : ∀ n ∈ items, n.ReadBack)
    (hfuel : (printItems items).length ≤ fuel) :
    readItems fuel (printItems items ++ rest) = some (items, rest) := by
  induction items generalizing fuel with
  | nil => exact absurd rfl hne
  | cons n items ih =>
    have hn := h n List.mem_cons_self
    -- behind the last item there is no comma
    cases items with
    | nil =>
      simp only [printItems, List.length_append, List.length_singleton] at hfuel
      obtain ⟨fuel, rfl⟩ : ∃ k, fuel = k + 1 := ⟨fuel - 1, by omega⟩
      rw [printItems, List.append_assoc]
      exact readItems_last hn (by omega)
    | cons n' items =>
      simp only [printItems, List.length_append, List.length_cons] at hfuel
      obtain ⟨fuel, rfl⟩ : ∃ k, fuel = k + 1 := ⟨fuel - 1, by omega⟩
      simp only [printItems, List.append_assoc, List.cons_append]
      refine readItems_more hn (by omega) (ih (by simp) (fun m hm => ?_) (by omega))
      exact h m (List.mem_cons_of_mem _ hm)

/-- Members are read back if each node among them is. -/
theorem readMembers_print {members : List (Option String × Node)} (hne : members ≠ [])
    (hk : ∀ m ∈ members, ∃ k, m.1 = some k) (h : ∀ m ∈ members, m.2.ReadBack)
    (hfuel : (printMembers members).length ≤ fuel) :
    readMembers fuel (printMembers members ++ rest) = some (members, rest) := by
  induction members generalizing fuel with
  | nil => exact absurd rfl hne
  | cons m members ih =>
    obtain ⟨k, n⟩ := m
    have hn : n.ReadBack := h (k, n) List.mem_cons_self
    obtain ⟨k, rfl⟩ := hk (k, n) List.mem_cons_self
    -- behind the last member there is no comma
    cases members with
    | nil =>
      simp only [printMembers, List.length_append, List.length_cons] at hfuel
      obtain ⟨fuel, rfl⟩ : ∃ k, fuel = k + 1 := ⟨fuel - 1, by omega⟩
      simp only [printMembers, quote?, List.append_assoc, List.cons_append, List.nil_append]
      exact readMembers_last hn (by omega) k
    | cons m' members =>
      simp only [printMembers, List.length_append, List.length_cons] at hfuel
      obtain ⟨fuel, rfl⟩ : ∃ k, fuel = k + 1 := ⟨fuel - 1, by omega⟩
      simp only [printMembers, quote?, List.append_assoc, List.cons_append]
      refine readMembers_more hn (by omega) k (ih (by simp) (fun m hm => ?_) (fun m hm => ?_)
        (by omega))
      · exact hk m (List.mem_cons_of_mem _ hm)
      · exact h m (List.mem_cons_of_mem _ hm)

/-! ## Nodes -/

theorem Node.ReadBack.of_succ {n : Node} (hn : n.Written)
    (h : ∀ fuel rest, n.print.length ≤ fuel + 1 → StopsAt prolongs rest →
      readNode (fuel + 1) (n.print ++ rest) = some (n, rest)) : n.ReadBack := by
  intro fuel rest hfuel hr
  obtain ⟨c, cs, hp, -⟩ := hn.head
  have hpos : 0 < n.print.length := by rw [hp]; exact Nat.succ_pos _
  obtain ⟨fuel, rfl⟩ : ∃ k, fuel = k + 1 := ⟨fuel - 1, by omega⟩
  exact h fuel rest hfuel hr

theorem readNode_quote (s : String) (cs : List Char) :
    readNode (fuel + 1) (quote s ++ cs) = some (.str s, cs) := by
  have hstep : readNode (fuel + 1) (quote s ++ cs) =
      (readKey (quote s ++ cs)).map fun p => (.str p.1, p.2) := rfl
  rw [hstep, readKey_quote]
  rfl

theorem readNode_items (hb : isBlank c = false) (hc : c ≠ ']') :
    readNode (fuel + 1) ('[' :: c :: cs) =
      (readItems fuel (c :: cs)).map fun (items, rest) => (.arr items, rest) := by
  have hopen : skipBlanks ('[' :: c :: cs) = '[' :: c :: cs := skipBlanks_cons (by decide)
  rw [readNode, hopen]
  simp only [skipBlanks_cons hb]
  split
  · next he => exact absurd (List.cons.inj he).1 hc
  · rfl

theorem readNode_members (cs : List Char) : readNode (fuel + 1) ('\x7b' :: '"' :: cs) =
    (readMembers fuel ('"' :: cs)).map fun (members, rest) => (.obj members, rest) := rfl

/-- A written node is read back. -/
theorem Node.Written.readBack {n : Node} (h : n.Written) : n.ReadBack := by
  -- the fuel is at least the length of the text, and what stands inside is shorter by its
  -- brackets
  induction h with
  | null => exact .of_succ .null fun fuel rest _ _ => by rw [print]; rfl
  | bool b => exact .of_succ (.bool b) fun fuel rest _ _ => by cases b <;> rw [print] <;> rfl
  | num hn =>
    refine .of_succ (.num hn) fun fuel rest _ hr => ?_
    obtain ⟨c, cs, hp, hc⟩ := hn.head
    have hread := Numeral.read_print hn hr
    rw [print, hp, List.cons_append, readNode_numeral hc, ← List.cons_append, ← hp, hread]
    rfl
  | str s => exact .of_succ (.str s) fun fuel rest _ _ => by rw [print]; exact readNode_quote s rest
  | @arr items h ih =>
    refine .of_succ (.arr h) fun fuel rest hfuel _ => ?_
    rw [print] at hfuel ⊢
    cases items with
    | nil => rfl
    | cons n items =>
      have hitems : readItems fuel (printItems (n :: items) ++ rest) = some (n :: items, rest) :=
        readItems_print (by simp) ih (by simpa using hfuel)
      obtain ⟨c, cs, hp, hb, hc⟩ := (h n List.mem_cons_self).head
      obtain ⟨cs', hp'⟩ : ∃ cs', printItems (n :: items) = c :: cs' := by
        cases items <;> simp [printItems, hp]
      rw [hp', List.cons_append] at hitems
      rw [hp', List.cons_append, List.cons_append, readNode_items hb hc, hitems]
      rfl
  | @obj members hk h ih =>
    refine .of_succ (.obj hk h) fun fuel rest hfuel _ => ?_
    rw [print] at hfuel ⊢
    cases members with
    | nil => rfl
    | cons m members =>
      have hmembers : readMembers fuel (printMembers (m :: members) ++ rest) =
          some (m :: members, rest) := readMembers_print (by simp) hk ih (by simpa using hfuel)
      obtain ⟨k, n⟩ := m
      obtain ⟨k, rfl⟩ := hk (k, n) List.mem_cons_self
      obtain ⟨cs, hp⟩ : ∃ cs, printMembers ((some k, n) :: members) = '"' :: cs := by
        cases members <;> simp [printMembers, quote?, quote]
      rw [hp, List.cons_append] at hmembers
      rw [hp, List.cons_append, List.cons_append, readNode_members, hmembers]
      rfl

/-- **The text of a written node is read as that node.** -/
theorem Node.Written.parse?_text {n : Node} (h : n.Written) : Node.parse? n.text = some n := by
  have hread := h.readBack (2 * n.print.length + 2) [] (by omega) stopsAt_nil
  rw [List.append_nil] at hread
  rw [parse?, text, String.toList_ofList, read?, hread]
  rfl

end LivePatching.Json
