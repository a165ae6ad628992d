/-!
# Dictionaries in key order

A dictionary is a list of pairs in strictly increasing order of its keys. Keys are compared by
code points, which is also the order of their UTF-8 bytes.

* `get?_insert`, `get?_erase`: what an insertion or a removal changes for a later look-up.
* `Ordered.insert`, `Ordered.erase`: both keep the order, so `ofPairs` is in order.
* `Ordered.ofPairs_eq`: pairs that are in order already stay as they are.
* `Ordered.ext`: dictionaries in which all look-ups agree are the same.
-/

namespace LivePatching

/-- A map from texts, as a list of pairs; the operations keep it sorted by key. -/
abbrev Dict (α : Type u) := List (String × α)

namespace Dict

variable {α : Type u}

/-- The value of the first pair with the key. -/
def get? (d : Dict α) (key : String) : Option α :=
  match d with
  | [] => none
  | (k, v) :: rest => if k = key then some v else get? rest key

/-- Puts a value in the place of the key, at its position in the order if the key is new. -/
def insert (d : Dict α) (key : String) (value : α) : Dict α :=
  match d with
  | [] => [(key, value)]
  | (k, v) :: rest =>
    if k = key then (key, value) :: rest
    else if key < k then (key, value) :: (k, v) :: rest
    else (k, v) :: insert rest key value

/-- All pairs but those with the key. -/
def erase (d : Dict α) (key : String) : Dict α := d.filter fun p => p.1 ≠ key

/-- Of pairs with the same key the last one stays. -/
def ofPairs (pairs : List (String × α)) : Dict α := pairs.foldl (fun d p => insert d p.1 p.2) []

/-- The keys in the order of the pairs. -/
def keys (d : Dict α) : List String := d.map (·.1)

/-- The keys increase strictly. -/
def Ordered (d : Dict α) : Prop := d.Pairwise fun p q => p.1 < q.1

instance (d : Dict α) : Decidable (Ordered d) := inferInstanceAs (Decidable (List.Pairwise _ d))

@[simp] theorem get?_nil (key : String) : get? ([] : Dict α) key = none := rfl

/-- After an insertion the key has the new value, and every other key what it had. -/
theorem get?_insert (d : Dict α) (key key' : String) (value : α) :
    get? (insert d key value) key' = if key = key' then some value else get? d key' := by
  induction d with
  | nil => simp [insert, get?]
  | cons p rest ih =>
    obtain ⟨k, v⟩ := p
    unfold insert
    split
    · next h => subst h; simp only [get?]; split <;> rfl
    · next h =>
      split
      · simp only [get?]
      · simp only [get?, ih]
        split
        · next hk => subst hk; rw [if_neg (fun e => h e.symm)]
        · rfl

theorem mem_insert {d : Dict α} {key : String} {value : α} {p : String × α}
    (h : p ∈ insert d key value) : p = (key, value) ∨ p ∈ d := by
  induction d with
  | nil => exact .inl (by simpa [insert] using h)
  | cons q rest ih =>
    unfold insert at h
    split at h
    · rcases List.mem_cons.1 h with h | h
      · exact .inl h
      · exact .inr (.tail _ h)
    · split at h
      · rcases List.mem_cons.1 h with h | h
        · exact .inl h
        · exact .inr h
      · rcases List.mem_cons.1 h with h | h
        · exact .inr (h ▸ .head _)
        · exact (ih h).imp_right (.tail _)

/-- After an erasure the key has no value, and every other key what it had. -/
theorem get?_erase (d : Dict α) (key key' : String) :
    get? (erase d key) key' = if key = key' then none else get? d key' := by
  induction d with
  | nil => simp [erase]
  | cons p rest ih =>
    obtain ⟨k, v⟩ := p
    unfold erase at ih ⊢
    rw [List.filter_cons]
    by_cases hk : k = key
    · subst hk
      simp only [ne_eq, not_true_eq_false, decide_false, Bool.false_eq_true, if_false, ih, get?]
      split <;> rfl
    · simp only [ne_eq, hk, not_false_eq_true, decide_true, if_true, get?, ih]
      by_cases hk' : k = key'
      · rw [if_pos hk', if_pos hk', if_neg fun he => hk (hk'.trans he.symm)]
      · rw [if_neg hk', if_neg hk']

theorem Ordered.erase {d : Dict α} (h : Ordered d) (key : String) : Ordered (d.erase key) :=
  h.filter _

/-- An insertion keeps the keys in order. -/
theorem Ordered.insert {d : Dict α} (h : Ordered d) (key : String) (value : α) :
    Ordered (d.insert key value) := by
  induction d with
  | nil => exact List.pairwise_singleton _ _
  | cons p rest ih =>
    obtain ⟨k, v⟩ := p
    obtain ⟨hk, hrest⟩ := List.pairwise_cons.mp h
    unfold Dict.insert
    split
    · next he => exact List.pairwise_cons.mpr ⟨fun q hq => he ▸ hk q hq, hrest⟩
    · next hne =>
      split
      · next hlt =>
        refine List.pairwise_cons.mpr ⟨fun q hq => ?_, h⟩
        rcases List.mem_cons.mp hq with rfl | hq
        · exact hlt
        · exact String.lt_trans hlt (hk q hq)
      · next hnlt =>
        -- neither equal nor smaller, the key comes behind the head
        have hlt : k < key := by
          refine Decidable.of_not_not fun hno => hne ?_
          exact String.le_antisymm (String.not_lt.mp hnlt) (String.not_lt.mp hno)
        refine List.pairwise_cons.mpr ⟨fun q hq => ?_, ih hrest⟩
        rcases mem_insert hq with rfl | hq
        · exact hlt
        · exact hk q hq

/-- The dictionary of any pairs is in order. -/
theorem ordered_ofPairs (pairs : List (String × α)) : Ordered (ofPairs pairs) := by
  have hfold : ∀ d : Dict α, d.Ordered →
      Ordered (pairs.foldl (fun d p => insert d p.1 p.2) d) := by
    induction pairs with
    | nil => exact fun d h => h
    | cons p pairs ih => exact fun d h => ih _ (h.insert p.1 p.2)
  exact hfold [] .nil

/-- Nothing is in the dictionary but the pairs. -/
theorem mem_ofPairs {pairs : List (String × α)} {p : String × α} (h : p ∈ ofPairs pairs) :
    p ∈ pairs := by
  have hfold : ∀ (ps : List (String × α)) (d : Dict α),
      p ∈ ps.foldl (fun d p => insert d p.1 p.2) d → p ∈ d ∨ p ∈ ps := by
    intro ps
    induction ps with
    | nil => exact fun d h => .inl h
    | cons q ps ih =>
      intro d hp
      rcases ih _ hp with hp | hp
      · rcases mem_insert hp with rfl | hp
        · exact .inr (.head _)
        · exact .inl hp
      · exact .inr (.tail _ hp)
  exact (hfold pairs [] h).resolve_left List.not_mem_nil

theorem mem_of_get? {d : Dict α} {key : String} {value : α} (h : get? d key = some value) :
    (key, value) ∈ d := by
  induction d with
  | nil => cases h
  | cons p rest ih =>
    obtain ⟨k, v⟩ := p
    rw [get?] at h
    split at h
    · next hk => cases h; subst hk; exact .head _
    · exact .tail _ (ih h)

/-- A key behind all others goes to the end. -/
theorem insert_of_forall_lt {d : Dict α} {key : String} (h : ∀ p ∈ d, p.1 < key) (value : α) :
    insert d key value = d ++ [(key, value)] := by
  induction d with
  | nil => rfl
  | cons p rest ih =>
    obtain ⟨k, v⟩ := p
    have hk : k < key := h (k, v) (.head _)
    have hne : k ≠ key := fun he => String.lt_irrefl key (he ▸ hk)
    have hnlt : ¬ key < k := fun hlt => String.lt_irrefl key (String.lt_trans hlt hk)
    rw [insert, if_neg hne, if_neg hnlt, ih fun p hp => h p (.tail _ hp)]
    rfl

/-- Pairs that are in order already stay as they are. -/
theorem Ordered.ofPairs_eq {d : Dict α} (h : Ordered d) : ofPairs d = d := by
  have hfold : ∀ d d' : Dict α, Ordered (d' ++ d) →
      d.foldl (fun d p => Dict.insert d p.1 p.2) d' = d' ++ d := by
    intro d
    induction d with
    | nil => intro d' _; exact (List.append_nil d').symm
    | cons p rest ih =>
      intro d' ho
      have hlt : ∀ q ∈ d', q.1 < p.1 := fun q hq =>
        (List.pairwise_append.mp ho).2.2 q hq p (.head _)
      rw [List.foldl_cons, insert_of_forall_lt hlt, ih, List.append_assoc]
      · rfl
      · rw [List.append_assoc]; exact ho
  exact hfold d [] h

theorem get?_eq_none_of_lt {d : Dict α} {key : String} (h : ∀ p ∈ d, key < p.1) :
    get? d key = none := by
  induction d with
  | nil => rfl
  | cons p rest ih =>
    have hne : p.1 ≠ key := fun he => String.lt_irrefl key (he ▸ h p (.head _))
    rw [get?, if_neg hne]
    exact ih fun q hq => h q (.tail _ hq)

/-- The least key of one dictionary is not below all keys of another with the same look-ups. -/
theorem not_lt_head {d : Dict α} {k k' : String} {v v' : α} {rest : Dict α}
    (h : ∀ p ∈ d, k' < p.1) (hget : get? ((k, v) :: rest) k = get? ((k', v') :: d) k) :
    ¬ k < k' := by
  intro hlt
  have hnone : get? ((k', v') :: d) k = none := by
    refine get?_eq_none_of_lt fun p hp => ?_
    rcases List.mem_cons.mp hp with rfl | hp
    · exact hlt
    · exact String.lt_trans hlt (h p hp)
  rw [hnone, get?, if_pos rfl] at hget
  cases hget

/-- Dictionaries in which all look-ups agree are the same. -/
theorem Ordered.ext {d d' : Dict α} (h : Ordered d) (h' : Ordered d')
    (hget : ∀ key, get? d key = get? d' key) : d = d' := by
  induction d generalizing d' with
  | nil =>
    cases d' with
    | nil => rfl
    | cons p' rest' =>
      have := hget p'.1
      rw [get?_nil, get?, if_pos rfl] at this
      cases this
  | cons p rest ih =>
    obtain ⟨k, v⟩ := p
    cases d' with
    | nil =>
      have := hget k
      rw [get?_nil, get?, if_pos rfl] at this
      cases this
    | cons p' rest' =>
      obtain ⟨k', v'⟩ := p'
      obtain ⟨hk, hrest⟩ := List.pairwise_cons.mp h
      obtain ⟨hk', hrest'⟩ := List.pairwise_cons.mp h'
      -- neither head can be smaller than the other: its value would be missing there
      have hkey : k = k' := String.le_antisymm
        (String.not_lt.mp (not_lt_head hk (hget k').symm))
        (String.not_lt.mp (not_lt_head hk' (hget k)))
      subst hkey
      have hvalue : v = v' := by
        have := hget k
        rw [get?, if_pos rfl, get?, if_pos rfl] at this
        exact Option.some.inj this
      subst hvalue
      refine congrArg _ (ih hrest hrest' fun key => ?_)
      by_cases hne : k = key
      · subst hne
        rw [get?_eq_none_of_lt hk, get?_eq_none_of_lt hk']
      · have := hget key
        rwa [get?, if_neg hne, get?, if_neg hne] at this

end Dict

end LivePatching
