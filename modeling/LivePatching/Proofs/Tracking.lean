import LivePatching.Proofs.Coherence

/-!
# Loads that are kept track of

The controller keeps track of the loads that it has issued until they are over, or a call that waits
takes them.

* `Keeps`: what is kept track of before and after; `keeps_supersede`, `keeps_derive`,
  `keeps_activate`, `keeps_tearDown`, `keeps_settled`: for the operations of the controller.
* `Keyed`: the load of the derivation is one of kernels with the current key.
* `keeps_take`: **a turn loses no load that can still answer**, unless it is one of a call that
  waits.
-/

namespace LivePatching

open Json

variable {loads : List Load} {n m : Nat} {q : Question}

/-- An aborted load is not live. -/
theorem live_abort (h : Live (loads.modify m Load.abort) n q) : Live loads n q ∧ n ≠ m := by
  refine ⟨(ages_abort loads m).live n q h, ?_⟩
  rintro rfl
  obtain ⟨stage, hl, hlive⟩ := h
  rw [getElem?_modify_self] at hl
  obtain ⟨l, -, he⟩ := Option.map_eq_some_iff.mp hl
  have habort := isLive_abort l
  rw [he, hlive] at habort
  cases habort

theorem live_of_append {l : List Load} (h : Live (loads ++ l) n q) :
    Live loads n q ∨ loads.length ≤ n := by
  rcases Nat.lt_or_ge n loads.length with hn | hn
  · obtain ⟨stage, hl, hlive⟩ := h
    rw [List.getElem?_append_left hn] at hl
    exact .inl ⟨stage, hl, hlive⟩
  · exact .inr hn

theorem Live.lt_length (h : Live loads n q) : n < loads.length := h.asks.lt_length

namespace Session

variable {s s' s'' : Session} {a : Action} {as : List Action} {call : Nat}

/-- Aborted loads are not live. -/
theorem live_foldl_abort {ns : List Nat} (h : Live (ns.foldl abort s).loads n q) :
    Live s.loads n q ∧ n ∉ ns := by
  induction ns generalizing s with
  | nil => exact ⟨h, List.not_mem_nil⟩
  | cons m ns ih =>
    obtain ⟨hl, hns⟩ := ih h
    obtain ⟨hl, hne⟩ := live_abort hl
    exact ⟨hl, by simp [hne, hns]⟩

theorem length_foldl_abort (s : Session) (ns : List Nat) :
    (ns.foldl abort s).loads.length = s.loads.length := by
  induction ns generalizing s with
  | nil => rfl
  | cons m ns ih => rw [List.foldl_cons, ih, abort, List.length_modify]

theorem not_isOver_of_live (h : Live s.loads n q) : s.isOver n = false := by
  obtain ⟨stage, hl, hlive⟩ := h
  rw [isOver, hl]
  cases stage <;> first | rfl | cases hlive

/-! ## What the controller keeps track of -/

/-- A load is kept track of in the background or as the current one. -/
theorem mem_tracked :
    n ∈ s.tracked ↔ n ∈ s.controller.background ∨ s.controller.kernelLoad = some n := by
  rw [tracked, List.mem_append, Option.mem_toList]

/-- Loads that can still answer are kept track of, or were out of sight before; those kept track of
are there; and no load comes back. -/
structure Keeps (s s' : Session) : Prop where
  live : ∀ n q, Live s'.loads n q → n ∈ s'.tracked ∨ Live s.loads n q ∧ n ∉ s.tracked
  known : (∀ n ∈ s.tracked, n < s.loads.length) → ∀ n ∈ s'.tracked, n < s'.loads.length
  grows : s.loads.length ≤ s'.loads.length
  born : ∀ n q, Live s'.loads n q → Live s.loads n q ∨ s.loads.length ≤ n

/-- The same loads are kept track of, and each goes on or ends. -/
theorem keeps_of_tracked (ht : s'.tracked = s.tracked) (hlen : s'.loads.length = s.loads.length)
    (hl : ∀ n q, Live s'.loads n q → Live s.loads n q) : Keeps s s' where
  live n q h := by
    rw [ht]
    by_cases hn : n ∈ s.tracked
    · exact .inl hn
    · exact .inr ⟨hl n q h, hn⟩
  known h := by rw [ht, hlen]; exact h
  grows := Nat.le_of_eq hlen.symm
  born n q h := .inl (hl n q h)

theorem Keeps.refl (s : Session) : Keeps s s := keeps_of_tracked rfl rfl fun _ _ h => h

/-- What two steps keep is kept. -/
theorem Keeps.trans (h : Keeps s s') (h' : Keeps s' s'') : Keeps s s'' where
  live n q hl := by
    -- what was out of sight in between was so before, or `h` would have it kept track of there
    rcases h'.live n q hl with ht | ⟨hl', hnt⟩
    · exact .inl ht
    · rcases h.live n q hl' with ht | hbefore
      · exact absurd ht hnt
      · exact .inr hbefore
  known hs := h'.known (h.known hs)
  grows := Nat.le_trans h.grows h'.grows
  born n q hl := by
    rcases h'.born n q hl with hl' | hn
    · exact h.born n q hl'
    · have := h.grows
      exact .inr (by omega)

/-- Loads that are over are let go, and the others stay in the background. -/
def prune (s : Session) : Session :=
  { s with
    controller :=
      { s.controller with
        kernelLoad := none
        background := s.controller.background.filter fun load => !s.isOver load } }

/-- To let go of loads that are over keeps the others in sight. -/
theorem keeps_prune {s₁ : Session} (hlen : s₁.loads.length = s.loads.length)
    (hl : ∀ n q, Live s₁.loads n q → Live s.loads n q)
    (hkept : ∀ n q, Live s₁.loads n q → n ∈ s.tracked → n ∈ s₁.controller.background)
    (hsub : ∀ n ∈ s₁.controller.background, n ∈ s.tracked) : Keeps s s₁.prune where
  live n q h := by
    -- pruning lets go only of loads that are over
    by_cases hn : n ∈ s.tracked
    · have hover : s₁.isOver n = false := not_isOver_of_live h
      have hback : n ∈ s₁.prune.controller.background :=
        List.mem_filter.mpr ⟨hkept n q h hn, by rw [hover]; rfl⟩
      exact .inl (mem_tracked.mpr (.inl hback))
    · exact .inr ⟨hl n q h, hn⟩
  known h n hn := by
    have hback : n ∈ s₁.prune.controller.background := by
      rcases mem_tracked.mp hn with hn | hn
      · exact hn
      · cases hn
    have hlt := h n (hsub n (List.mem_filter.mp hback).1)
    show n < s₁.loads.length
    omega
  grows := Nat.le_of_eq hlen.symm
  born n q h := .inl (hl n q h)

/-- A load that is taken off is aborted, or it goes to the background. -/
theorem keeps_supersede (s : Session) : Keeps s s.supersede := by
  unfold supersede
  cases hk : s.controller.kernelLoad with
  | none => exact .refl s
  | some load =>
    -- pruning takes care of the rest: what is put there before it has only to keep live loads in
    -- sight
    have htracked : s.tracked = s.controller.background ++ [load] := by
      rw [tracked, hk]
      rfl
    cases s.controller.policy with
    | cancel =>
      have hlen : (s.abort load).loads.length = s.loads.length := List.length_modify ..
      refine keeps_prune hlen (fun n q h => (live_abort h).1) (fun n q h hn => ?_) fun n hn => ?_
      · rw [htracked, List.mem_append, List.mem_singleton] at hn
        exact hn.resolve_right (live_abort h).2
      · exact mem_tracked.mpr (.inl hn)
    | ignore =>
      refine keeps_prune rfl (fun n q h => h) (fun n q _ hn => ?_) fun n hn => ?_
      · rw [htracked] at hn
        exact hn
      · rw [htracked]
        exact hn

/-- Loads that are issued are kept track of. -/
theorem keeps_issued {l : List Load} (hloads : s'.loads = s.loads ++ l)
    (htracked : ∀ n, n ∈ s'.tracked ↔ n ∈ s.tracked ∨ s.loads.length ≤ n ∧ n < s'.loads.length) :
    Keeps s s' := by
  have hgrows : s.loads.length ≤ s'.loads.length := by
    rw [hloads, List.length_append]
    omega
  have hborn : ∀ n q, Live s'.loads n q → Live s.loads n q ∨ s.loads.length ≤ n := by
    intro n q h
    rw [hloads] at h
    exact live_of_append h
  refine ⟨fun n q h => ?_, fun h n hn => ?_, hgrows, hborn⟩
  · by_cases hn : n ∈ s'.tracked
    · exact .inl hn
    · rw [htracked, not_or] at hn
      rcases hborn n q h with hl | hlen
      · exact .inr ⟨hl, hn.1⟩
      · exact absurd ⟨hlen, h.lt_length⟩ hn.2
  · rcases (htracked n).mp hn with hn | hn
    · have hlt := h n hn
      omega
    · exact hn.2

theorem keeps_activate (s : Session) : Keeps s s.activate := by
  rcases activate_cases s with h | h
  · rw [h]; exact .refl s
  · rw [h]
    refine keeps_issued (List.append_assoc ..) fun n => ?_
    simp only [mem_tracked, List.mem_append, List.mem_cons, List.not_mem_nil, or_false,
      List.length_append, List.length_singleton]
    constructor
    · rintro ((hn | hn) | hn)
      · exact .inl (.inl hn)
      · exact .inr (by omega)
      · exact .inl (.inr hn)
    · rintro ((hn | hn) | hn)
      · exact .inl (.inl hn)
      · exact .inr hn
      · exact .inl (.inr (by omega))

theorem kernelLoad_supersede (s : Session) : s.supersede.controller.kernelLoad = none := by
  obtain ⟨_, _, -, h⟩ := supersede_eq s
  rw [h]

/-- A derivation takes the former load off, and keeps track of the one it issues. -/
theorem keeps_derive (s : Session) (i : Inputs) : Keeps s (s.derive i) := by
  -- first the former load is taken off, then there is a new one, which is tracked
  refine (keeps_supersede s).trans (keeps_issued (loads_derive s i) fun n => ?_)
  rw [mem_tracked, mem_tracked, background_derive, kernelLoad_derive, kernelLoad_supersede,
    loads_derive]
  cases i.scope with
  | none =>
    simp only [Option.map_none, Option.toList_none, List.append_nil, reduceCtorEq, or_false]
    exact (or_iff_left (by omega)).symm
  | some x =>
    simp only [Option.map_some, Option.toList_some, List.length_append, List.length_singleton,
      Option.some.injEq, reduceCtorEq, or_false]
    have hplace : s.supersede.loads.length = n ↔
        s.supersede.loads.length ≤ n ∧ n < s.supersede.loads.length + 1 := by omega
    rw [hplace]

/-- An observation keeps the loads in sight. -/
theorem keeps_observe (s : Session) (i : Inputs) : Keeps s (s.observe i) := by
  rw [observe_eq]
  split
  · exact .refl s
  · exact keeps_derive s i

/-- A suspension keeps the loads in sight. -/
theorem keeps_suspend (s : Session) : Keeps s s.suspend := by
  rw [suspend_eq]
  split
  · exact .refl s
  · exact (keeps_supersede s).trans (keeps_of_tracked rfl rfl fun _ _ h => h)

/-- A tear-down keeps the loads in sight. -/
theorem keeps_tearDown (s : Session) : Keeps s s.tearDown := by
  unfold tearDown
  split
  · exact .refl s
  · have hlen : ((s.controller.kernelLoad.toList ++ s.controller.background).foldl
        abort s).loads.length = s.loads.length := length_foldl_abort s _
    refine ⟨fun n q h => ?_, fun _ n hn => ?_, Nat.le_of_eq hlen.symm, fun n q h => ?_⟩
    · obtain ⟨hl, hn⟩ := live_foldl_abort h
      refine .inr ⟨hl, fun ht => hn ?_⟩
      rw [List.mem_append, Option.mem_toList]
      exact (mem_tracked.mp ht).symm
    · rcases mem_tracked.mp hn with hn | hn
      · exact absurd hn List.not_mem_nil
      · cases hn
    · exact .inl (live_foldl_abort h).1

/-- A load that moves on without coming to life leaves the others as they are. -/
theorem keeps_setStage {stage : Stage} (ht : s'.tracked = s.tracked)
    (hloads : s'.loads = (s.setStage m stage).loads)
    (hl : ∀ n q, Live (s.setStage m stage).loads n q → Live s.loads n q) : Keeps s s' := by
  refine keeps_of_tracked ht ?_ fun n q h => hl n q (hloads ▸ h)
  rw [hloads, setStage, List.length_modify]

theorem keeps_start (s : Session) (load : Nat) : Keeps s (s.start load) := by
  rcases start_cases s load with h | ⟨q, hl, h⟩
  · rw [h]; exact .refl s
  · rw [h]
    have hsame : Stage.running.isLive = Stage.queued.isLive := rfl
    exact keeps_setStage rfl rfl fun _ _ h => (live_setStage hl hsame).mp h

theorem keeps_drop (s : Session) (load : Nat) : Keeps s (s.drop load) := by
  rcases drop_cases s load with h | ⟨q, asked, tally, hl, h⟩
  · rw [h]; exact .refl s
  · rw [h]
    have hsame : (Stage.dropped asked).isLive = (Stage.aborted asked).isLive := rfl
    exact keeps_setStage rfl rfl fun _ _ h => (live_setStage hl hsame).mp h

/-- The answer for a list keeps the loads in sight. -/
theorem keeps_answerCatalog (s : Session) (list : Listing) (load : Nat)
    (answer : Except ProviderError (List list.Entry)) :
    Keeps s (s.answerCatalog list load answer) := by
  rcases answerCatalog_cases s list load answer with h | ⟨-, entries, tally, h⟩
  · rw [h]; exact .refl s
  · rw [h]
    exact keeps_setStage rfl rfl fun _ _ h => ((live_setStage_over rfl).mp h).1

/-! ### The load of the current derivation -/

/-- The load of the derivation is one of kernels with the current key. -/
def Keyed (s : Session) : Prop :=
  ∀ n, s.controller.kernelLoad = some n →
    ∃ key x, s.controller.current = some key ∧ Asks s.loads n (.kernels key x)

/-- A load that is answered with the current key is the one of the derivation, if there is one. -/
theorem Keyed.eq (h : Keyed s) (hcoh : Coherent s) {load : Nat} {key : RequestKey} {x : Scope}
    (hl : s.loads[load]? = some ⟨.kernels key x, .running⟩)
    (hcur : s.controller.current = some key) (hn : s.controller.kernelLoad = some n) :
    n = load := by
  obtain ⟨key', x', hcur', hasks⟩ := h n hn
  have hkey : key' = key := Option.some.inj (hcur'.symm.trans hcur)
  subst hkey
  exact hcoh.unique n load key' x' x hasks (asks_of_getElem? hl)

/-- An answer that is taken over or refused ends the load of the derivation. -/
theorem keeps_settled (hcoh : Coherent s) (hk : Keyed s) {load : Nat} {key : RequestKey} {x : Scope}
    (hl : s.loads[load]? = some ⟨.kernels key x, .running⟩)
    (hcur : s.controller.current = some key) (hloads : s'.loads = (s.answered load).loads)
    (hback : s'.controller.background = s.controller.background)
    (hnone : s'.controller.kernelLoad = none) : Keeps s s' := by
  have hlen : s'.loads.length = s.loads.length := by
    rw [hloads, answered, List.length_modify]
  have hlive : ∀ n q, Live s'.loads n q → Live s.loads n q ∧ n ≠ load := by
    intro n q h
    rw [hloads] at h
    exact (live_setStage_over rfl).mp h
  refine ⟨fun n q h => ?_, fun h n hn => ?_, Nat.le_of_eq hlen.symm, fun n q h => ?_⟩
  · -- the load of the derivation is the one that was answered, so the background has all others
    obtain ⟨hbefore, hne⟩ := hlive n q h
    by_cases hn : n ∈ s.controller.background
    · exact .inl (mem_tracked.mpr (.inl (hback ▸ hn)))
    · refine .inr ⟨hbefore, fun ht => ?_⟩
      rcases mem_tracked.mp ht with ht | ht
      · exact hn ht
      · exact hne (hk.eq hcoh hl hcur ht)
  · rcases mem_tracked.mp hn with hn | hn
    · have hlt := h n (mem_tracked.mpr (.inl (hback ▸ hn)))
      omega
    · rw [hnone] at hn
      cases hn
  · exact .inl (hlive n q h).1

/-- The answer to a kernel load keeps the loads in sight. -/
theorem keeps_answerKernels (hcoh : Coherent s) (hk : Keyed s) (load : Nat)
    (answer : Except ProviderError (List Kernel)) : Keeps s (s.answerKernels load answer) := by
  have h := answerKernels_step s load answer
  generalize s.answerKernels load answer = s' at h ⊢
  cases h with
  | unasked => exact .refl s
  | stale => exact keeps_setStage rfl rfl fun _ _ h => ((live_setStage_over rfl).mp h).1
  | forgotten => exact keeps_setStage rfl rfl fun _ _ h => ((live_setStage_over rfl).mp h).1
  | installed key x i kernels hl _ hcur => exact keeps_settled hcoh hk hl hcur rfl rfl rfl
  | refused key x i e hl _ hcur => exact keeps_settled hcoh hk hl hcur rfl rfl rfl

/-- Only the load, the key and the questions matter. -/
theorem Keyed.congr (h : Keyed s) (hload : s'.controller.kernelLoad = s.controller.kernelLoad)
    (hcur : s'.controller.current = s.controller.current)
    (hasks : ∀ n q, Asks s.loads n q → Asks s'.loads n q) : Keyed s' := by
  intro n hn
  obtain ⟨key, x, hkey, ha⟩ := h n (hload ▸ hn)
  exact ⟨key, x, hcur ▸ hkey, hasks n _ ha⟩

theorem keyed_of_none (h : s.controller.kernelLoad = none) : Keyed s := by
  intro n hn
  rw [h] at hn
  cases hn

theorem Keyed.activate (h : Keyed s) : Keyed s.activate := by
  rcases activate_cases s with he | he
  · rw [he]; exact h
  · rw [he]
    exact h.congr rfl rfl fun n q ha => asks_append.mpr (.inl (asks_append.mpr (.inl ha)))

/-- An observation keeps the load with the current key. -/
theorem Keyed.observe (h : Keyed s) (i : Inputs) : Keyed (s.observe i) := by
  rw [observe_eq]
  split
  · exact h
  · cases hi : i.scope with
    | none =>
      obtain ⟨loads, background, -, he⟩ := derive_none s hi
      rw [he]
      exact keyed_of_none rfl
    | some x =>
      obtain ⟨loads, background, -, he⟩ := derive_some s hi
      rw [he]
      intro n hn
      cases hn
      exact ⟨_, x, rfl, asks_append.mpr (.inr ⟨rfl, rfl⟩)⟩

/-- An answer keeps the load with the current key. -/
theorem Keyed.answerKernels (h : Keyed s) (load : Nat)
    (answer : Except ProviderError (List Kernel)) : Keyed (s.answerKernels load answer) := by
  have hstep := answerKernels_step s load answer
  generalize s.answerKernels load answer = s' at hstep ⊢
  cases hstep with
  | unasked => exact h
  | stale => exact h.congr rfl rfl fun _ _ => asks_setStage.mpr
  | forgotten => exact h.congr rfl rfl fun _ _ => asks_setStage.mpr
  | installed => exact keyed_of_none rfl
  | refused => exact keyed_of_none rfl

/-- Every turn keeps the load with the current key. -/
theorem Keyed.take (h : Keyed s) (t : Turn) : Keyed (s.take t) := by
  cases t with
  | rest => exact h
  | write model key value => exact h.congr rfl rfl fun _ _ ha => ha
  | activate => exact h.activate
  | observe i => exact h.observe i
  | render i => exact h.activate.observe i
  -- after these no load is kept for the derivation
  | suspend =>
    rcases suspend_cases s with ⟨he, -⟩ | ⟨-, -, _, _, -, he⟩
    · rw [Session.take, he]; exact h
    · rw [Session.take, he]; exact keyed_of_none rfl
  | tearDown =>
    rcases tearDown_cases s with ⟨he, -⟩ | ⟨-, _, -, he⟩
    · rw [Session.take, he]; exact h
    · rw [Session.take, he]; exact keyed_of_none rfl
  | start load =>
    rcases start_cases s load with he | ⟨_, -, he⟩
    · rw [Session.take, he]; exact h
    · rw [Session.take, he]; exact h.congr rfl rfl fun _ _ => asks_setStage.mpr
  | answerCatalog list load answer =>
    rcases answerCatalog_cases s list load answer with he | ⟨-, _, _, he⟩
    · rw [Session.take, he]; exact h
    · rw [Session.take, he]; exact h.congr rfl rfl fun _ _ => asks_setStage.mpr
  | answerKernels load answer => exact h.answerKernels load answer
  | drop load =>
    rcases drop_cases s load with he | ⟨_, _, _, -, he⟩
    · rw [Session.take, he]; exact h
    · rw [Session.take, he]; exact h.congr rfl rfl fun _ _ => asks_setStage.mpr
  | untrack => exact keyed_of_none rfl

/-! ### Turns -/

/-- **A turn loses no load**, unless it is one of a call that waits. -/
theorem keeps_take (hcoh : Coherent s) (hk : Keyed s) {t : Turn} (ht : t ≠ .untrack) :
    Keeps s (s.take t) := by
  cases t with
  | rest => exact .refl s
  | write model key value => exact keeps_of_tracked rfl rfl fun _ _ h => h
  | activate => exact keeps_activate s
  | observe i => exact keeps_observe s i
  | render i => exact (keeps_activate s).trans (keeps_observe s.activate i)
  | suspend => exact keeps_suspend s
  | tearDown => exact keeps_tearDown s
  | start load => exact keeps_start s load
  | answerCatalog list load answer => exact keeps_answerCatalog s list load answer
  | answerKernels load answer => exact keeps_answerKernels hcoh hk load answer
  | drop load => exact keeps_drop s load
  | untrack => exact absurd rfl ht

end Session

end LivePatching
