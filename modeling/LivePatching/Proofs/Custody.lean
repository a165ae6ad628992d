import LivePatching.Proofs.Loads
import LivePatching.Proofs.Settling
import LivePatching.Proofs.Teardown

/-!
# Who has the loads

A load that can still answer is with the controller, or with the one call that waits, as long as
nothing else begins before the call has returned.

* `WaitsAt`, `Waits`, `InTurn`: a call waits; the step begins nothing then.
* `Retains`, `retains_take`: when superseded loads are aborted, none of them stays that can answer.
* `Custody`, `Custody.step`: **each load that can answer is in custody**, and none is left once the
  sub-form is torn down.
* `Prompt`, `Prompt.step`: when superseded loads are aborted, the one load of kernels that can
  answer has the current key, and no answer comes too late.
* `custody_run`: **this is so in every run in which each call returns before anything else begins.**
-/

namespace LivePatching

open Json

/-- Whether the action begins a call. -/
def Action.isSettle : Action → Bool
  | .settle => true
  | _ => false

namespace Session

variable {s s' s'' : Session} {a : Action} {as : List Action} {call n : Nat} {q : Question}
  {key : RequestKey} {x : Scope} {t : Turn}

/-- The call waits. -/
def WaitsAt (s : Session) (call : Nat) : Prop :=
  ∃ held, s.settlings[call]? = some (Settling.waiting held)

/-- Some call waits. -/
def Waits (s : Session) : Prop := ∃ call, s.WaitsAt call

instance (s : Session) (call : Nat) : Decidable (s.WaitsAt call) :=
  match h : s.settlings[call]? with
  | some (.waiting held) => .isTrue ⟨held, h⟩
  | some .returned => .isFalse fun ⟨_, hcall⟩ => by rw [h] at hcall; cases hcall
  | some .abandoned => .isFalse fun ⟨_, hcall⟩ => by rw [h] at hcall; cases hcall
  | none => .isFalse fun ⟨_, hcall⟩ => by rw [h] at hcall; cases hcall

theorem WaitsAt.lt_length (h : s.WaitsAt call) : call < s.settlings.length := by
  obtain ⟨held, hcall⟩ := h
  exact (List.getElem?_eq_some_iff.mp hcall).1

instance (s : Session) : Decidable s.Waits :=
  decidable_of_iff (∃ call < s.settlings.length, s.WaitsAt call)
    ⟨fun ⟨call, _, h⟩ => ⟨call, h⟩, fun ⟨call, h⟩ => ⟨call, h.lt_length, h⟩⟩

/-- While a call waits, the step is no operation of the controller and begins no other call, and
does not give the call up. -/
def InTurn (s : Session) (a : Action) : Prop :=
  s.Waits → (s.turn a).operates = false ∧ a.isSettle = false ∧ s.givenUp a = none

instance (s : Session) (a : Action) : Decidable (s.InTurn a) :=
  inferInstanceAs (Decidable (s.Waits →
    (s.turn a).operates = false ∧ a.isSettle = false ∧ s.givenUp a = none))

/-! ## Loads that are taken off -/

/-- A load of kernels that can still answer is the one of the derivation, or another one than that
before. -/
def Retains (s s' : Session) : Prop :=
  ∀ n key x, Live s'.loads n (.kernels key x) → s'.controller.kernelLoad = some n ∨
    Live s.loads n (.kernels key x) ∧ s.controller.kernelLoad ≠ some n

theorem Retains.trans (h : Retains s s') (h' : Retains s' s'') : Retains s s'' := by
  intro n key x hl
  rcases h' n key x hl with hn | ⟨hl', hne⟩
  · exact .inl hn
  · exact .inr ((h n key x hl').resolve_left hne)

/-- The load of the derivation stays the same, and no load of kernels comes to life. -/
theorem retains_of_same (hk : s'.controller.kernelLoad = s.controller.kernelLoad)
    (hl : ∀ n key x, Live s'.loads n (.kernels key x) → Live s.loads n (.kernels key x)) :
    Retains s s' := by
  intro n key x h
  by_cases hn : s.controller.kernelLoad = some n
  · exact .inl (hk.trans hn)
  · exact .inr ⟨hl n key x h, hn⟩

theorem Retains.refl (s : Session) : Retains s s := retains_of_same rfl fun _ _ _ h => h

/-- Where loads are cancelled a superseded load cannot go on. -/
theorem live_supersede (hp : s.controller.policy = .cancel) (h : Live s.supersede.loads n q) :
    Live s.loads n q ∧ s.controller.kernelLoad ≠ some n := by
  unfold supersede at h
  cases hk : s.controller.kernelLoad with
  | none =>
    rw [hk] at h
    exact ⟨h, by simp⟩
  | some m =>
    simp only [hk, hp] at h
    obtain ⟨hl, hne⟩ := live_abort h
    exact ⟨hl, by simpa using hne.symm⟩

/-- A derivation aborts the load of the one before it. -/
theorem retains_derive (hp : s.controller.policy = .cancel) (i : Inputs) :
    Retains s (s.derive i) := by
  intro n key x h
  rw [loads_derive] at h
  cases hi : i.scope with
  | none =>
    rw [hi, Option.map_none, Option.toList_none, List.append_nil] at h
    exact .inr (live_supersede hp h)
  | some y =>
    rw [hi, Option.map_some, Option.toList_some] at h
    -- what is live is from before, or it is the load that has been issued
    rcases live_append.mp h with hold | ⟨rfl, -⟩
    · exact .inr (live_supersede hp hold)
    · exact .inl (by rw [kernelLoad_derive, hi, Option.map_some])

theorem retains_observe (hp : s.controller.policy = .cancel) (i : Inputs) :
    Retains s (s.observe i) := by
  rw [observe_eq]
  split
  · exact .refl s
  · exact retains_derive hp i

/-- A suspension aborts the load of the derivation. -/
theorem retains_suspend (hp : s.controller.policy = .cancel) : Retains s s.suspend := by
  rw [suspend_eq]
  split
  · exact .refl s
  · exact fun n key x h => .inr (live_supersede hp h)

/-- A tear-down aborts the load of the derivation. -/
theorem retains_tearDown (s : Session) : Retains s s.tearDown := by
  unfold tearDown
  split
  · exact .refl s
  · intro n key x h
    obtain ⟨hl, hn⟩ := live_foldl_abort h
    refine .inr ⟨hl, fun hk => hn ?_⟩
    rw [List.mem_append, Option.mem_toList]
    exact .inl hk

theorem kernelLoad_activate (s : Session) :
    s.activate.controller.kernelLoad = s.controller.kernelLoad := by
  rcases activate_cases s with he | he <;> rw [he]

theorem retains_activate (s : Session) : Retains s s.activate :=
  retains_of_same (kernelLoad_activate s) fun n key x => ((quiet_activate s).live n key x).mp

/-- An answer that is taken over or refused ends the load of the derivation. -/
theorem retains_settled (hcoh : Coherent s) (hk : Keyed s)
    (hl : s.loads[n]? = some ⟨.kernels key x, .running⟩) (hcur : s.controller.current = some key)
    (hloads : s'.loads = (s.answered n).loads) : Retains s s' := by
  intro m key' y h
  rw [hloads] at h
  obtain ⟨hbefore, hne⟩ := (live_setStage_over rfl).mp h
  exact .inr ⟨hbefore, fun hm => hne (hk.eq hcoh hl hcur hm)⟩

/-- An answer ends its load and begins none. -/
theorem retains_answerKernels (hcoh : Coherent s) (hk : Keyed s) (load : Nat)
    (answer : Except ProviderError (List Kernel)) : Retains s (s.answerKernels load answer) := by
  have h := answerKernels_step s load answer
  generalize s.answerKernels load answer = s' at h ⊢
  cases h with
  | unasked => exact .refl s
  | stale => exact retains_of_same rfl fun _ _ _ h => ((live_setStage_over rfl).mp h).1
  | forgotten => exact retains_of_same rfl fun _ _ _ h => ((live_setStage_over rfl).mp h).1
  | installed key x i kernels hl _ hcur => exact retains_settled hcoh hk hl hcur rfl
  | refused key x i e hl _ hcur => exact retains_settled hcoh hk hl hcur rfl

/-- **When superseded loads are aborted, a turn leaves none of them that can answer.** -/
theorem retains_take (hcoh : Coherent s) (hk : Keyed s) (hp : s.controller.policy = .cancel)
    (ht : t ≠ .untrack) : Retains s (s.take t) := by
  cases t with
  | rest => exact .refl s
  | write model key value => exact retains_of_same rfl fun _ _ _ h => h
  | activate => exact retains_activate s
  | observe i => exact retains_observe hp i
  | render i =>
    have hp' : s.activate.controller.policy = .cancel := (spares_activate s).policy.trans hp
    exact (retains_activate s).trans (retains_observe hp' i)
  | suspend => exact retains_suspend hp
  | tearDown => exact retains_tearDown s
  -- to start a load changes neither the load of the derivation nor what is live
  | start load =>
    refine retains_of_same ?_ fun n key x => ((quiet_start s load).live n key x).mp
    rcases start_cases s load with he | ⟨_, -, he⟩ <;> rw [take, he]; rfl
  | answerCatalog list load answer =>
    have hquiet := quiet_answerCatalog s list load answer
    refine retains_of_same ?_ fun n key x => (hquiet.live n key x).mp
    rcases answerCatalog_cases s list load answer with he | ⟨-, _, _, he⟩ <;> rw [take, he]
  | answerKernels load answer => exact retains_answerKernels hcoh hk load answer
  | drop load =>
    refine retains_of_same ?_ fun n key x => ((quiet_drop s load).live n key x).mp
    rcases drop_cases s load with he | ⟨_, _, _, -, he⟩ <;> rw [take, he]; rfl
  | untrack => exact absurd rfl ht

/-- Only an operation changes the key. -/
theorem current_step (h : (s.turn a).operates = false) :
    (s.step a).controller.current = s.controller.current := by
  cases step_kernels s a with
  | quiet _ hq _ => exact hq.current
  | derived i place ht _ =>
    cases hturn : s.turn a with
    | observe j => rw [hturn] at h; cases h
    | render j => rw [hturn] at h; cases h
    | _ => rw [hturn] at ht; cases ht
  | suspended ht _ => rw [ht] at h; cases h
  | tornDown ht _ => rw [ht] at h; cases h
  | stale _ _ _ _ _ ha => exact ha.current
  | forgotten _ _ _ _ _ ha => exact ha.current
  | installed _ _ _ _ _ _ ha => exact ha.current
  | refused _ _ _ _ _ _ ha => exact ha.current

/-! ## Custody -/

/-- A call waits after a step if it has waited before, or the step has begun it. -/
theorem waitsAt_step (h : (s.step a).WaitsAt call) :
    s.WaitsAt call ∨ a = .settle ∧ call = s.settlings.length := by
  obtain ⟨held, h⟩ := h
  rcases waiting_step h with hbefore | ⟨-, hbegun | hwaits⟩
  · exact .inl ⟨held, hbefore⟩
  · exact .inr hbegun
  · exact .inl hwaits

theorem Holds.waits (h : s.Holds call n) : s.Waits := by
  obtain ⟨held, hcall, -⟩ := h
  exact ⟨call, held, hcall⟩

/-- Only a call that waits can be given up. -/
theorem waits_of_givenUp {held : List Nat} (h : s.givenUp a = some held) : s.Waits := by
  unfold givenUp at h
  split at h
  · rename_i call
    split at h
    · rename_i held' hcall
      exact ⟨call, held', hcall⟩
    · cases h
  · cases h

/-- Each load that can answer is kept track of, or the one call that waits holds it, and none is
left once the sub-form is torn down. -/
structure Custody (s : Session) : Prop where
  minding : Minding s
  minded : ∀ n q, Live s.loads n q → s.Minded n
  alone : ∀ call call', s.WaitsAt call → s.WaitsAt call' → call = call'
  torn : s.controller.tornDown = true → ∀ n q, ¬ Live s.loads n q

/-- A sub-form just mounted has no load to look after. -/
theorem custody_mount (form : Form) (context : Context) (policy : StalePolicy) :
    Custody (mount form context policy) where
  minding := minding_mount form context policy
  minded n q hl := absurd hl.lt_length (Nat.not_lt_zero n)
  alone call _ hcall := by
    obtain ⟨held, hcall⟩ := hcall
    cases hcall
  torn htorn := by cases htorn

/-- While no call waits, the controller keeps track of all. -/
theorem Custody.tracked (h : Custody s) (hno : ¬ s.Waits) (hl : Live s.loads n q) :
    n ∈ s.tracked := by
  refine (h.minded n q hl).resolve_right ?_
  rintro ⟨call, hcall⟩
  exact hno hcall.waits

/-- Who operates does so while no call waits. -/
theorem InTurn.not_waits (h : InTurn s a) (ha : (s.turn a).operates = true) : ¬ s.Waits := by
  intro hw
  rw [(h hw).1] at ha
  cases ha

/-- While a call waits no other one begins. -/
theorem InTurn.not_settle (h : InTurn s a) (hw : s.Waits) : a ≠ .settle := by
  rintro rfl
  cases (h hw).2.1

/-- Only a tear-down takes the sub-form down. -/
theorem tornDown_step (h : (s.step a).controller.tornDown = true)
    (hup : s.controller.tornDown = false) : s.turn a = .tearDown := by
  cases step_kernels s a with
  | quiet _ hq _ => rw [hq.tornDown, hup] at h; cases h
  | derived i place _ hd => rw [hd.tornDown] at h; cases h
  | suspended _ hs => rw [hs.tornDown] at h; cases h
  | tornDown ht _ => exact ht
  | stale _ _ _ _ _ ha => rw [ha.tornDown, hup] at h; cases h
  | forgotten _ _ _ _ _ ha => rw [ha.tornDown, hup] at h; cases h
  | installed _ _ _ _ _ _ ha => rw [ha.tornDown, hup] at h; cases h
  | refused _ _ _ _ _ _ ha => rw [ha.tornDown, hup] at h; cases h

/-- Nothing is kept track of once the sub-form is torn down. -/
theorem tracked_tearDown (hup : s.controller.tornDown = false) (ht : s.turn a = .tearDown) :
    (s.step a).tracked = [] := by
  rcases tearDown_cases s with ⟨-, htorn⟩ | ⟨-, _, -, he⟩
  · rw [hup] at htorn; cases htorn
  · rw [tracked, step_controller, ht, take, he]
    rfl

/-- **What is in custody stays so.** -/
theorem Custody.step (h : Custody s) (ha : InTurn s a) : Custody (s.step a) where
  minding := h.minding.step a
  minded n q hl := by
    rcases h.minding.minded_step hl with hn | ⟨held, hg, -⟩ | ⟨hbefore, hno⟩
    · exact hn
    · rw [(ha (waits_of_givenUp hg)).2.2] at hg; cases hg
    · exact absurd (h.minded n q hbefore) hno
  alone call call' hcall hcall' := by
    -- either both calls have waited before, or they are the one that begins, and none has
    rcases waitsAt_step hcall with hcall | ⟨hsettle, rfl⟩
    · rcases waitsAt_step hcall' with hcall' | ⟨hsettle, -⟩
      · exact h.alone _ _ hcall hcall'
      · exact absurd hsettle (ha.not_settle ⟨_, hcall⟩)
    · rcases waitsAt_step hcall' with hcall' | ⟨-, rfl⟩
      · exact absurd hsettle (ha.not_settle ⟨_, hcall'⟩)
      · rfl
  torn htorn n q hl := by
    cases hup : s.controller.tornDown with
    | true =>
      rcases (h.minding.grows a).2.2 n q hl with hl' | hn
      · exact h.torn hup n q hl'
      · have hlen := congrArg List.length (still_step hup a).questions
        rw [List.length_map, List.length_map] at hlen
        have hlt := hl.lt_length
        omega
    | false =>
      have ht := tornDown_step htorn hup
      rcases (h.minding.keeps (by rw [ht]; simp)).live n q hl with hn | ⟨hbefore, hn⟩
      · rw [tracked_tearDown hup ht] at hn; cases hn
      · exact hn (h.tracked (ha.not_waits (by rw [ht]; rfl)) hbefore)

/-- In runs with one waiting call at a time all loads stay in custody. -/
theorem custody_always (h : Custody s) (hall : s.Always as InTurn) : Custody (s.run as) := by
  induction as generalizing s with
  | nil => exact h
  | cons a as ih =>
    obtain ⟨ha, hall⟩ := always_cons.mp hall
    exact ih (h.step ha) hall

/-- No call waits when one has just returned. -/
theorem Custody.not_waits (h : Custody s) (ha : InTurn s a)
    (hbefore : s.settlings[call]? ≠ some .returned)
    (hafter : (s.step a).settlings[call]? = some .returned) : ¬ (s.step a).Waits := by
  rintro ⟨other, hother⟩
  have hne : other ≠ call := by
    rintro rfl
    obtain ⟨held, hheld⟩ := hother
    rw [hafter] at hheld
    cases hheld
  rcases waitsAt_step hother with hother | ⟨rfl, rfl⟩
  · -- the call that goes on is the one that has waited, not the one that returns
    cases settling_step s a with
    | apart _ hs => exact hbefore (hs ▸ hafter)
    | begun hsettle _ => exact ha.not_settle ⟨other, hother⟩ hsettle
    | resumed call' held hcall' _ he =>
      obtain rfl := h.alone _ _ hother ⟨held, hcall'⟩
      rw [he] at hafter
      exact hbefore ((List.getElem?_set_ne hne).symm.trans hafter)
    | givenUp _ _ _ hg _ => rw [(ha (waits_of_givenUp hg)).2.2] at hg; cases hg
  · -- a call that begins now has not waited before
    have hlen : call < (s.settlings ++ [s.takeTracked.2]).length :=
      (List.getElem?_eq_some_iff.mp hafter).1
    rw [List.length_append, List.length_singleton] at hlen
    exact hbefore ((List.getElem?_append_left (by omega)).symm.trans hafter)

/-! ## Superseded loads that are aborted -/

/-- A load of kernels that can still answer has the current key; it is the one of the derivation, or
a call that waits holds it. No answer has come too late. -/
structure Prompt (s : Session) : Prop where
  current : ∀ n key x, Live s.loads n (.kernels key x) → s.controller.current = some key ∧
    (s.controller.kernelLoad = some n ∨ ∃ call, s.Holds call n)
  stale : s.tally.staleResults = 0

/-- A sub-form just mounted is prompt. -/
theorem prompt_mount (form : Form) (context : Context) (policy : StalePolicy) :
    Prompt (mount form context policy) where
  current n _ _ hl := absurd hl.lt_length (Nat.not_lt_zero n)
  stale := rfl

/-- An answer comes too late if its key is not the current one, or the sub-form is torn down. -/
theorem staleResults_take (s : Session) (t : Turn) :
    (s.take t).tally.staleResults = s.tally.staleResults ∨
      ∃ (n : Nat) (key : RequestKey) (x : Scope), s.loads[n]? = some ⟨.kernels key x, .running⟩ ∧
        (s.controller.tornDown = true ∨ s.controller.current ≠ some key) := by
  cases t with
  | answerKernels n answer =>
    have hstep := answerKernels_step s n answer
    rw [take]
    generalize s.answerKernels n answer = s' at hstep ⊢
    cases hstep with
    | stale key x hl hs => exact .inr ⟨n, key, x, hl, hs⟩
    | _ => exact .inl rfl
  | _ => exact .inl ((spares_take s _).staleResults (by simp))

/-- **When superseded loads are aborted, no load of kernels but the one with the current key can
answer.** -/
theorem Prompt.step (h : Prompt s) (hc : Custody s) (hp : s.controller.policy = .cancel)
    (ha : InTurn s a) : Prompt (s.step a) where
  current n key x hl := by
    have hc' := hc.step ha
    -- a call that takes the load leaves the controller with none
    have htaken : (s.step a).tracked = [] → ∃ call, (s.step a).Holds call n := by
      intro hnone
      refine (hc'.minded n _ hl).resolve_left fun hn => ?_
      rw [hnone] at hn
      cases hn
    cases settling_step s a with
    | apart ht hs =>
      have hretains : Retains s (s.step a) := by
        obtain ⟨_, _, _, _, he⟩ := step_eq s a
        have htake := retains_take hc.minding.coherent hc.minding.keyed hp ht
        rw [he]
        exact htake
      rcases hretains n key x hl with hn | ⟨hbefore, hn⟩
      · obtain ⟨key', x', hcur, hasks⟩ := hc'.minding.keyed n hn
        cases hasks.eq hl.asks
        exact ⟨hcur, .inl hn⟩
      · obtain ⟨hcur, hload⟩ := h.current n key x hbefore
        obtain ⟨call, hcall⟩ := hload.resolve_left hn
        have hrest : (s.turn a).operates = false := (ha hcall.waits).1
        exact ⟨(current_step hrest).trans hcur, .inr ⟨call, hcall.congr (by rw [hs])⟩⟩
    | begun _ he =>
      refine ⟨?_, .inr (htaken (by rw [he]; rfl))⟩
      rw [he] at hl ⊢
      exact (h.current n key x hl).1
    | resumed _ _ _ _ he =>
      refine ⟨?_, .inr (htaken (by rw [he]; rfl))⟩
      rw [he] at hl ⊢
      exact (h.current n key x hl).1
    | givenUp _ _ _ hg _ => rw [(ha (waits_of_givenUp hg)).2.2] at hg; cases hg
  stale := by
    obtain ⟨_, _, _, _, he⟩ := step_eq s a
    rw [he, withBooks_tally]
    rcases staleResults_take s (s.turn a) with hsame | ⟨n, key, x, hl, hs⟩
    · rw [hsame, h.stale]
    · have hlive : Live s.loads n (.kernels key x) := ⟨_, hl, rfl⟩
      rcases hs with htorn | hcur
      · exact absurd hlive (hc.torn htorn n _)
      · exact absurd (h.current n key x hlive).1 hcur

/-- Where superseded loads are aborted and one call waits at a time, every load of kernels that can
still answer has the current key. -/
theorem prompt_always (h : Prompt s) (hc : Custody s) (hp : s.controller.policy = .cancel)
    (hall : s.Always as InTurn) : Prompt (s.run as) := by
  induction as generalizing s with
  | nil => exact h
  | cons a as ih =>
    obtain ⟨ha, hall⟩ := always_cons.mp hall
    have hp' : (s.step a).controller.policy = .cancel := by
      rw [step_controller, (spares_take s _).policy, hp]
    exact ih (h.step hc hp ha) (hc.step ha) hp' hall

/-! ## What was aborted -/

/-- The load was aborted, whether or not it has gone away. -/
def Gone (s : Session) (n : Nat) (q : Question) : Prop :=
  ∃ asked, s.loads[n]? = some ⟨q, .aborted asked⟩ ∨ s.loads[n]? = some ⟨q, .dropped asked⟩

theorem Gone.step (h : s.Gone n q) (a : Action) : (s.step a).Gone n q := by
  obtain ⟨asked, hl | hl⟩ := h
  · obtain ⟨stage, hl', hadvance⟩ := advance_step hl a
    cases hadvance with
    | kept => exact ⟨asked, .inl hl'⟩
    | aborted => exact ⟨asked, .inl hl'⟩
    | dropped => exact ⟨asked, .inr hl'⟩
  · obtain ⟨stage, hl', hadvance⟩ := advance_step hl a
    cases hadvance with
    | kept => exact ⟨asked, .inr hl'⟩
    | aborted => exact ⟨asked, .inr hl'⟩

/-- A load that is gone does not come back. -/
theorem gone_run (h : s.Gone n q) (as : List Action) : (s.run as).Gone n q := by
  induction as generalizing s with
  | nil => exact h
  | cons a as ih => exact ih (h.step a)

/-- What would have been its answer changes nothing. -/
theorem Gone.silent (h : s.Gone n q) (answer : Except ProviderError (List Kernel)) :
    s.step (.answerKernels n answer) = s := by
  refine take_unawaited (t := .answerKernels n answer) (.inr ⟨answer, rfl⟩) fun q' hrun => ?_
  obtain ⟨asked, hl | hl⟩ := h <;> rw [hl] at hrun <;> cases hrun

/-- A load whose key is not current any more was aborted. -/
theorem gone_of_superseded (h : Prompt s) (h' : Prompt (s.step a))
    (hl : Live s.loads n (.kernels key x)) (hne : (s.step a).controller.current ≠ some key) :
    (s.step a).Gone n (.kernels key x) := by
  have hdead : ¬ Live (s.step a).loads n (.kernels key x) := fun hl' =>
    hne (h'.current n key x hl').1
  have hcur := (h.current n key x hl).1
  obtain ⟨stage, hload, hlive⟩ := hl
  obtain ⟨stage', hload', hadvance⟩ := advance_step hload a
  cases hadvance with
  | kept => exact absurd ⟨_, hload', hlive⟩ hdead
  | started => exact absurd ⟨_, hload', rfl⟩ hdead
  | answered ht =>
    -- an answer is no operation, so it leaves the key as it is
    have hrest : (s.turn a).operates = false := by
      rcases ht with ⟨_, _, ht⟩ | ⟨_, ht⟩ <;> rw [ht] <;> rfl
    exact absurd ((current_step hrest).trans hcur) hne
  | aborted =>
    cases stage with
    | queued => exact ⟨_, .inl hload'⟩
    | running => exact ⟨_, .inl hload'⟩
    | _ => cases hlive
  | dropped => cases hlive

/-- The step derives anew or forgets the derivation, so its load is superseded. -/
def Supersedes (s : Session) (a : Action) : Prop :=
  s.derivation? a ≠ none ∨ s.suspension? a ≠ none

/-- A load that is superseded has a key that is not current. -/
theorem Supersedes.current_ne (h : Supersedes s a) (hc : Coherent s)
    (hl : Asks s.loads n (.kernels key x)) : (s.step a).controller.current ≠ some key := by
  -- a derivation has a key that no load has yet, and a suspension leaves none
  rcases h with hd | hs
  · obtain ⟨i, place, -, hd⟩ := derived_of_derivation hd
    exact hc.current_ne_of_derived hd hl
  · have hnone : (s.step a).controller.current = none := by
      cases ht : s.turn a with
      | suspend =>
        rw [step_controller, ht, take]
        rcases suspend_cases s with ⟨-, h | h⟩ | ⟨-, -, _, _, -, he⟩
        · exact absurd (by simp [suspension?, ht, h]) hs
        · exact absurd (by simp [suspension?, ht, h]) hs
        · rw [he]
      | _ => exact absurd (by simp [suspension?, ht]) hs
    rw [hnone]
    simp

/-! ## Runs -/

/-- What has become of the loads after a run. -/
structure Kempt (s₀ : Session) (as : List Action) : Prop where
  /-- Who can answer is kept track of, or the one call that waits has taken it. -/
  minded : ∀ n q, Live (s₀.run as).loads n q → n ∈ (s₀.run as).tracked ∨
    ∃ call, (s₀.run as).Holds call n ∧ ∀ other, (s₀.run as).WaitsAt other → other = call
  tracked : ¬ (s₀.run as).Waits → ∀ n q, Live (s₀.run as).loads n q → n ∈ (s₀.run as).tracked
  /-- The load of the derivation is the one that asks with the current key. -/
  keyed : ∀ n, (s₀.run as).controller.kernelLoad = some n →
    ∃ key x, (s₀.run as).controller.current = some key ∧
      Asks (s₀.run as).loads n (.kernels key x) ∧
      ∀ m y, Asks (s₀.run as).loads m (.kernels key y) → m = n
  torn : (s₀.run as).controller.tornDown = true → ∀ n q, ¬ Live (s₀.run as).loads n q
  /-- Nothing is being loaded when a call returns. -/
  returned : ∀ xs a (call : Nat), as = xs ++ [a] →
    (s₀.run xs).settlings[call]? ≠ some Settling.returned →
    (s₀.run as).settlings[call]? = some Settling.returned →
    (s₀.run as).controller.tornDown = false →
    ∀ x, (s₀.run as).controller.snapshot.status ≠ .loading x

/-- What has become of the loads of kernels after a run when superseded ones are aborted. -/
structure Cleared (s₀ : Session) (as : List Action) : Prop where
  current : ∀ n key x, Live (s₀.run as).loads n (.kernels key x) →
    (s₀.run as).controller.current = some key
  single : ∀ n m key key' x x', Live (s₀.run as).loads n (.kernels key x) →
    Live (s₀.run as).loads m (.kernels key' x') → n = m
  /-- A load that is superseded is aborted, and what its provider has to say is never heard. -/
  gone : ∀ xs a ys n key x, as = xs ++ a :: ys → Live (s₀.run xs).loads n (.kernels key x) →
    Supersedes (s₀.run xs) a → (s₀.run as).Gone n (.kernels key x) ∧
      ∀ answer, (s₀.run as).step (.answerKernels n answer) = s₀.run as
  stale : (s₀.run as).tally.staleResults = 0

/-- **No load is lost in a run in which each call returns before anything else begins**: one that
can answer is kept track of, the load of the derivation has the current key, none is left after a
tear-down, and nothing is being loaded when a call returns. When superseded loads are aborted, there
is one load of kernels at most that can answer, and no other is heard. -/
theorem custody_run (form : Form) (context : Context) (policy : StalePolicy) (as : List Action)
    (h : (mount form context policy).Always as InTurn) :
    Kempt (mount form context policy) as ∧
      (policy = .cancel → Cleared (mount form context policy) as) := by
  have hc : ∀ xs ys, as = xs ++ ys → Custody ((mount form context policy).run xs) := by
    rintro xs ys rfl
    exact custody_always (custody_mount form context policy) (always_append.mp h).1
  have hlast : Custody ((mount form context policy).run as) := hc as [] (List.append_nil as).symm
  refine ⟨?_, fun hp => ?_⟩
  · refine {
      minded := fun n q hl => ?_
      tracked := fun hno n q hl => hlast.tracked hno hl
      keyed := fun n hn => ?_
      torn := hlast.torn
      returned := fun xs a call hxs hbefore hafter hup x hx => ?_ }
    · rcases hlast.minded n q hl with hn | ⟨call, held, hheld, hn⟩
      · exact .inl hn
      · exact .inr ⟨call, ⟨held, hheld, hn⟩, fun other ho => hlast.alone _ _ ho ⟨held, hheld⟩⟩
    · obtain ⟨key, x, hcur, hasks⟩ := hlast.minding.keyed n hn
      exact ⟨key, x, hcur, hasks, fun m y hm => hlast.minding.coherent.unique _ _ _ _ _ hm hasks⟩
    · -- a list that is being loaded has a load that can answer, and nobody is left to keep track
      -- of it
      obtain ⟨n, key, hl, -⟩ := hlast.minding.coherent.loading hup x hx
      have hstep : (mount form context policy).run as =
          ((mount form context policy).run xs).step a := by rw [hxs, run_concat]
      have ha : InTurn ((mount form context policy).run xs) a := h xs a [] hxs
      rw [hstep] at hafter hl
      have hno := (hc xs [a] hxs).not_waits ha hbefore hafter
      have htracked := tracked_of_returned hbefore hafter
      have hn := ((hc xs [a] hxs).step ha).tracked hno hl
      rw [htracked] at hn
      cases hn
  · -- every session on the way is prompt, so a load that is superseded is gone for good
    have hprompt : ∀ xs ys, as = xs ++ ys → Prompt ((mount form context policy).run xs) := by
      rintro xs ys rfl
      exact prompt_always (prompt_mount form context policy) (custody_mount form context policy) hp
        (always_append.mp h).1
    have hprompted := hprompt as [] (List.append_nil as).symm
    refine {
      current := fun n key x hl => (hprompted.current n key x hl).1
      single := fun n m key key' x x' hl hl' => ?_
      gone := fun xs a ys n key x hxs hl hs => ?_
      stale := hprompted.stale }
    · have hkey : key = key' := Option.some.inj
        ((hprompted.current n key x hl).1.symm.trans (hprompted.current m key' x' hl').1)
      subst hkey
      exact hlast.minding.coherent.unique n m key x x' hl.asks hl'.asks
    · have hcoh := (hc xs (a :: ys) hxs).minding.coherent
      have hafter : Prompt (((mount form context policy).run xs).step a) := by
        rw [← run_concat]
        exact hprompt (xs ++ [a]) ys (by rw [hxs]; simp)
      have hgone := gone_of_superseded (hprompt xs (a :: ys) hxs) hafter hl
        (hs.current_ne hcoh hl.asks)
      have hrun : ((mount form context policy).run as).Gone n (.kernels key x) := by
        rw [hxs, run_append, run_cons]
        exact gone_run hgone ys
      exact ⟨hrun, hrun.silent⟩

/-- A call waits for the loads of client 1, which answer; then client 2 is chosen and, while its
load is running, client 3. -/
def patientSteps : List Action :=
  [.render ⟨some .system, false⟩, .start 0, .start 1, .start 2, .settle, .answerClients 0 (.ok []),
    .answerProducts 1 (.ok []), .answerKernels 2 (.ok [⟨⟨7⟩, "6.4.0", false⟩]),
    .continueSettling 0, .write 0 "clientId" (.ofNat 2), .render ⟨some .system, false⟩, .start 3,
    .write 0 "clientId" (.ofNat 3), .render ⟨some .system, false⟩, .start 4]

theorem custody_run_patientSteps :
    let s := (mount oneClient (.shared 0) .cancel).run patientSteps
    s.Gone 3 (.kernels ⟨2, some (.client ⟨2⟩)⟩ (.client ⟨2⟩)) ∧
      s.step (.answerKernels 3 (.error (.unavailable "down"))) = s ∧
      Live s.loads 4 (.kernels ⟨3, some (.client ⟨3⟩)⟩ (.client ⟨3⟩)) ∧ 4 ∈ s.tracked ∧
      s.settlings = [.returned] := by
  intro s
  have hturn : (mount oneClient (.shared 0) .cancel).Always patientSteps InTurn := by
    decide +kernel
  obtain ⟨hkempt, hcleared⟩ := custody_run oneClient (.shared 0) .cancel patientSteps hturn
  have hload : s.loads[4]? = some ⟨.kernels ⟨3, some (.client ⟨3⟩)⟩ (.client ⟨3⟩), .running⟩ := by
    decide +kernel
  have hlive : Live s.loads 4 (.kernels ⟨3, some (.client ⟨3⟩)⟩ (.client ⟨3⟩)) := ⟨_, hload, rfl⟩
  have hsettlings : s.settlings = [.returned] := by decide +kernel
  have hno : ¬ s.Waits := by decide +kernel
  have hbefore : ((mount oneClient (.shared 0) .cancel).run (patientSteps.take 13)).loads[3]? =
      some ⟨.kernels ⟨2, some (.client ⟨2⟩)⟩ (.client ⟨2⟩), .running⟩ := by decide +kernel
  have hsupersedes : Supersedes ((mount oneClient (.shared 0) .cancel).run (patientSteps.take 13))
      (.render ⟨some .system, false⟩) := .inl (by decide +kernel)
  obtain ⟨hgone, hsilent⟩ := (hcleared rfl).gone (patientSteps.take 13) _ (patientSteps.drop 14) 3
    _ _ rfl ⟨_, hbefore, rfl⟩ hsupersedes
  exact ⟨hgone, hsilent _, hlive, hkempt.tracked hno 4 _ hlive, hsettlings⟩

end Session

end LivePatching
