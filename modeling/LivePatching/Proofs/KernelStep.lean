import LivePatching.Proofs.Operation

/-!
# What a step does to the list of kernels

A step derives the list anew, suspends, tears the sub-form down, takes over or refuses the answer
of the current load, drops the answer of another one, or leaves the list, its status, its key and
its inputs alone (`Quiet`).

* `step_kernels`: **every step is one of these**, with all that it does to the loads of kernels and
  to the models.
-/

namespace LivePatching

open Json

namespace Session

/-- The list of kernels, its key, its inputs and its loads are left alone. -/
structure Quiet (s s' : Session) : Prop where
  kernels : s'.controller.snapshot.kernels = s.controller.snapshot.kernels
  status : s'.controller.snapshot.status = s.controller.snapshot.status
  tornDown : s'.controller.tornDown = s.controller.tornDown
  generation : s'.controller.generation = s.controller.generation
  current : s'.controller.current = s.controller.current
  inputs : s'.controller.inputs = s.controller.inputs
  asks : ∀ n key x, Asks s'.loads n (.kernels key x) ↔ Asks s.loads n (.kernels key x)
  live : ∀ n key x, Live s'.loads n (.kernels key x) ↔ Live s.loads n (.kernels key x)

/-- The list is derived anew for the inputs; a load, if one is issued, comes to the place. -/
structure Derived (s s' : Session) (i : Inputs) (place : Nat) : Prop where
  moved : s.unmoved i = false
  kernels : s'.controller.snapshot.kernels = []
  status : s'.controller.snapshot.status = i.scope.elim .idle .loading
  tornDown : s'.controller.tornDown = false
  generation : s'.controller.generation = s.controller.generation + 1
  current : s'.controller.current = some ⟨s.controller.generation + 1, i.scope⟩
  inputs : s'.controller.inputs = some i
  models : s'.form.models =
    if i.scope = none then (s.form.writeKernelId i.context none).models else s.form.models
  vacant : ∀ key x, ¬ Asks s.loads place (.kernels key x)
  asks : ∀ n key x, Asks s'.loads n (.kernels key x) ↔ Asks s.loads n (.kernels key x) ∨
    n = place ∧ key = ⟨s.controller.generation + 1, i.scope⟩ ∧ i.scope = some x
  live : ∀ n key x, Live s'.loads n (.kernels key x) → Live s.loads n (.kernels key x) ∨
    n = place ∧ key = ⟨s.controller.generation + 1, i.scope⟩ ∧ i.scope = some x
  issued : ∀ x, i.scope = some x →
    Live s'.loads place (.kernels ⟨s.controller.generation + 1, i.scope⟩ x)

/-- The derivation is forgotten. -/
structure Suspended (s s' : Session) : Prop where
  up : s.controller.tornDown = false
  derived : s.controller.inputs ≠ none
  kernels : s'.controller.snapshot.kernels = []
  status : s'.controller.snapshot.status = .idle
  tornDown : s'.controller.tornDown = false
  generation : s'.controller.generation = s.controller.generation + 1
  current : s'.controller.current = none
  inputs : s'.controller.inputs = none
  models : s'.form.models = s.form.models
  ages : Ages s.loads s'.loads

/-- The sub-form is torn down. -/
structure TornDown (s s' : Session) : Prop where
  up : s.controller.tornDown = false
  snapshot : s'.controller.snapshot = s.controller.snapshot
  tornDown : s'.controller.tornDown = true
  generation : s'.controller.generation = s.controller.generation
  current : s'.controller.current = none
  inputs : s'.controller.inputs = s.controller.inputs
  models : s'.form.models = s.form.models
  ages : Ages s.loads s'.loads

/-- A load of kernels that was running has answered; it is over, and the others are as before. -/
structure Answered (s s' : Session) (load : Nat) (key : RequestKey) (x : Scope) : Prop where
  running : s.loads[load]? = some ⟨.kernels key x, .running⟩
  tornDown : s'.controller.tornDown = s.controller.tornDown
  generation : s'.controller.generation = s.controller.generation
  current : s'.controller.current = s.controller.current
  inputs : s'.controller.inputs = s.controller.inputs
  asks : ∀ n q, Asks s'.loads n q ↔ Asks s.loads n q
  live : ∀ n q, Live s'.loads n q ↔ Live s.loads n q ∧ n ≠ load

/-- The turn is not the answer of a load of kernels that is running. -/
def Unasked (s : Session) (t : Turn) : Prop :=
  ∀ load answer key x, t = .answerKernels load answer →
    s.loads[load]? ≠ some ⟨.kernels key x, .running⟩

/-- What a turn does to the list of kernels. -/
inductive KernelStep (s : Session) (t : Turn) (s' : Session) : Prop where
  | quiet : s.Unasked t → Quiet s s' → s'.form.models = (s.form.own t).models →
      KernelStep s t s'
  | derived (i : Inputs) (place : Nat) : t.observed = some i → Derived s s' i place →
      KernelStep s t s'
  | suspended : t = .suspend → Suspended s s' → KernelStep s t s'
  | tornDown : t = .tearDown → TornDown s s' → KernelStep s t s'
  | stale (load : Nat) (answer : Except ProviderError (List Kernel)) (key : RequestKey)
      (x : Scope) : t = .answerKernels load answer → Answered s s' load key x →
      s.controller.tornDown = true ∨ s.controller.current ≠ some key →
      s'.controller = s.controller → s'.form.models = s.form.models → KernelStep s t s'
  | forgotten (load : Nat) (answer : Except ProviderError (List Kernel)) (key : RequestKey)
      (x : Scope) : t = .answerKernels load answer → Answered s s' load key x →
      s.controller.tornDown = false → s.controller.current = some key →
      s.controller.inputs = none → s'.controller = s.controller → s'.form.models = s.form.models →
      KernelStep s t s'
  | installed (load : Nat) (kernels : List Kernel) (key : RequestKey) (x : Scope) (i : Inputs) :
      t = .answerKernels load (.ok kernels) → Answered s s' load key x →
      s.controller.tornDown = false → s.controller.current = some key →
      s.controller.inputs = some i → s'.controller.snapshot.kernels = kernels →
      s'.controller.snapshot.status = .ready x →
      s'.form.models = (s.form.writeKernelId i.context (defaultKernel kernels)).models →
      KernelStep s t s'
  | refused (load : Nat) (e : ProviderError) (key : RequestKey) (x : Scope) (i : Inputs) :
      t = .answerKernels load (.error e) → Answered s s' load key x →
      s.controller.tornDown = false → s.controller.current = some key →
      s.controller.inputs = some i → s'.controller.snapshot.kernels = [] →
      s'.controller.snapshot.status = .failed x →
      s'.form.models =
        (if ((s.form.model i.context.reads).id .kernelId).isSome then
          s.form.writeKernelId i.context none else s.form).models →
      KernelStep s t s'

section Quiet

theorem Quiet.refl (s : Session) : Quiet s s :=
  ⟨rfl, rfl, rfl, rfl, rfl, rfl, fun _ _ _ => Iff.rfl, fun _ _ _ => Iff.rfl⟩

/-- An observation finds the inputs as they were. -/
theorem Quiet.unmoved {s s' : Session} (h : Quiet s s') (i : Inputs) :
    s'.unmoved i = s.unmoved i := by
  rw [Session.unmoved, Session.unmoved, h.tornDown, h.inputs]

variable (s : Session)

/-- To activate does not touch the derivation. -/
theorem quiet_activate : Quiet s s.activate := by
  rcases activate_cases s with h | h
  · rw [h]; exact .refl s
  · rw [h]
    refine ⟨rfl, rfl, rfl, rfl, rfl, rfl, fun n key x => ?_, fun n key x => ?_⟩
    · simp only [asks_append]; simp
    · simp only [live_append]; simp

/-- To start a load does not touch the derivation. -/
theorem quiet_start (load : Nat) : Quiet s (s.start load) := by
  rcases start_cases s load with h | ⟨q, hl, h⟩
  · rw [h]; exact .refl s
  · rw [h]
    exact ⟨rfl, rfl, rfl, rfl, rfl, rfl, fun _ _ _ => asks_setStage,
      fun _ _ _ => live_setStage hl rfl⟩

/-- To drop a load does not touch the derivation. -/
theorem quiet_drop (load : Nat) : Quiet s (s.drop load) := by
  rcases drop_cases s load with h | ⟨q, asked, tally, hl, h⟩
  · rw [h]; exact .refl s
  · rw [h]
    exact ⟨rfl, rfl, rfl, rfl, rfl, rfl, fun _ _ _ => asks_setStage,
      fun _ _ _ => live_setStage hl rfl⟩

/-- The end of a load that asks for something else leaves the loads of kernels alone. -/
theorem live_finish {loads : List Load} {load : Nat} {q : Question} {stage : Stage}
    (h : loads[load]? = some ⟨q, stage⟩) (hq : ∀ key x, q ≠ .kernels key x) (n : Nat)
    (key : RequestKey) (x : Scope) :
    Live (loads.modify load fun l => { l with stage := .finished }) n (.kernels key x) ↔
      Live loads n (.kernels key x) := by
  rw [live_setStage_over rfl]
  refine ⟨fun hl => hl.1, fun hl => ⟨hl, ?_⟩⟩
  rintro rfl
  exact hq key x ((asks_of_getElem? h).eq hl.asks)

/-- The answer for a list does not touch the derivation. -/
theorem quiet_answerCatalog (list : Listing) (load : Nat)
    (answer : Except ProviderError (List list.Entry)) :
    Quiet s (s.answerCatalog list load answer) := by
  rcases answerCatalog_cases s list load answer with h | ⟨hl, entries, tally, h⟩
  · rw [h]; exact .refl s
  · rw [h]
    exact ⟨Listing.kernels_install _ _, Listing.status_install _ _, rfl, rfl, rfl, rfl,
      fun _ _ _ => asks_setStage, live_finish hl list.question_ne_kernels⟩

end Quiet

theorem form_activate (s : Session) : s.activate.form = s.form := by
  rcases activate_cases s with h | h <;> rw [h]

theorem form_start (s : Session) (load : Nat) : (s.start load).form = s.form := by
  rcases start_cases s load with h | ⟨_, -, h⟩ <;> rw [h]; rfl

theorem form_drop (s : Session) (load : Nat) : (s.drop load).form = s.form := by
  rcases drop_cases s load with h | ⟨_, _, _, -, h⟩ <;> rw [h]; rfl

/-- The answer for a list leaves the form as it is. -/
theorem form_answerCatalog (s : Session) (list : Listing) (load : Nat)
    (answer : Except ProviderError (List list.Entry)) :
    (s.answerCatalog list load answer).form = s.form := by
  rcases answerCatalog_cases s list load answer with h | ⟨-, _, _, h⟩ <;> rw [h]; rfl

/-- The next load has not asked anything yet. -/
theorem not_asks_length {loads loads' : List Load} (h : Ages loads loads') (q : Question) :
    ¬ Asks loads loads'.length q := by
  intro hq
  exact Nat.lt_irrefl _ ((h.asks _ _).mpr hq).lt_length

/-- New inputs are derived. -/
theorem derived_derive {s : Session} {i : Inputs} (h : s.unmoved i = false) :
    ∃ place, Derived s (s.derive i) i place := by
  have hup : s.controller.tornDown = false := by
    simp only [unmoved, Bool.or_eq_false_iff] at h; exact h.1
  -- without a scope the loads are those that were there, with one there is a new one at the end
  cases hi : i.scope with
  | none =>
    obtain ⟨loads, background, hages, he⟩ := derive_none s hi
    refine ⟨loads.length, ?_⟩
    rw [he]
    exact {
      moved := h, kernels := rfl, status := by rw [hi]; rfl, tornDown := hup, generation := rfl
      current := by rw [hi], inputs := rfl, models := by rw [if_pos hi]
      vacant := fun _ _ => not_asks_length hages _
      asks := fun n key x => by simp [hages.asks, hi]
      live := fun n key x hl => .inl (hages.live _ _ hl)
      issued := fun x hx => by rw [hi] at hx; simp at hx }
  | some x =>
    obtain ⟨loads, background, hages, he⟩ := derive_some s hi
    refine ⟨loads.length, ?_⟩
    rw [he]
    exact {
      moved := h, kernels := rfl, status := by rw [hi]; rfl, tornDown := hup, generation := rfl
      current := by rw [hi], inputs := rfl, models := by rw [hi]; rfl
      vacant := fun _ _ => not_asks_length hages _
      asks := fun n key y => by
        rw [asks_append, hages.asks, hi]
        simp only [Question.kernels.injEq, Option.some.injEq, eq_comm]
      live := fun n key y hl => by
        rcases live_append.mp hl with hl | ⟨hn, hq⟩
        · exact .inl (hages.live _ _ hl)
        · cases hq
          exact .inr ⟨hn, by rw [hi], hi⟩
      issued := fun y hy => by
        rw [hi] at hy ⊢
        cases hy
        exact live_append.mpr (.inr ⟨rfl, rfl⟩) }

/-- What goes before a derivation without a trace does not show. -/
theorem Derived.of_quiet {s s₁ s' : Session} {i : Inputs} {place : Nat} (hq : Quiet s s₁)
    (hf : s₁.form = s.form) (h : Derived s₁ s' i place) : Derived s s' i place where
  moved := (hq.unmoved i).symm.trans h.moved
  kernels := h.kernels
  status := h.status
  tornDown := h.tornDown
  generation := by rw [h.generation, hq.generation]
  current := by rw [h.current, hq.generation]
  inputs := h.inputs
  models := by rw [h.models, hf]
  vacant := fun key x ha => h.vacant key x ((hq.asks _ _ _).mpr ha)
  asks := fun n key x => by rw [h.asks, hq.asks, hq.generation]
  live := fun n key x hl => by
    have := h.live n key x hl
    rwa [hq.live, hq.generation] at this
  issued := fun x hx => by rw [← hq.generation]; exact h.issued x hx

/-- An answered load is finished, and all others are what they were. -/
theorem answered_answered {s : Session} {load : Nat} {key : RequestKey} {x : Scope}
    (h : s.loads[load]? = some ⟨.kernels key x, .running⟩) :
    Answered s (s.answered load) load key x :=
  ⟨h, rfl, rfl, rfl, rfl, fun _ _ => asks_setStage, fun _ _ => live_setStage_over rfl⟩

/-- A turn that observes inputs which are not those of the last derivation derives anew. -/
theorem take_derived {s : Session} {t : Turn} {i : Inputs} (ht : t.observed = some i)
    (h : s.unmoved i = false) : ∃ place, Derived s (s.take t) i place := by
  cases t with
  | observe j =>
    cases ht
    rw [take, observe_eq, if_neg (by simp [h])]
    exact derived_derive h
  | render j =>
    cases ht
    -- to activate comes first, and leaves the inputs and their key alone
    have hq := quiet_activate s
    have h' : s.activate.unmoved i = false := (hq.unmoved i).trans h
    rw [take, observe_eq, if_neg (by simp [h'])]
    obtain ⟨place, hd⟩ := derived_derive h'
    exact ⟨place, hd.of_quiet hq (form_activate s)⟩
  | _ => cases ht

/-- A turn that observes the inputs of the last derivation leaves the list alone. -/
theorem take_unmoved {s : Session} {t : Turn} {i : Inputs} (ht : t.observed = some i)
    (h : s.unmoved i = true) : Quiet s (s.take t) ∧ (s.take t).form = s.form := by
  cases t with
  | observe j =>
    cases ht
    rw [take, observe_eq, if_pos h]
    exact ⟨.refl s, rfl⟩
  | render j =>
    cases ht
    have hq := quiet_activate s
    rw [take, observe_eq, if_pos ((hq.unmoved i).trans h)]
    exact ⟨hq, form_activate s⟩
  | _ => cases ht

/-- An observation derives, or is quiet. -/
theorem take_observed {s : Session} {t : Turn} {i : Inputs} (ht : t.observed = some i)
    (hu : s.Unasked t) (hown : s.form.own t = s.form) : KernelStep s t (s.take t) := by
  cases h : s.unmoved i with
  | true =>
    obtain ⟨hq, hf⟩ := take_unmoved ht h
    exact .quiet hu hq (by rw [hf, hown])
  | false =>
    obtain ⟨place, hd⟩ := take_derived ht h
    exact .derived i place ht hd

/-- Every turn of the sub-form is one of the steps. -/
theorem take_kernels (s : Session) (t : Turn) : KernelStep s t (s.take t) := by
  cases t with
  | rest => exact .quiet (by simp [Unasked]) (.refl s) rfl
  | write model key value => exact .quiet (by simp [Unasked]) { Quiet.refl s with } rfl
  | activate =>
    exact .quiet (by simp [Unasked]) (quiet_activate s) (congrArg Form.models (form_activate s))
  | observe i => exact take_observed rfl (by simp [Unasked]) rfl
  | render i => exact take_observed rfl (by simp [Unasked]) rfl
  | suspend =>
    rcases suspend_cases s with ⟨h, -⟩ | ⟨hup, hi, loads, background, hages, h⟩
    · simp only [take, h]; exact .quiet (by simp [Unasked]) (.refl s) rfl
    · simp only [take, h]
      exact .suspended rfl ⟨hup, hi, rfl, rfl, hup, rfl, rfl, rfl, rfl, hages⟩
  | tearDown =>
    rcases tearDown_cases s with ⟨h, -⟩ | ⟨hup, loads, hages, h⟩
    · simp only [take, h]; exact .quiet (by simp [Unasked]) (.refl s) rfl
    · simp only [take, h]
      exact .tornDown rfl ⟨hup, rfl, rfl, rfl, rfl, rfl, rfl, hages⟩
  | start load =>
    exact .quiet (by simp [Unasked]) (quiet_start s load)
      (congrArg Form.models (form_start s load))
  | answerCatalog list load answer =>
    exact .quiet (by simp [Unasked]) (quiet_answerCatalog s list load answer)
      (congrArg Form.models (form_answerCatalog s list load answer))
  | answerKernels load answer =>
    -- the one turn with several outcomes; they are those of the step
    have hstep := answerKernels_step s load answer
    simp only [take]
    generalize s.answerKernels load answer = s' at hstep ⊢
    cases hstep with
    | unasked h =>
      refine .quiet (fun n b key x hb => ?_) (.refl s) rfl
      cases hb
      exact h key x
    | stale key x h hs =>
      exact .stale load answer key x rfl
        ⟨h, rfl, rfl, rfl, rfl, (answered_answered h).asks, (answered_answered h).live⟩ hs rfl rfl
    | forgotten key x h hup hcur hi =>
      exact .forgotten load answer key x rfl (answered_answered h) hup hcur hi rfl rfl
    | installed key x i kernels h hup hcur hi ha =>
      subst ha
      exact .installed load kernels key x i rfl
        ⟨h, rfl, rfl, rfl, rfl, (answered_answered h).asks, (answered_answered h).live⟩
        hup hcur hi rfl rfl rfl
    | refused key x i e h hup hcur hi ha =>
      subst ha
      exact .refused load e key x i rfl
        ⟨h, rfl, rfl, rfl, rfl, (answered_answered h).asks, (answered_answered h).live⟩
        hup hcur hi rfl rfl rfl
  | drop load =>
    exact .quiet (by simp [Unasked]) (quiet_drop s load) (congrArg Form.models (form_drop s load))
  | untrack => exact .quiet (by simp [Unasked]) { Quiet.refl s with } rfl

/-- What a turn leaves alone. -/
structure SameBooks (s s' : Session) : Prop where
  context : s'.context = s.context
  settlings : s'.settlings = s.settlings
  drives : s'.drives = s.drives
  holders : s'.holders = s.holders

theorem SameBooks.refl (s : Session) : SameBooks s s := ⟨rfl, rfl, rfl, rfl⟩

theorem sameBooks_activate (s : Session) : SameBooks s s.activate := by
  rcases activate_cases s with h | h <;> rw [h] <;> exact ⟨rfl, rfl, rfl, rfl⟩

/-- An observation does not touch the books of calls and loops. -/
theorem sameBooks_observe (s : Session) (i : Inputs) : SameBooks s (s.observe i) := by
  rw [observe_eq]
  split
  · exact .refl s
  · cases hi : i.scope with
    | none => obtain ⟨_, _, -, he⟩ := derive_none s hi; rw [he]; exact ⟨rfl, rfl, rfl, rfl⟩
    | some x => obtain ⟨_, _, -, he⟩ := derive_some s hi; rw [he]; exact ⟨rfl, rfl, rfl, rfl⟩

/-- An answer does not touch the books of calls and loops. -/
theorem sameBooks_answerKernels (s : Session) (load : Nat)
    (answer : Except ProviderError (List Kernel)) : SameBooks s (s.answerKernels load answer) := by
  have h := answerKernels_step s load answer
  generalize s.answerKernels load answer = s' at h ⊢
  cases h <;> exact ⟨rfl, rfl, rfl, rfl⟩

/-- A turn keeps no books. -/
theorem sameBooks_take (s : Session) (t : Turn) : SameBooks s (s.take t) := by
  cases t with
  | observe i => exact sameBooks_observe s i
  | render i =>
    have h := sameBooks_activate s
    have h' := sameBooks_observe s.activate i
    exact ⟨h'.context.trans h.context, h'.settlings.trans h.settlings, h'.drives.trans h.drives,
      h'.holders.trans h.holders⟩
  | activate => exact sameBooks_activate s
  | suspend =>
    rcases suspend_cases s with ⟨h, -⟩ | ⟨-, -, _, _, -, h⟩ <;> rw [take, h] <;>
      exact ⟨rfl, rfl, rfl, rfl⟩
  | tearDown =>
    rcases tearDown_cases s with ⟨h, -⟩ | ⟨-, _, -, h⟩ <;> rw [take, h] <;>
      exact ⟨rfl, rfl, rfl, rfl⟩
  | start load =>
    rcases start_cases s load with h | ⟨_, -, h⟩ <;> rw [take, h] <;> exact ⟨rfl, rfl, rfl, rfl⟩
  | drop load =>
    rcases drop_cases s load with h | ⟨_, _, _, -, h⟩ <;> rw [take, h] <;>
      exact ⟨rfl, rfl, rfl, rfl⟩
  | answerCatalog list load answer =>
    rcases answerCatalog_cases s list load answer with h | ⟨-, _, _, h⟩ <;> rw [take, h] <;>
      exact ⟨rfl, rfl, rfl, rfl⟩
  | answerKernels load answer => exact sameBooks_answerKernels s load answer
  | _ => exact ⟨rfl, rfl, rfl, rfl⟩

/-! ## Steps -/

/-- A sub-form stays in the context it was mounted with. -/
theorem context_step (s : Session) (a : Action) : (s.step a).context = s.context := by
  rw [step_context, (sameBooks_take s _).context]

/-- The context stays what it was. -/
theorem context_run (s : Session) (as : List Action) : (s.run as).context = s.context := by
  induction as generalizing s with
  | nil => rfl
  | cons a as ih => rw [run_cons, ih, context_step]

/-- The books do not show in the list of kernels. -/
theorem KernelStep.withBooks {s s' : Session} {t : Turn} (h : KernelStep s t s') (bus : Bus)
    (settlings : List Settling) (drives : List Drive) (holders : Nat) :
    KernelStep s t (s'.withBooks bus settlings drives holders) := by
  cases h with
  | quiet hu h hm => exact .quiet hu { h with } hm
  | derived i place ht h => exact .derived i place ht { h with }
  | suspended ht h => exact .suspended ht { h with }
  | tornDown ht h => exact .tornDown ht { h with }
  | stale load answer key x ht h hs hc hm => exact .stale load answer key x ht { h with } hs hc hm
  | forgotten load answer key x ht h hup hcur hi hc hm =>
    exact .forgotten load answer key x ht { h with } hup hcur hi hc hm
  | installed load kernels key x i ht h hup hcur hi hk hs hm =>
    exact .installed load kernels key x i ht { h with } hup hcur hi hk hs hm
  | refused load e key x i ht h hup hcur hi hk hs hm =>
    exact .refused load e key x i ht { h with } hup hcur hi hk hs hm

/-- An observation of new inputs derives. -/
theorem step_derived {s : Session} {a : Action} {i : Inputs} (hi : (s.turn a).observed = some i)
    (h : s.unmoved i = false) : ∃ place, Derived s (s.step a) i place := by
  obtain ⟨bus, settlings, drives, holders, he⟩ := step_eq s a
  obtain ⟨place, hd⟩ := take_derived hi h
  rw [he]
  exact ⟨place, { hd with }⟩

/-- **Every step is one of the things that can be done to the list of kernels.** -/
theorem step_kernels (s : Session) (a : Action) : KernelStep s (s.turn a) (s.step a) := by
  obtain ⟨bus, settlings, drives, holders, h⟩ := step_eq s a
  rw [h]
  exact (take_kernels s (s.turn a)).withBooks bus settlings drives holders

/-- A sub-form that is up has always been. -/
theorem up_of_step {s : Session} {a : Action} (h : (s.step a).controller.tornDown = false) :
    s.controller.tornDown = false := by
  cases step_kernels s a with
  | quiet _ hq _ => rw [← hq.tornDown]; exact h
  | derived i place _ hd =>
    have := hd.moved
    simp only [unmoved, Bool.or_eq_false_iff] at this
    exact this.1
  | suspended _ hs => exact hs.up
  | tornDown _ ht => exact ht.up
  | stale load answer key x _ ha => rw [← ha.tornDown]; exact h
  | forgotten load answer key x _ ha => rw [← ha.tornDown]; exact h
  | installed load kernels key x i _ ha => rw [← ha.tornDown]; exact h
  | refused load e key x i _ ha => rw [← ha.tornDown]; exact h

end Session

end LivePatching
