import LivePatching.Proofs.Turn

/-!
# The operations of the controller, in closed form

* `Asks`, `Live`: a load asks a question, and can still answer it. Loads only age (`Ages`): what
  they ask never changes, none comes back to life, and there is not more work left.
* `derive_none`, `derive_some`, `observe_eq`, `suspend_cases`, `tearDown_cases`, `activate_cases`:
  all that an operation of the controller changes.
* `supersede_keyed`, `loads_derive`, `suspend_eq`: a derivation and a suspension take the former
  load off, whatever key and inputs come after it.
* `start_cases`, `drop_cases`, `answerCatalog_cases`: all that a step of a load changes.
* `answerKernels_step`: what becomes of an answer, case by case.
-/

namespace LivePatching

/-- The load asks the question. -/
def Asks (loads : List Load) (n : Nat) (q : Question) : Prop :=
  loads[n]?.map (·.question) = some q

/-- The load asks the question and can still answer. -/
def Live (loads : List Load) (n : Nat) (q : Question) : Prop :=
  ∃ stage, loads[n]? = some ⟨q, stage⟩ ∧ stage.isLive = true

/-- The steps that a load has left, and the word of the kernel that it may write. -/
def Stage.work : Stage → Nat
  | queued => 3
  | running => 2
  | finished => 0
  | aborted _ => 1
  | dropped _ => 0

/-- The steps that loads can still take, in all. -/
def totalWork : List Load → Nat
  | [] => 0
  | l :: rest => l.stage.work + totalWork rest

/-- The later loads are the earlier ones, and none has come to life. -/
structure Ages (loads loads' : List Load) : Prop where
  asks : ∀ n q, Asks loads' n q ↔ Asks loads n q
  live : ∀ n q, Live loads' n q → Live loads n q
  work : totalWork loads' ≤ totalWork loads

variable {loads loads' loads'' : List Load} {n m : Nat} {q q' : Question}

theorem asks_of_getElem? {stage : Stage} (h : loads[n]? = some ⟨q, stage⟩) : Asks loads n q := by
  unfold Asks; rw [h]; rfl

theorem Live.asks (h : Live loads n q) : Asks loads n q := by
  obtain ⟨_, h, -⟩ := h
  exact asks_of_getElem? h

/-- A load asks one question. -/
theorem Asks.eq (h : Asks loads n q) (h' : Asks loads n q') : q = q' :=
  Option.some.inj (h.symm.trans h')

theorem Asks.lt_length (h : Asks loads n q) : n < loads.length := by
  obtain ⟨_, h, -⟩ := Option.map_eq_some_iff.mp h
  exact (List.getElem?_eq_some_iff.mp h).1

theorem Ages.refl (loads : List Load) : Ages loads loads :=
  ⟨fun _ _ => Iff.rfl, fun _ _ h => h, Nat.le_refl _⟩

/-- Loads age further. -/
theorem Ages.trans (h : Ages loads loads') (h' : Ages loads' loads'') : Ages loads loads'' :=
  ⟨fun n q => (h'.asks n q).trans (h.asks n q), fun n q hl => h.live n q (h'.live n q hl),
    Nat.le_trans h'.work h.work⟩

theorem getElem?_modify_ne {f : Load → Load} (h : n ≠ m) : (loads.modify n f)[m]? = loads[m]? := by
  rw [List.getElem?_modify]; simp [h]

theorem getElem?_modify_self {f : Load → Load} : (loads.modify n f)[n]? = loads[n]?.map f := by
  rw [List.getElem?_modify]; simp

/-- A load that moves keeps its question. -/
theorem asks_modify {f : Load → Load} (hf : ∀ l, (f l).question = l.question) :
    Asks (loads.modify n f) m q ↔ Asks loads m q := by
  unfold Asks
  by_cases h : n = m
  · subst h
    rw [getElem?_modify_self, Option.map_map, show (fun l => l.question) ∘ f = (·.question) from
      funext hf]
  · rw [getElem?_modify_ne h]

/-- A move that revives no load adds no live one. -/
theorem live_modify {f : Load → Load} (hf : ∀ l, (f l).question = l.question)
    (hlive : ∀ l, (f l).stage.isLive = true → l.stage.isLive = true)
    (h : Live (loads.modify n f) m q) : Live loads m q := by
  obtain ⟨stage, h, hs⟩ := h
  by_cases hn : n = m
  · subst hn
    rw [getElem?_modify_self] at h
    obtain ⟨⟨q₀, stage₀⟩, hl, he⟩ := Option.map_eq_some_iff.mp h
    have hq := hf ⟨q₀, stage₀⟩
    have hv := hlive ⟨q₀, stage₀⟩
    rw [he] at hq hv
    simp only at hq hv
    exact ⟨stage₀, by rw [hl, hq], hv hs⟩
  · rw [getElem?_modify_ne hn] at h
    exact ⟨stage, h, hs⟩

/-- Only the load that changes has more or less work left. -/
theorem totalWork_modify {f : Load → Load} {l : Load} (h : loads[n]? = some l) :
    totalWork (loads.modify n f) + l.stage.work = totalWork loads + (f l).stage.work := by
  induction loads generalizing n with
  | nil => cases h
  | cons l' rest ih =>
    cases n with
    | zero =>
      cases h
      simp only [List.modify_zero_cons, totalWork]
      omega
    | succ n =>
      have hrest := ih h
      simp only [List.modify_succ_cons, totalWork]
      omega

theorem totalWork_append (loads : List Load) (l : Load) :
    totalWork (loads ++ [l]) = totalWork loads + l.stage.work := by
  induction loads with
  | nil => simp [totalWork]
  | cons l' rest ih =>
    simp only [List.cons_append, totalWork, ih]
    omega

/-- Moves that add no work to any load add none in all. -/
theorem totalWork_modify_le {f : Load → Load} (hwork : ∀ l, (f l).stage.work ≤ l.stage.work) :
    totalWork (loads.modify n f) ≤ totalWork loads := by
  cases h : loads[n]? with
  | none =>
    have hsame : loads.modify n f = loads := List.modify_eq_self (List.getElem?_eq_none_iff.mp h)
    exact Nat.le_of_eq (congrArg totalWork hsame)
  | some l =>
    have hmodify := totalWork_modify (f := f) h
    have hl := hwork l
    omega

/-- A move that revives nothing and adds no work lets the loads age. -/
theorem ages_modify {f : Load → Load} (hf : ∀ l, (f l).question = l.question)
    (hlive : ∀ l, (f l).stage.isLive = true → l.stage.isLive = true)
    (hwork : ∀ l, (f l).stage.work ≤ l.stage.work) : Ages loads (loads.modify n f) :=
  ⟨fun _ _ => asks_modify hf, fun _ _ => live_modify hf hlive, totalWork_modify_le hwork⟩

/-- A load of a longer list is one of the list, or the one that was added. -/
theorem getElem?_concat_eq_some {l l' : Load} :
    (loads ++ [l])[n]? = some l' ↔ loads[n]? = some l' ∨ n = loads.length ∧ l = l' := by
  rcases Nat.lt_trichotomy n loads.length with h | h | h
  · rw [List.getElem?_append_left h]
    simp [Nat.ne_of_lt h]
  · subst h
    simp
  · rw [List.getElem?_eq_none (by simp; omega), List.getElem?_eq_none (by omega)]
    simp [Nat.ne_of_gt h]

/-- One more load asks its question. -/
theorem asks_append {l : Load} :
    Asks (loads ++ [l]) n q ↔ Asks loads n q ∨ n = loads.length ∧ q = l.question := by
  simp only [Asks, Option.map_eq_some_iff, getElem?_concat_eq_some, or_and_right, exists_or]
  simp [eq_comm]

/-- One more load is live. -/
theorem live_append : Live (loads ++ [⟨q', .queued⟩]) n q ↔
    Live loads n q ∨ n = loads.length ∧ q = q' := by
  simp only [Live, getElem?_concat_eq_some, or_and_right, exists_or, Load.mk.injEq]
  refine or_congr_right ⟨?_, ?_⟩
  · rintro ⟨_, ⟨hn, rfl, rfl⟩, -⟩
    exact ⟨hn, rfl⟩
  · rintro ⟨hn, rfl⟩
    exact ⟨.queued, ⟨hn, rfl, rfl⟩, rfl⟩

section SetStage

variable {stage stage' : Stage}

theorem asks_setStage :
    Asks (loads.modify n fun l => { l with stage }) m q ↔ Asks loads m q :=
  asks_modify fun _ => rfl

/-- A load that moves to a stage as live as its own stays as it was. -/
theorem live_setStage (h : loads[n]? = some ⟨q', stage'⟩) (hs : stage.isLive = stage'.isLive) :
    Live (loads.modify n fun l => { l with stage }) m q ↔ Live loads m q := by
  unfold Live
  by_cases hn : n = m
  · subst hn
    rw [getElem?_modify_self, h]
    simp [hs]
  · rw [getElem?_modify_ne hn]

/-- A load that ends is the only one to end. -/
theorem live_setStage_over (hs : stage.isLive = false) :
    Live (loads.modify n fun l => { l with stage }) m q ↔ Live loads m q ∧ m ≠ n := by
  unfold Live
  by_cases hn : n = m
  · subst hn
    rw [getElem?_modify_self]
    simp [hs]
  · rw [getElem?_modify_ne hn]
    simp [Ne.symm hn]

end SetStage

/-- A load that was aborted cannot go on. -/
theorem isLive_abort (l : Load) : l.abort.stage.isLive = false := by
  obtain ⟨_, stage⟩ := l
  cases stage <;> rfl

/-- An aborted load has only to go away. -/
theorem work_abort (l : Load) : l.abort.stage.work ≤ l.stage.work := by
  obtain ⟨_, stage⟩ := l
  cases stage <;> simp [Load.abort, Stage.abort, Stage.work]

/-- Loads age when one is aborted. -/
theorem ages_abort (loads : List Load) (n : Nat) : Ages loads (loads.modify n Load.abort) :=
  ages_modify (fun _ => rfl) (fun l h => by rw [isLive_abort] at h; exact absurd h (by simp))
    work_abort

theorem ages_foldl_abort (s : Session) (ns : List Nat) :
    Ages s.loads (ns.foldl Session.abort s).loads := by
  induction ns generalizing s with
  | nil => exact .refl _
  | cons n rest ih => exact (ages_abort s.loads n).trans (ih (s.abort n))

namespace Session

/-- To abort loads changes the loads only. -/
theorem foldl_abort_eq (s : Session) (ns : List Nat) :
    ns.foldl abort s = { s with loads := (ns.foldl abort s).loads } := by
  induction ns generalizing s with
  | nil => rfl
  | cons n rest ih => exact ih (s.abort n)

/-- Only the loads age, and the controller lets go of some. -/
theorem supersede_eq (s : Session) : ∃ loads background,
    Ages s.loads loads ∧
      s.supersede =
        { s with loads, controller := { s.controller with kernelLoad := none, background } } := by
  obtain ⟨form, context, ⟨policy, snapshot, activated, tornDown, generation, current, inputs,
    kernelLoad, background⟩, loads, tally, settlings, drives, holders⟩ := s
  cases kernelLoad with
  | none => exact ⟨_, _, .refl _, rfl⟩
  | some load =>
    cases policy with
    | cancel => exact ⟨_, _, ages_abort loads load, rfl⟩
    | ignore => exact ⟨_, _, .refl _, rfl⟩

/-- A supersession does not look at the key and the inputs, so they may as well be given after
it. -/
theorem supersede_keyed (s : Session) (generation : Nat) (current : Option RequestKey)
    (inputs : Option Inputs) :
    supersede { s with controller := { s.controller with generation, current, inputs } } =
      { s.supersede with
        controller := { s.supersede.controller with generation, current, inputs } } := by
  obtain ⟨form, context, ⟨policy, snapshot, activated, tornDown, _, _, _, kernelLoad, background⟩,
    loads, tally, settlings, drives, holders⟩ := s
  cases kernelLoad with
  | none => rfl
  | some load => cases policy <;> rfl

/-- A derivation without a scope clears the kernel. -/
theorem derive_none (s : Session) {i : Inputs} (h : i.scope = none) : ∃ loads background,
    Ages s.loads loads ∧
      s.derive i =
        { s with
          loads
          form := s.form.writeKernelId i.context none
          controller :=
            { s.controller with
              snapshot := { s.controller.snapshot with kernels := [], status := .idle }
              generation := s.controller.generation + 1
              current := some ⟨s.controller.generation + 1, none⟩
              inputs := some i
              kernelLoad := none
              background } } := by
  obtain ⟨loads, background, hages, he⟩ := supersede_eq s
  refine ⟨loads, background, hages, ?_⟩
  simp only [derive, h, supersede_keyed, he]

/-- A derivation with a scope issues one load, which has its key. -/
theorem derive_some (s : Session) {i : Inputs} {x : Scope} (h : i.scope = some x) :
    ∃ loads background, Ages s.loads loads ∧
      s.derive i =
        { s with
          loads := loads ++ [⟨.kernels ⟨s.controller.generation + 1, some x⟩ x, .queued⟩]
          tally := { s.tally with kernelLoads := s.tally.kernelLoads + 1 }
          controller :=
            { s.controller with
              snapshot := { s.controller.snapshot with kernels := [], status := .loading x }
              generation := s.controller.generation + 1
              current := some ⟨s.controller.generation + 1, some x⟩
              inputs := some i
              kernelLoad := some loads.length
              background } } := by
  obtain ⟨loads, background, hages, he⟩ := supersede_eq s
  refine ⟨loads, background, hages, ?_⟩
  simp only [derive, h, supersede_keyed, he, issue, nextLoad]

/-- A derivation takes the former load off, and issues one of its own if it has a scope. -/
theorem loads_derive (s : Session) (i : Inputs) : (s.derive i).loads = s.supersede.loads ++
    (i.scope.map fun x =>
      (⟨.kernels ⟨s.controller.generation + 1, some x⟩ x, .queued⟩ : Load)).toList := by
  cases hi : i.scope with
  | none => simp [derive, hi, supersede_keyed]
  | some x => simp [derive, hi, supersede_keyed, issue]

/-- The load that is kept for a derivation is the one that it issues. -/
theorem kernelLoad_derive (s : Session) (i : Inputs) : (s.derive i).controller.kernelLoad =
    i.scope.map fun _ => s.supersede.loads.length := by
  cases hi : i.scope with
  | none =>
    obtain ⟨_, _, -, he⟩ := derive_none s hi
    rw [he]
    rfl
  | some x => simp [derive, hi, supersede_keyed, nextLoad]

/-- The load that a derivation issues is not in the background. -/
theorem background_derive (s : Session) (i : Inputs) :
    (s.derive i).controller.background = s.supersede.controller.background := by
  cases hi : i.scope with
  | none => simp [derive, hi, supersede_keyed]
  | some x => simp [derive, hi, supersede_keyed, issue]

/-- Whether an observation would change nothing. -/
def unmoved (s : Session) (i : Inputs) : Bool :=
  s.controller.tornDown || s.controller.inputs.any (·.same i)

/-- An observation derives if it finds other inputs. -/
theorem observe_eq (s : Session) (i : Inputs) :
    s.observe i = if s.unmoved i then s else s.derive i := by
  unfold observe unmoved
  by_cases h : s.controller.tornDown = true
  · simp [h]
  · simp [h]

/-- A suspension takes the load of the derivation off and forgets the derivation. -/
theorem suspend_eq (s : Session) : s.suspend =
    if s.controller.tornDown || s.controller.inputs.isNone then s
    else
      { s.supersede with
        controller :=
          { s.supersede.controller with
            generation := s.controller.generation + 1
            current := none
            inputs := none
            snapshot :=
              { s.supersede.controller.snapshot with kernels := [], status := .idle } } } := by
  simp only [suspend, supersede_keyed]

/-- A suspension changes nothing, or it forgets the derivation. -/
theorem suspend_cases (s : Session) :
    (s.suspend = s ∧ (s.controller.tornDown = true ∨ s.controller.inputs = none)) ∨
      (s.controller.tornDown = false ∧ s.controller.inputs ≠ none ∧
        ∃ loads background, Ages s.loads loads ∧ s.suspend =
          { s with
            loads
            controller :=
              { s.controller with
                snapshot := { s.controller.snapshot with kernels := [], status := .idle }
                generation := s.controller.generation + 1
                current := none
                inputs := none
                kernelLoad := none
                background } }) := by
  rw [suspend_eq]
  by_cases h : (s.controller.tornDown || s.controller.inputs.isNone) = true
  · rw [if_pos h]
    exact .inl ⟨rfl, by simpa using h⟩
  · have hup : s.controller.tornDown = false ∧ s.controller.inputs ≠ none := by simpa using h
    obtain ⟨loads, background, hages, he⟩ := supersede_eq s
    refine .inr ⟨hup.1, hup.2, loads, background, hages, ?_⟩
    rw [if_neg h, he]

/-- A tear-down changes nothing, or it aborts loads and stops. -/
theorem tearDown_cases (s : Session) :
    (s.tearDown = s ∧ s.controller.tornDown = true) ∨
      (s.controller.tornDown = false ∧ ∃ loads, Ages s.loads loads ∧
        s.tearDown =
          { s with
            loads
            controller :=
              { s.controller with
                tornDown := true
                current := none
                kernelLoad := none
                background := [] } }) := by
  by_cases h : s.controller.tornDown = true
  · exact .inl ⟨tearDown_of_tornDown h, h⟩
  · refine .inr ⟨by simpa using h, _,
      ages_foldl_abort s (s.controller.kernelLoad.toList ++ s.controller.background), ?_⟩
    rw [tearDown, if_neg h, foldl_abort_eq]

/-- The first activation issues two loads, and a later one changes nothing. -/
theorem activate_cases (s : Session) :
    s.activate = s ∨
      s.activate =
        { s with
          loads := s.loads ++ [⟨.clients, .queued⟩] ++ [⟨.products, .queued⟩]
          controller :=
            { s.controller with
              activated := true
              background :=
                s.controller.background ++ [s.loads.length, s.loads.length + 1] } } := by
  unfold activate
  split
  · exact .inl rfl
  · exact .inr rfl

/-- A load starts if it was queued. -/
theorem start_cases (s : Session) (load : Nat) :
    s.start load = s ∨
      ∃ q, s.loads[load]? = some ⟨q, .queued⟩ ∧ s.start load = s.setStage load .running := by
  unfold start
  split
  · rename_i q h
    exact .inr ⟨q, h, rfl⟩
  · exact .inl rfl

/-- A load is dropped if it was aborted. -/
theorem drop_cases (s : Session) (load : Nat) :
    s.drop load = s ∨
      ∃ q asked tally, s.loads[load]? = some ⟨q, .aborted asked⟩ ∧
        s.drop load = { s.setStage load (.dropped asked) with tally } := by
  unfold drop
  split
  · rename_i q asked h
    refine .inr ⟨q, asked, ?_⟩
    -- whom the load was for and whether it had been asked shows in the tally only
    simp only
    split
    · split
      · exact ⟨_, h, rfl⟩
      · exact ⟨_, h, rfl⟩
    · exact ⟨_, h, rfl⟩
  · exact .inl rfl

/-- The answer of a load of the catalog changes its list and the tally at most. -/
theorem answerCatalog_cases (s : Session) (list : Listing) (load : Nat)
    (answer : Except ProviderError (List list.Entry)) :
    s.answerCatalog list load answer = s ∨
      s.loads[load]? = some ⟨list.question, .running⟩ ∧ ∃ entries tally,
        s.answerCatalog list load answer =
          { s.setStage load .finished with
            tally
            controller :=
              { s.controller with
                snapshot := list.install entries s.controller.snapshot } } := by
  have hkept : s.setStage load .finished =
      { s.setStage load .finished with
        controller :=
          { s.controller with
            snapshot :=
              list.install (list.entries s.controller.snapshot) s.controller.snapshot } } := by
    rw [Listing.install_entries]
    rfl
  unfold answerCatalog
  split
  · rename_i h
    refine .inr ⟨h, ?_⟩
    simp only
    split
    · exact ⟨_, _, hkept⟩
    · cases answer with
      | ok _ => exact ⟨_, _, rfl⟩
      | error _ => exact ⟨_, _, by rw [hkept]⟩
  · exact .inl rfl

/-- The session when a load of kernels has answered, before the answer is looked at. -/
def answered (s : Session) (load : Nat) : Session :=
  { s with
    loads := s.loads.modify load fun l => { l with stage := .finished }
    tally := { s.tally with timedLoads := s.tally.timedLoads + 1 } }

/-- What becomes of the answer of a load of kernels. -/
inductive KernelAnswer (s : Session) (load : Nat) (answer : Except ProviderError (List Kernel)) :
    Session → Prop where
  /-- No load of kernels is running there. -/
  | unasked : (∀ key x, s.loads[load]? ≠ some ⟨.kernels key x, .running⟩) →
      KernelAnswer s load answer s
  | stale (key : RequestKey) (x : Scope) : s.loads[load]? = some ⟨.kernels key x, .running⟩ →
      s.controller.tornDown = true ∨ s.controller.current ≠ some key →
      KernelAnswer s load answer
        { s.answered load with
          tally := { (s.answered load).tally with staleResults := s.tally.staleResults + 1 } }
  | forgotten (key : RequestKey) (x : Scope) : s.loads[load]? = some ⟨.kernels key x, .running⟩ →
      s.controller.tornDown = false → s.controller.current = some key →
      s.controller.inputs = none → KernelAnswer s load answer (s.answered load)
  | installed (key : RequestKey) (x : Scope) (i : Inputs) (kernels : List Kernel) :
      s.loads[load]? = some ⟨.kernels key x, .running⟩ → s.controller.tornDown = false →
      s.controller.current = some key → s.controller.inputs = some i → answer = .ok kernels →
      KernelAnswer s load answer ((s.answered load).install i x kernels)
  | refused (key : RequestKey) (x : Scope) (i : Inputs) (e : ProviderError) :
      s.loads[load]? = some ⟨.kernels key x, .running⟩ → s.controller.tornDown = false →
      s.controller.current = some key → s.controller.inputs = some i → answer = .error e →
      KernelAnswer s load answer ((s.answered load).refuse i x)

/-- The answer to a kernel load comes to one of these. -/
theorem answerKernels_step (s : Session) (load : Nat)
    (answer : Except ProviderError (List Kernel)) :
    KernelAnswer s load answer (s.answerKernels load answer) := by
  unfold answerKernels
  split
  · rename_i key x h
    simp only
    split
    · rename_i hs
      refine .stale key x h ?_
      simpa [setStage] using hs
    · rename_i hs
      obtain ⟨hup, hcur⟩ : s.controller.tornDown = false ∧ s.controller.current = some key := by
        simpa [setStage] using hs
      split
      · rename_i hi
        exact .forgotten key x h hup hcur hi
      · rename_i i hi
        cases answer with
        | ok kernels => exact .installed key x i kernels h hup hcur hi rfl
        | error e => exact .refused key x i e h hup hcur hi rfl
  · rename_i h
    exact .unasked fun key x hl => h key x hl

/-- An answer that nobody waits for changes nothing. -/
theorem answerKernels_unasked {s : Session} {load : Nat}
    (h : ∀ key x, s.loads[load]? ≠ some ⟨.kernels key x, .running⟩)
    (answer : Except ProviderError (List Kernel)) : s.answerKernels load answer = s := by
  unfold answerKernels
  split
  · rename_i key x hl
    exact absurd hl (h key x)
  · rfl

end Session

end LivePatching
