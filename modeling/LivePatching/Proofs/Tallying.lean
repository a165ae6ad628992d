import LivePatching.Proofs.Confluence
import LivePatching.Proofs.Stages

/-!
# What is counted adds up

A load of kernels is counted when it is issued. What becomes of it is counted when its provider
answers, or is seen in its stage: it was aborted, or it can still answer.

* `Session.tallied`: what a turn counts; `tally_step`: **a step counts what its turn counts**, so a
  counter is the number of steps that count (`tally_run`).
* `Receives`: what a load does with its answer, and what that counts as; `receives_answer`: an
  answer is received in one of three ways.
* `uptakes_perm`: each load that has its answer is in the list of one way.
* `balanced_run`: **each load of kernels is counted once**, and has its duration taken once if its
  provider was asked.
-/

namespace LivePatching

open Json

/-- What is counted for an answer. -/
def Uptake.tallied : Uptake → Tally
  | .installed => { Tally.zero with timedLoads := 1 }
  | .failed => { Tally.zero with timedLoads := 1, kernelFailures := 1 }
  | .stale => { Tally.zero with timedLoads := 1, staleResults := 1 }

namespace Session

variable {s s' : Session} {a : Action} {as : List Action} {n m : Nat} {q : Question}
  {key : RequestKey} {x : Scope} {stage stage' : Stage} {t : Turn} {e : Uptake}
  {answer : Except ProviderError (List Kernel)}

/-! ## What is counted -/

/-- The provider of the list has failed in a turn that counts. -/
def fails (s : Session) (list : Listing) : Turn → Bool
  | .answerCatalog other n (.error _) => other = list ∧ s.awaited? n = some list.question
  | _ => false

/-- What a turn counts. -/
def tallied (s : Session) (t : Turn) : Tally where
  kernelLoads := (s.issues t).countP Question.isKernels
  staleResults := (s.received? t).toList.countP fun r => r.2 = .stale
  clientFailures := (s.fails .clients t).toNat
  productFailures := (s.fails .products t).toNat
  kernelFailures := (s.received? t).toList.countP fun r => r.2 = .failed
  timedLoads := (s.sampled? t).toList.length

theorem countP_catalogDue (s : Session) : s.catalogDue.countP Question.isKernels = 0 := by
  rw [List.countP_eq_zero]
  intro q hq
  simp [not_isKernels_of_mem_catalogDue hq]

/-- To activate counts nothing. -/
theorem tally_activate (s : Session) :
    s.activate.tally = s.tally.add (s.tallied .activate) := by
  have hnone : s.tallied .activate = .zero := by
    simp only [tallied, issues, countP_catalogDue]
    rfl
  rw [hnone]
  rcases activate_cases s with he | he <;> rw [he] <;> rfl

/-- An observation counts the load it issues. -/
theorem tally_observe (s : Session) (i : Inputs) :
    (s.observe i).tally = s.tally.add (s.tallied (.observe i)) := by
  rw [observe_eq, tallied, issues, kernelsDue]
  split
  · rfl
  · cases hi : i.scope with
    | none =>
      obtain ⟨_, _, -, he⟩ := derive_none s hi
      rw [he, Derivation.question?]
      simp only [hi]
      rfl
    | some y =>
      obtain ⟨_, _, -, he⟩ := derive_some s hi
      rw [he, Derivation.question?]
      simp only [hi]
      rfl

theorem tally_render (s : Session) (i : Inputs) :
    (s.activate.observe i).tally = s.tally.add (s.tallied (.render i)) := by
  -- to activate issues no load of kernels, so all that counts is the observation
  have hsame : s.tallied (.render i) = s.activate.tallied (.observe i) := by
    simp only [tallied, issues, List.countP_append, countP_catalogDue, kernelsDue_activate,
      Nat.zero_add]
    rfl
  have hnone : s.activate.tally = s.tally := by
    rcases activate_cases s with he | he <;> rw [he]
  rw [tally_observe, hnone, hsame]

/-- A load that is dropped has its duration counted if it ran. -/
theorem tally_drop (s : Session) (n : Nat) :
    (s.drop n).tally = s.tally.add (s.tallied (.drop n)) := by
  rw [tallied, sampled?]
  -- a duration is sampled for a load of kernels that had asked, and for no other
  by_cases h : s.kernelStage? n = some (.aborted true)
  · obtain ⟨key, x, hl⟩ := kernelStage?_eq_some.mp h
    rw [if_pos h, drop, hl]
    rfl
  · rw [if_neg h]
    unfold drop
    split
    · rename_i q asked hl
      cases q with
      | kernels key x =>
        cases asked with
        | true => exact absurd (kernelStage?_eq_some.mpr ⟨key, x, hl⟩) h
        | false => rfl
      | _ => rfl
    · rfl

/-- The answer for a list counts a failure of that list. -/
theorem tally_answerCatalog (s : Session) (list : Listing) (n : Nat)
    (answer : Except ProviderError (List list.Entry)) :
    (s.answerCatalog list n answer).tally =
      s.tally.add (s.tallied (.answerCatalog list n answer)) := by
  by_cases h : s.awaited? n = some list.question
  · rw [answerCatalog_awaited h]
    cases answer with
    | ok entries => rfl
    | error e => cases list <;> simp [tallied, fails, h] <;> rfl
  · have hnone : s.tallied (.answerCatalog list n answer) = .zero := by
      cases answer with
      | ok entries => rfl
      | error e => cases list <;> simp [tallied, fails, h] <;> rfl
    rw [hnone]
    rcases answerCatalog_unawaited h answer with he | he <;> rw [he] <;> rfl

/-- What a load of kernels does with its answer, and what that counts as. -/
inductive Receives (s : Session) (key : RequestKey) (x : Scope)
    (answer : Except ProviderError (List Kernel)) (s' : Session) : Uptake → Prop where
  | installed (kernels : List Kernel) : answer = .ok kernels →
      s.controller.tornDown = false → s.controller.current = some key →
      s'.controller.snapshot.kernels = kernels → s'.controller.snapshot.status = .ready x →
      s'.tally = s.tally.add { Tally.zero with timedLoads := 1 } →
      Receives s key x answer s' .installed
  | failed (e : ProviderError) : answer = .error e →
      s.controller.tornDown = false → s.controller.current = some key →
      s'.controller.snapshot.kernels = [] → s'.controller.snapshot.status = .failed x →
      s'.tally = s.tally.add { Tally.zero with timedLoads := 1, kernelFailures := 1 } →
      Receives s key x answer s' .failed
  /-- Whether or not the provider has failed. -/
  | stale : s.controller.tornDown = true ∨ s.controller.current ≠ some key →
      s'.controller = s.controller → s'.form = s.form →
      s'.tally = s.tally.add { Tally.zero with timedLoads := 1, staleResults := 1 } →
      Receives s key x answer s' .stale

theorem Receives.tally {s' : Session} (h : Receives s key x answer s' e) :
    s'.tally = s.tally.add e.tallied := by
  cases h <;> assumption

/-- The answer to a running load is taken up if it counts, and is stale otherwise. -/
theorem uptake?_running (hl : s.loads[n]? = some ⟨.kernels key x, .running⟩) :
    s.uptake? n answer = some (if s.counts (.kernels key x) then .of answer else .stale) := by
  rw [uptake?, hl]

/-- The answer to a running load is received as it is taken up. -/
theorem receives_answer (hcoh : Coherent s) (hl : s.loads[n]? = some ⟨.kernels key x, .running⟩)
    (answer : Except ProviderError (List Kernel)) :
    ∃ e, s.uptake? n answer = some e ∧ Receives s key x answer (s.answerKernels n answer) e := by
  refine ⟨_, uptake?_running hl, ?_⟩
  have hstep := answerKernels_step s n answer
  generalize s.answerKernels n answer = s' at hstep ⊢
  cases hstep with
  | unasked h => exact absurd hl (h key x)
  | stale key' x' hl' hs =>
    cases Option.some.inj (hl.symm.trans hl')
    have hlate : ¬ s.counts (.kernels key x) = true := by
      rw [counts_kernels]
      rintro ⟨hup, hcur⟩
      rcases hs with htorn | hne
      · rw [hup] at htorn
        cases htorn
      · exact hne hcur
    rw [if_neg hlate]
    exact .stale hs rfl rfl rfl
  -- a session that waits for a key has the inputs the key was made from
  | forgotten key' x' hl' hup hcur hi => exact absurd hi (hcoh.inputs_ne_none hcur)
  | installed key' x' i kernels hl' hup hcur hi ha =>
    cases Option.some.inj (hl.symm.trans hl')
    rw [if_pos (counts_kernels.mpr ⟨hup, hcur⟩), ha]
    exact .installed kernels rfl hup hcur rfl rfl rfl
  | refused key' x' i e hl' hup hcur hi ha =>
    cases Option.some.inj (hl.symm.trans hl')
    rw [if_pos (counts_kernels.mpr ⟨hup, hcur⟩), ha]
    exact .failed e rfl hup hcur rfl rfl rfl

theorem tallied_answerKernels (hs : s.kernelStage? n = some .running)
    (he : s.uptake? n answer = some e) : s.tallied (.answerKernels n answer) = e.tallied := by
  rw [tallied, received?, sampled?, he, if_pos hs]
  cases e <;> rfl

/-- The answer to a kernel load counts its duration, and a failure or a stale result. -/
theorem tally_answerKernels (hcoh : Coherent s) (n : Nat)
    (answer : Except ProviderError (List Kernel)) :
    (s.answerKernels n answer).tally = s.tally.add (s.tallied (.answerKernels n answer)) := by
  by_cases hs : s.kernelStage? n = some .running
  · obtain ⟨key, x, hl⟩ := kernelStage?_eq_some.mp hs
    obtain ⟨e, he, hreceives⟩ := receives_answer hcoh hl answer
    rw [hreceives.tally, tallied_answerKernels hs he]
  · have hunasked : ∀ key x, s.loads[n]? ≠ some ⟨.kernels key x, .running⟩ := fun key x hl =>
      hs (kernelStage?_eq_some.mpr ⟨key, x, hl⟩)
    rw [answerKernels_unasked hunasked, tallied, received?, sampled?,
      uptake?_eq_none.mpr hunasked, if_neg hs]
    rfl

/-- Every turn adds to the tally what is tallied for it. -/
theorem tally_take (hcoh : Coherent s) (t : Turn) :
    (s.take t).tally = s.tally.add (s.tallied t) := by
  cases t with
  | observe i => exact tally_observe s i
  | render i => exact tally_render s i
  | activate => exact tally_activate s
  | suspend => rcases suspend_cases s with ⟨he, -⟩ | ⟨-, -, _, _, -, he⟩ <;> rw [take, he] <;> rfl
  | tearDown => rcases tearDown_cases s with ⟨he, -⟩ | ⟨-, _, -, he⟩ <;> rw [take, he] <;> rfl
  | start n => rcases start_cases s n with he | ⟨_, -, he⟩ <;> rw [take, he] <;> rfl
  | answerCatalog list n answer => exact tally_answerCatalog s list n answer
  | answerKernels n answer => exact tally_answerKernels hcoh n answer
  | drop n => exact tally_drop s n
  | _ => rfl

/-- **A step counts what its turn counts.** -/
theorem tally_step (hcoh : Coherent s) (a : Action) :
    (s.step a).tally = s.tally.add (s.tallied (s.turn a)) := by
  obtain ⟨_, _, _, _, he⟩ := step_eq s a
  rw [he, withBooks_tally, tally_take hcoh]

/-- **A counter is the number of steps that count.** -/
theorem tally_run {α : Type} {c : Tally → Nat} {f : Session → Action → Option α} {w : α → Bool}
    (hadd : ∀ t t', c (t.add t') = c t + c t')
    (hcounted : ∀ s a, c (s.tallied (s.turn a)) = (f s a).toList.countP w)
    (hs : c s.tally = 0) (hcoh : Coherent s) (as : List Action) :
    c (s.run as).tally = (s.collect f as).countP w := by
  induction as using List.reverseRecOn with
  | nil => exact hs
  | append_singleton as a ih =>
    rw [run_concat, tally_step (coherent_run hcoh as), hadd, ih, hcounted, collect_concat,
      List.countP_append]

/-- The loads of kernels that have their answer in a run, and what becomes of it. -/
def uptakes (s : Session) (as : List Action) : List (Nat × Uptake) :=
  s.collect (fun s a => s.received? (s.turn a)) as

/-- The loads whose answer is received so. -/
def receivedAs (s : Session) (e : Uptake) (as : List Action) : List Nat :=
  ((s.uptakes as).filter fun r => r.2 = e).map (·.1)

/-- The loads received in one way are counted among all uptakes. -/
theorem length_receivedAs (s : Session) (e : Uptake) (as : List Action) :
    (s.receivedAs e as).length = (s.uptakes as).countP fun r => r.2 = e := by
  rw [receivedAs, List.length_map, List.countP_eq_length_filter]

/-- A derivation with a scope issues the one load that its turn counts. -/
theorem kernelLoads_tallied (s : Session) (a : Action) :
    (s.tallied (s.turn a)).kernelLoads =
      (s.derivation? a).toList.countP (·.inputs.scope.isSome) := by
  rw [tallied, List.countP_eq_length_filter, filter_issues]
  cases s.derivation? a with
  | none => rfl
  | some d => cases hi : d.inputs.scope <;> simp [Derivation.question?, hi]

/-- Each answer is received in one way. -/
theorem uptakes_perm (s : Session) (as : List Action) :
    (s.receivedAs .installed as ++ s.receivedAs .failed as ++ s.receivedAs .stale as).Perm
      (s.yielded answered? as) := by
  have hmap : s.yielded answered? as = (s.uptakes as).map (·.1) := by
    unfold yielded uptakes
    induction as generalizing s with
    | nil => rfl
    | cons a as ih =>
      rw [collect, collect, ih, List.map_append, answered?]
      cases s.received? (s.turn a) <;> rfl
  rw [hmap, receivedAs, receivedAs, receivedAs, ← List.map_append, ← List.map_append]
  refine (perm_of_kinds fun r _ => ?_).map _
  obtain ⟨n, e⟩ := r
  cases e <;> simp

end Session

theorem Session.fails_silent {s : Session} {a : Action} {list : Listing} (h : list.Silent s a) :
    s.fails list (s.turn a) = false := by
  cases ht : s.turn a with
  | answerCatalog other n answer =>
    cases answer with
    | ok entries => rfl
    | error e =>
      by_contra hf
      obtain ⟨rfl, hawaited⟩ : other = list ∧ s.awaited? n = some list.question := by
        simpa [fails] using hf
      have hl := (awaited?_eq_some.mp hawaited).1
      exact h (.error e) ⟨n, turn_action (by rw [ht]; rfl), hl⟩
  | _ => rfl

namespace Listing

variable (list : Listing)

/-- The failures of the provider of the list that have been counted. -/
def failures : Listing → Tally → Nat
  | clients, t => t.clientFailures
  | products, t => t.productFailures

theorem failures_zero : list.failures .zero = 0 := by
  cases list <;> rfl

/-- Failures add up. -/
theorem failures_add (t t' : Tally) :
    list.failures (t.add t') = list.failures t + list.failures t' := by
  cases list <;> rfl

theorem failures_tallied (s : Session) (t : Turn) :
    list.failures (s.tallied t) = (s.fails list t).toNat := by
  cases list <;> rfl

variable {s : Session}

/-- The provider of a list is counted as failed once at most, by the time its load is finished. -/
theorem count_run (hd : Session.Distinct s) (hcoh : Session.Coherent s)
    (hs : list.failures s.tally = 0) (as : List Action) : list.failures (s.run as).tally = 0 ∨
      list.failures (s.run as).tally ≤ 1 ∧ list.Finished (s.run as) := by
  induction as using List.reverseRecOn with
  | nil => exact .inl hs
  | append_singleton as a ih =>
    have hstep := Session.tally_step (Session.coherent_run hcoh as) a
    rw [Session.run_concat, hstep, failures_add, failures_tallied]
    rcases ih with hzero | ⟨hle, hfinished⟩
    · rw [hzero, Nat.zero_add]
      by_cases hsil : list.Silent (s.run as) a
      · exact .inl (by rw [Session.fails_silent hsil]; rfl)
      · -- whoever answers is finished
        obtain ⟨given, n, rfl, hl⟩ : ∃ given, list.Resolves (s.run as) a given := by
          simpa [Silent] using hsil
        exact .inr ⟨Bool.toNat_le _, n, (Session.entries_answered _ list n given hl).1⟩
    · have hdr := Session.distinct_run hd hcoh as
      rw [Session.fails_silent (hfinished.silent hdr a)]
      exact .inr ⟨hle, hfinished.step a⟩

end Listing

namespace Session

variable {s : Session} {a : Action}

/-! ## The counters at the end of a run -/

section Mounted

variable (form : Form) (context : Context) (policy : StalePolicy) (as : List Action)

/-- There is one load counted for each derivation with a scope. -/
theorem kernelLoads_run : ((mount form context policy).run as).tally.kernelLoads =
    ((mount form context policy).derivations as).countP (·.inputs.scope.isSome) :=
  tally_run (c := Tally.kernelLoads) (fun _ _ => rfl) kernelLoads_tallied rfl
    (coherent_mount form context policy) as

/-- The failures counted are those received. -/
theorem kernelFailures_run : ((mount form context policy).run as).tally.kernelFailures =
    ((mount form context policy).receivedAs .failed as).length := by
  rw [length_receivedAs]
  exact tally_run (c := Tally.kernelFailures) (fun _ _ => rfl) (fun _ _ => rfl) rfl
    (coherent_mount form context policy) as

/-- The stale results counted are those received. -/
theorem staleResults_run : ((mount form context policy).run as).tally.staleResults =
    ((mount form context policy).receivedAs .stale as).length := by
  rw [length_receivedAs]
  exact tally_run (c := Tally.staleResults) (fun _ _ => rfl) (fun _ _ => rfl) rfl
    (coherent_mount form context policy) as

/-- One duration is counted for each load that was asked and is over. -/
theorem timedLoads_run : ((mount form context policy).run as).tally.timedLoads =
    ((mount form context policy).yielded sampled? as).length := by
  rw [← congrFun List.countP_true, yielded]
  exact tally_run (c := Tally.timedLoads) (fun _ _ => rfl)
    (fun _ _ => (congrFun List.countP_true _).symm) rfl (coherent_mount form context policy) as

/-- The provider of a list is counted as failed once at most. -/
theorem failures_run (list : Listing) :
    list.failures ((mount form context policy).run as).tally ≤ 1 := by
  have hcount := list.count_run (distinct_mount form context policy)
    (coherent_mount form context policy) list.failures_zero as
  omega

/-- There is a load of kernels for each derivation with a scope. -/
theorem length_loadsAt_run :
    (((mount form context policy).run as).loadsAt fun _ => true).length =
      ((mount form context policy).derivations as).countP (·.inputs.scope.isSome) := by
  have hquestion : ∀ d : Derivation, d.question?.isSome = d.inputs.scope.isSome := by
    intro d
    simp [Derivation.question?]
  have hnone : (mount form context policy).questions = [] := rfl
  rw [length_loadsAt, List.countP_eq_length_filter, questions_run, hnone, List.filter_nil,
    List.nil_append, List.length_filterMap_eq_countP]
  simp only [hquestion]

/-- Each load of kernels has one place: in the list of its uptake, or in that of its stage. -/
theorem parted_run : ((mount form context policy).receivedAs .installed as ++
    (mount form context policy).receivedAs .failed as ++
    (mount form context policy).receivedAs .stale as ++
    ((mount form context policy).run as).loadsAt Stage.isAborted ++
    ((mount form context policy).run as).loadsAt Stage.isLive).Perm
      (((mount form context policy).run as).loadsAt fun _ => true) := by
  obtain ⟨hnodup, hmem⟩ := marks_answered.run (s := mount form context policy) rfl as
  -- who has its answer is finished, and the other way round
  have hfinished := (uptakes_perm (mount form context policy) as).trans
    ((List.perm_ext_iff_of_nodup hnodup (nodup_loadsAt _ _)).mpr hmem)
  exact ((hfinished.append_right _).append_right _).trans (loadsAt_perm _)

end Mounted

/-- A load that is aborted before it runs never asks its provider. -/
theorem lasting_unrun : Lasting fun stage => !stage.isAsked && stage.isAborted := by
  refine lasting_of (fun h => by cases h) (fun h => by cases h) (fun stage h => ?_) fun _ h => h
  cases stage with
  | aborted => exact h
  | dropped => exact h
  | _ => cases h

/-- A load that is aborted before it ran was never asked. -/
theorem unrun_step (hn : n ∈ s.loadsAt (· == .queued))
    (hn' : n ∈ (s.step a).loadsAt Stage.isAborted) :
    n ∈ (s.step a).loadsAt fun stage => !stage.isAsked && stage.isAborted := by
  rw [loadsAt_step] at hn' ⊢
  obtain ⟨stage, hs, hqueued⟩ := mem_loadsAt.mp hn
  obtain rfl := eq_of_beq hqueued
  obtain ⟨stage', hs', hadvance⟩ := kernelStage?_take hs (s.turn a)
  obtain ⟨_, hsame, haborted⟩ := mem_loadsAt.mp hn'
  rw [hs'] at hsame
  cases hsame
  refine mem_loadsAt.mpr ⟨stage', hs', ?_⟩
  cases hadvance with
  | kept => cases haborted
  | started => cases haborted
  | aborted => rfl

/-- A status that turns ready does so by an answer that is taken over. -/
theorem received_of_ready (h : (s.step a).controller.snapshot.status = .ready x) :
    s.controller.snapshot.status = .ready x ∨
      ∃ n, s.received? (s.turn a) = some (n, .installed) := by
  -- the status becomes ready by one outcome of an answer only
  cases step_kernels s a with
  | quiet _ hq => exact .inl (hq.status ▸ h)
  | derived i place _ hd =>
    rw [hd.status] at h
    cases hi : i.scope <;> rw [hi] at h <;> cases h
  | suspended _ hs =>
    rw [hs.status] at h
    cases h
  | tornDown _ ht => exact .inl (ht.snapshot ▸ h)
  | stale _ _ _ _ _ _ _ hc => exact .inl (hc ▸ h)
  | forgotten _ _ _ _ _ _ _ _ _ hc => exact .inl (hc ▸ h)
  | installed n kernels key x' i ht ha hup hcur =>
    refine .inr ⟨n, ?_⟩
    rw [ht, received?, uptake?_running ha.running, if_pos (counts_kernels.mpr ⟨hup, hcur⟩)]
    rfl
  | refused _ _ _ _ _ _ _ _ _ _ _ hs =>
    rw [hs] at h
    cases h

/-- What the counters say at the end of a run. -/
structure Balanced (s₀ : Session) (as : List Action) : Prop where
  issued : (s₀.run as).tally.kernelLoads = (s₀.derivations as).countP (·.inputs.scope.isSome)
  balance : (s₀.run as).tally.kernelLoads =
    (s₀.receivedAs .installed as).length + (s₀.run as).tally.kernelFailures +
      (s₀.run as).tally.staleResults + ((s₀.run as).loadsAt Stage.isAborted).length +
      ((s₀.run as).loadsAt Stage.isLive).length
  failed : (s₀.run as).tally.kernelFailures = (s₀.receivedAs .failed as).length
  stale : (s₀.run as).tally.staleResults = (s₀.receivedAs .stale as).length
  /-- Each load of kernels is in one of the lists, and it is there once. -/
  parted : (s₀.receivedAs .installed as ++ s₀.receivedAs .failed as ++ s₀.receivedAs .stale as ++
    (s₀.run as).loadsAt Stage.isAborted ++ (s₀.run as).loadsAt Stage.isLive).Perm
      ((s₀.run as).loadsAt fun _ => true)
  once : ((s₀.run as).loadsAt fun _ => true).Nodup
  received : ∀ xs n answer ys key x, as = xs ++ .answerKernels n answer :: ys →
    (s₀.run xs).loads[n]? = some ⟨.kernels key x, .running⟩ →
    ∃ e, (s₀.run xs).received? (.answerKernels n answer) = some (n, e) ∧
      Receives (s₀.run xs) key x answer (s₀.run (xs ++ [.answerKernels n answer])) e
  /-- No list is installed without an answer. -/
  ready : ∀ xs a ys x, as = xs ++ a :: ys →
    (s₀.run (xs ++ [a])).controller.snapshot.status = .ready x →
    (s₀.run xs).controller.snapshot.status = .ready x ∨
      ∃ n, (s₀.run xs).received? ((s₀.run xs).turn a) = some (n, .installed)
  clients : (s₀.run as).tally.clientFailures ≤ 1
  products : (s₀.run as).tally.productFailures ≤ 1
  called : (s₀.yielded called? as).Nodup
  /-- One duration is taken of each load that asked and is over, and of no other. -/
  timed : (s₀.run as).tally.timedLoads = (s₀.yielded sampled? as).length
  sampled : (s₀.yielded sampled? as).Nodup ∧ ∀ n, n ∈ s₀.yielded sampled? as ↔
    n ∈ s₀.yielded called? as ∧ n ∈ (s₀.run as).loadsAt Stage.isOver
  /-- None is taken of a load that is aborted before it runs. -/
  unrun : ∀ xs a ys n, as = xs ++ a :: ys → n ∈ (s₀.run xs).loadsAt (· == .queued) →
    n ∈ (s₀.run (xs ++ [a])).loadsAt Stage.isAborted →
    n ∉ s₀.yielded called? as ∧ n ∉ s₀.yielded sampled? as

/-- **Each load of kernels is counted once**: its list is installed, its provider has failed, its
answer has come too late, it was aborted, or it can still answer; it has its duration taken once if
its provider was asked. -/
theorem balanced_run (form : Form) (context : Context) (policy : StalePolicy) (as : List Action) :
    Balanced (mount form context policy) as := by
  have hparted := parted_run form context policy as
  obtain ⟨hcalled, hcalls⟩ := marks_called.run (s := mount form context policy) rfl as
  obtain ⟨hsampled, hsamples⟩ := marks_sampled.run (s := mount form context policy) rfl as
  refine {
    issued := kernelLoads_run form context policy as
    balance := ?_
    failed := kernelFailures_run form context policy as
    stale := staleResults_run form context policy as
    parted := hparted
    once := nodup_loadsAt _ _
    received := fun xs n answer ys key x has hl => ?_
    ready := fun xs a ys x has h => ?_
    clients := failures_run form context policy as .clients
    products := failures_run form context policy as .products
    called := hcalled
    timed := timedLoads_run form context policy as
    sampled := ⟨hsampled, fun n => ?_⟩
    unrun := fun xs a ys n has hqueued haborted => ?_ }
  -- one load for each derivation with a scope, and each load in one of the five lists
  · have hlength := hparted.length_eq
    simp only [List.length_append] at hlength
    rw [kernelLoads_run, ← length_loadsAt_run, ← hlength, kernelFailures_run, staleResults_run]
  · have hcoh := coherent_run (coherent_mount form context policy) xs
    obtain ⟨e, he, hreceives⟩ := receives_answer hcoh hl answer
    refine ⟨e, by rw [received?, he]; rfl, ?_⟩
    rw [run_concat]
    exact hreceives
  · rw [run_concat] at h
    exact received_of_ready h
  · rw [hsamples, hcalls, mem_loadsAt_and]
  -- it never asks, and only who has asked has a duration
  · rw [run_concat] at haborted
    have hunrun : n ∈ ((mount form context policy).run as).loadsAt
        fun stage => !stage.isAsked && stage.isAborted := by
      rw [has, run_append, run_cons]
      exact lasting_unrun.run ys (unrun_step hqueued haborted)
    have hunasked := not_mem_loadsAt (mem_loadsAt_and.mp hunrun).1
    rw [hcalls, hsamples, mem_loadsAt_and]
    exact ⟨hunasked, fun h => hunasked h.1⟩

end Session

end LivePatching
