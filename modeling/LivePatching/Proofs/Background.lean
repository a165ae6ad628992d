import LivePatching.Proofs.Change
import LivePatching.Proofs.Custody

/-!
# Loads in the background

The loads of the catalog run in the background, and so does a load of kernels that is taken off when
superseded loads are ignored. Those that are over are let go only when a load is taken off, which
does not happen at every derivation. The background stays small because nothing but the catalog
comes to it otherwise.

* `Session.asking`: those of some loads that ask a kind of question.
* `TakesOff`: the controller derives anew or forgets the derivation.
* `takesOff_of_supersedes`, `background_of_not_supersedes`: what a step does to the background.
* `Contained`: two loads of the catalog at most, and loads of kernels that may be there;
  `Contained.activate` and `Contained.takesOff` keep it so.
* `outstanding`: the superseded loads of a run that were not over when the last one was superseded.
* `background_run`: **the background holds no more than these**, and nothing that is over right
  after a load was superseded.
-/

namespace LivePatching.Session

open scoped List

variable {s s' : Session} {a : Action} {i : Inputs} {n : Nat} {l l' superseded : List Nat}
  {p : Question → Bool}

/-! ## What loads ask -/

/-- Those of the loads that ask such a question. -/
def asking (s : Session) (p : Question → Bool) (loads : List Nat) : List Nat :=
  loads.filter fun n => s.questions[n]?.any p

theorem asking_append : s.asking p (l ++ l') = s.asking p l ++ s.asking p l' :=
  List.filter_append ..

theorem asking_sublist : s.asking p l <+ l := List.filter_sublist

theorem asking_filter {r : Nat → Bool} : s.asking p (l.filter r) = (s.asking p l).filter r :=
  List.filter_comm ..

/-- What loads ask does not change. -/
theorem asking_of_prefix (h : s.questions <+: s'.questions) (hl : ∀ n ∈ l, n < s.loads.length) :
    s'.asking p l = s.asking p l := by
  refine List.filter_congr fun n hn => ?_
  have hlen : n < s.questions.length := by
    rw [length_questions]
    exact hl n hn
  obtain ⟨more, hmore⟩ := h
  rw [← hmore, List.getElem?_append_left hlen]

/-- The loads of a list that ask such a question. -/
theorem mem_asking : n ∈ s.asking p l ↔ n ∈ l ∧ ∃ q, Asks s.loads n q ∧ p q = true := by
  simp [asking, Option.any_eq_true, getElem?_questions]

/-- Each load either asks such a question or another one. -/
theorem length_asking (hl : ∀ n ∈ l, n < s.loads.length) :
    l.length = (s.asking p l).length + (s.asking (!p ·) l).length := by
  have hother : s.asking (!p ·) l = l.filter fun n => !s.questions[n]?.any p := by
    refine List.filter_congr fun n hn => ?_
    have hlen : n < s.questions.length := by
      rw [length_questions]
      exact hl n hn
    simp [List.getElem?_eq_getElem hlen]
  rw [hother]
  exact List.length_eq_length_filter_add _

/-- The policy stays what it was. -/
theorem policy_step (s : Session) (a : Action) :
    (s.step a).controller.policy = s.controller.policy := by
  rw [step_controller, (spares_take s _).policy]

/-! ## Taking a load off -/

/-- Where the load of the derivation goes when it is taken off. -/
def shelved (s : Session) : List Nat :=
  match s.controller.policy with
  | .cancel => []
  | .ignore => s.controller.kernelLoad.toList

theorem supersede_of_none (h : s.controller.kernelLoad = none) : s.supersede = s := by
  simp [supersede, h]

/-- A superseded load goes to the background if the policy lets it run, and loads that are over
leave it. -/
theorem background_supersede (h : s.controller.kernelLoad = some n) :
    s.supersede.controller.background =
      (s.controller.background ++ s.shelved).filter fun m => !s.supersede.isOver m := by
  unfold supersede shelved
  cases s.controller.policy with
  | cancel => simp only [h, List.append_nil]; rfl
  | ignore => simp only [h]; rfl

/-- The load of the derivation has been taken off, and others may have been issued. -/
structure TakesOff (s s' : Session) : Prop where
  background : s'.controller.background = s.supersede.controller.background
  loads : s.supersede.loads <+: s'.loads

/-- A derivation takes the load of the one before it off. -/
theorem takesOff_derive (s : Session) (i : Inputs) : TakesOff s (s.derive i) where
  background := background_derive s i
  loads := by
    rw [loads_derive]
    exact List.prefix_append ..

/-- A suspension takes the load of the derivation off. -/
theorem takesOff_suspend (hup : s.controller.tornDown = false) (hi : s.controller.inputs ≠ none) :
    TakesOff s s.suspend := by
  rw [suspend_eq, if_neg (by simp [hup, hi])]
  exact ⟨rfl, List.prefix_refl _⟩

theorem TakesOff.background_of_none (h : TakesOff s s') (hn : s.controller.kernelLoad = none) :
    s'.controller.background = s.controller.background := by
  rw [h.background, supersede_of_none hn]

/-- No question is taken back. -/
theorem TakesOff.questions (h : TakesOff s s') : s.questions <+: s'.questions := by
  rw [← questions_supersede]
  exact h.loads.map _

/-- Nothing stays in the background that is over. -/
theorem TakesOff.background_sublist (h : TakesOff s s') (hn : s.controller.kernelLoad = some n) :
    s'.controller.background <+
      (s.controller.background ++ s.shelved).filter fun m => !s'.isOver m := by
  have hlater : ∀ m, s.supersede.isOver m = false → s'.isOver m = false := by
    intro m hm
    unfold isOver at hm ⊢
    cases hl : s.supersede.loads[m]? with
    | none => simp [hl] at hm
    | some load =>
      rw [hl] at hm
      -- what was issued since comes behind it
      obtain ⟨hlt, -⟩ := List.getElem?_eq_some_iff.mp hl
      obtain ⟨more, hmore⟩ := h.loads
      rw [← hmore, List.getElem?_append_left hlt, hl]
      exact hm
  rw [h.background, background_supersede hn]
  refine List.monotone_filter_right _ fun m hm => ?_
  simpa using hlater m (by simpa using hm)

/-! ## What the background holds -/

/-- Two loads of the catalog at most, and loads of kernels that are among the given ones, in their
order; none if superseded loads are aborted. -/
structure Contained (s : Session) (loads : List Nat) : Prop where
  catalog : (s.asking (!·.isKernels) s.controller.background).length ≤ 2
  kernels : s.asking Question.isKernels s.controller.background <+ loads
  cancel : s.controller.policy = .cancel →
    s.asking Question.isKernels s.controller.background = []

/-- A background that shrinks stays contained. -/
theorem Contained.of_sublist (h : Contained s l)
    (hback : s'.controller.background <+ s.controller.background)
    (hknown : ∀ m ∈ s.controller.background, m < s.loads.length)
    (hq : s.questions <+: s'.questions) (hp : s'.controller.policy = s.controller.policy) :
    Contained s' l := by
  have hasking : ∀ p, s'.asking p s'.controller.background <+ s.asking p s.controller.background :=
    fun p => asking_of_prefix (p := p) hq hknown ▸ hback.filter _
  refine ⟨Nat.le_trans (hasking _).length_le h.catalog, (hasking _).trans h.kernels, fun hc => ?_⟩
  exact List.sublist_nil.mp (h.cancel (hp ▸ hc) ▸ hasking _)

/-- The loads of the catalog come to the background once, when nothing else has been asked. -/
theorem Contained.activate (h : Contained s l) (hd : Distinct s)
    (hknown : ∀ m ∈ s.controller.background, m < s.loads.length) : Contained s.activate l := by
  by_cases hdone : (s.controller.activated || s.controller.tornDown) = true
  · rw [Session.activate, if_pos hdone]
    exact h
  · have hlen : s.questions.length = s.loads.length := List.length_map ..
    have hq : s.activate.questions = s.questions ++ [.clients, .products] := by
      rw [questions_activate, catalogDue, if_neg hdone]
    have hback : s.activate.controller.background =
        s.controller.background ++ [s.loads.length, s.loads.length + 1] := by
      rw [Session.activate, if_neg hdone]
      rfl
    -- before the activation no load has asked for anything but kernels
    have hbefore : s.asking (!·.isKernels) s.controller.background = [] := by
      refine List.filter_eq_nil_iff.mpr fun m _ => ?_
      cases hm : s.questions[m]? with
      | none => simp
      | some q => simp [hd.catalog (by simp_all) q (List.mem_of_getElem? hm)]
    have hnew : s.activate.asking Question.isKernels [s.loads.length, s.loads.length + 1] = [] := by
      refine List.filter_eq_nil_iff.mpr fun m hm => ?_
      simp only [List.mem_cons, List.not_mem_nil, or_false] at hm
      rcases hm with rfl | rfl <;> simp [hq, ← hlen, Question.isKernels]
    have hasking : ∀ p, s.activate.asking p s.activate.controller.background =
        s.asking p s.controller.background ++
          s.activate.asking p [s.loads.length, s.loads.length + 1] := by
      intro p
      rw [hback, asking_append, asking_of_prefix (hq ▸ List.prefix_append ..) hknown]
    refine ⟨?_, ?_, fun hc => ?_⟩
    · rw [hasking, hbefore]
      exact asking_sublist.length_le
    · rw [hasking, hnew, List.append_nil]
      exact h.kernels
    · rw [hasking, hnew, List.append_nil]
      exact h.cancel ((spares_activate s).policy ▸ hc)

/-- Only a load that is taken off comes to the background, and then nothing stays that is over. -/
theorem Contained.takesOff (h : Contained s l) (ht : TakesOff s s') (hk : Keyed s)
    (hknown : ∀ m ∈ s.tracked, m < s.loads.length)
    (hp : s'.controller.policy = s.controller.policy) (hl : l <+ superseded)
    (hn : s.controller.kernelLoad = some n) :
    Contained s' ((superseded ++ [n]).filter fun m => !s'.isOver m) := by
  obtain ⟨key, x, -, hasks⟩ := hk n hn
  have hshelved : s.shelved <+ [n] := by
    unfold shelved
    cases s.controller.policy <;> simp [hn]
  have hcatalog : s.asking (!·.isKernels) s.shelved = [] := by
    refine List.filter_eq_nil_iff.mpr fun m hm => ?_
    obtain rfl := List.mem_singleton.mp (hshelved.subset hm)
    simp [getElem?_questions.mpr hasks, Question.isKernels]
  have hasking : ∀ p, s'.asking p s'.controller.background <+
      (s.asking p s.controller.background ++ s.asking p s.shelved).filter fun m =>
        !s'.isOver m := by
    intro p
    -- what was there and what comes to it is known, so it asks the same afterwards
    have hall : ∀ m ∈ s.controller.background ++ s.shelved, m < s.loads.length := by
      intro m hm
      rcases List.mem_append.mp hm with hm | hm
      · exact hknown m (mem_tracked.mpr (.inl hm))
      · obtain rfl := List.mem_singleton.mp (hshelved.subset hm)
        exact hasks.lt_length
    rw [← asking_append, ← asking_of_prefix ht.questions hall, ← asking_filter]
    exact (ht.background_sublist hn).filter _
  refine ⟨?_, ?_, fun hc => ?_⟩
  · have hle := (hasking (!·.isKernels)).length_le
    rw [hcatalog, List.append_nil] at hle
    exact Nat.le_trans hle (Nat.le_trans List.filter_sublist.length_le h.catalog)
  · exact (hasking _).trans (((h.kernels.trans hl).append (asking_sublist.trans hshelved)).filter _)
  · rw [hp] at hc
    have hnone := hasking Question.isKernels
    rw [h.cancel hc, show s.shelved = [] by simp [shelved, hc]] at hnone
    exact List.sublist_nil.mp hnone

/-! ## What a step does to the background -/

instance (s : Session) (a : Action) : Decidable (Supersedes s a) :=
  inferInstanceAs (Decidable (_ ∨ _))

/-- The load that a step supersedes, if it supersedes one. -/
def superseded? (s : Session) (a : Action) : Option Nat :=
  if Supersedes s a then s.controller.kernelLoad else none

/-- A derivation takes the load of the former one off; a render activates the sub-form first. -/
theorem takesOff_observed {t : Turn} (hi : t.observed = some i) (hmoved : s.unmoved i = false) :
    ∃ s₁, (s₁ = s ∨ s₁ = s.activate) ∧ TakesOff s₁ (s.take t) := by
  cases t with
  | observe j =>
    cases hi
    rw [take, observe_eq, if_neg (by simp [hmoved])]
    exact ⟨s, .inl rfl, takesOff_derive s i⟩
  | render j =>
    cases hi
    have hmoved' : s.activate.unmoved i = false := ((quiet_activate s).unmoved i).trans hmoved
    rw [take, observe_eq, if_neg (by simp [hmoved'])]
    exact ⟨s.activate, .inr rfl, takesOff_derive s.activate i⟩
  | _ => cases hi

/-- Whoever derives anew or suspends takes the load of the derivation off. -/
theorem takesOff_of_supersedes (h : Supersedes s a) :
    ∃ s₁, (s₁ = s ∨ s₁ = s.activate) ∧ TakesOff s₁ (s.step a) := by
  have htake : ∃ s₁, (s₁ = s ∨ s₁ = s.activate) ∧ TakesOff s₁ (s.take (s.turn a)) := by
    rcases h with hd | hs
    · obtain ⟨i, _, hi, hderived⟩ := derived_of_derivation hd
      exact takesOff_observed hi hderived.moved
    · cases ht : s.turn a with
      | suspend =>
        obtain ⟨hup, hinputs⟩ : s.controller.tornDown = false ∧ s.controller.inputs ≠ none := by
          simpa [suspension?, ht, Option.isNone_iff_eq_none] using hs
        exact ⟨s, .inl rfl, takesOff_suspend hup hinputs⟩
      | _ => exact absurd (by simp [suspension?, ht]) hs
  -- the books of a step have nothing to do with its loads
  obtain ⟨bus, settlings, drives, holders, he⟩ := step_eq s a
  obtain ⟨s₁, hs₁, htakes⟩ := htake
  rw [he]
  exact ⟨s₁, hs₁, { htakes with }⟩

/-- All other turns leave the background alone, or let go of it. -/
theorem background_take (s : Session) {t : Turn} (ho : t.observed = none) (hs : t ≠ .suspend)
    (ha : t ≠ .activate) : (s.take t).controller.background <+ s.controller.background := by
  -- nothing is put in the background here, and only who waits and who tears down takes out of it
  have hsame : ∀ {s' : Session}, s'.controller.background = s.controller.background →
      s'.controller.background <+ s.controller.background :=
    fun h => h ▸ List.Sublist.refl _
  cases t with
  | rest => exact hsame rfl
  | write model key value => exact hsame rfl
  | activate => exact absurd rfl ha
  | observe i => cases ho
  | render i => cases ho
  | suspend => exact absurd rfl hs
  | tearDown =>
    rcases tearDown_cases s with ⟨he, -⟩ | ⟨-, _, -, he⟩ <;> rw [take, he]
    · exact List.nil_sublist _
  | start load =>
    rcases start_cases s load with he | ⟨_, -, he⟩ <;> rw [take, he]
    · exact hsame rfl
  | answerCatalog list load answer =>
    rcases answerCatalog_cases s list load answer with he | ⟨-, _, _, he⟩ <;>
      exact hsame (by rw [take, he])
  | answerKernels load answer =>
    refine hsame ?_
    have hstep := answerKernels_step s load answer
    rw [take]
    generalize s.answerKernels load answer = s' at hstep ⊢
    cases hstep <;> rfl
  | drop load =>
    rcases drop_cases s load with he | ⟨_, _, _, -, he⟩ <;> rw [take, he]
    · exact hsame rfl
  | untrack => exact List.nil_sublist _

/-- Without that only an activation brings loads to the background. -/
theorem background_of_not_supersedes (h : ¬ Supersedes s a) :
    ∃ s₁, (s₁ = s ∨ s₁ = s.activate) ∧ s₁.questions <+: (s.step a).questions ∧
      (s.step a).controller.background <+ s₁.controller.background := by
  obtain ⟨hd, hs⟩ : s.derivation? a = none ∧ s.suspension? a = none := by
    simpa [Supersedes] using h
  have halike : ∀ {s₁}, Alike s₁ (s.step a) → s₁.questions <+: (s.step a).questions ∧
      (s.step a).controller.background <+ s₁.controller.background := by
    intro s₁ hal
    rw [questions_of_loads hal.loads, hal.controller]
    exact ⟨List.prefix_refl _, List.Sublist.refl _⟩
  cases hi : (s.turn a).observed with
  | some i =>
    rcases alike_observed hi hd with hal | ⟨-, hal⟩
    · exact ⟨s, .inl rfl, halike hal⟩
    · exact ⟨s.activate, .inr rfl, halike hal⟩
  | none =>
    by_cases hsuspend : s.turn a = .suspend
    · exact ⟨s, .inl rfl, halike (alike_suspended hsuspend hs)⟩
    by_cases hactivate : s.turn a = .activate
    · exact ⟨s.activate, .inr rfl, halike (alike_step (by rw [hactivate]; rfl))⟩
    -- no other turn brings anything to the background
    refine ⟨s, .inl rfl, ⟨_, (questions_step s a).symm⟩, ?_⟩
    rw [step_controller]
    exact background_take s hi hsuspend hactivate

/-- The load superseded by a step is the one kept for the derivation. -/
theorem superseded_eq_some :
    s.superseded? a = some n ↔ Supersedes s a ∧ s.controller.kernelLoad = some n := by
  unfold superseded?
  split <;> simp_all

/-- Whether or not the sub-form is activated first, the background is contained. -/
theorem Contained.of_activate (h : Contained s l) (hm : Minding s) (hd : Distinct s)
    (hs : s' = s ∨ s' = s.activate) :
    Contained s' l ∧ Minding s' ∧ s'.controller.policy = s.controller.policy ∧
      s'.controller.kernelLoad = s.controller.kernelLoad := by
  rcases hs with rfl | rfl
  · exact ⟨h, hm, rfl, rfl⟩
  · exact ⟨h.activate hd fun m hmem => hm.tracked m (mem_tracked.mpr (.inl hmem)),
      hm.step .activate, (spares_activate s).policy, kernelLoad_activate s⟩

/-- A step without a supersession lets nothing new into the background. -/
theorem Contained.step_of_none (h : Contained s l) (hm : Minding s) (hd : Distinct s)
    (hnone : s.superseded? a = none) : Contained (s.step a) l := by
  -- a render may activate first, which adds the loads of the catalog
  obtain ⟨s₁, hs₁, hq, hback⟩ : ∃ s₁, (s₁ = s ∨ s₁ = s.activate) ∧
      s₁.questions <+: (s.step a).questions ∧
        (s.step a).controller.background <+ s₁.controller.background := by
    by_cases hsup : Supersedes s a
    · -- there is no load to take off
      obtain ⟨s₁, hs₁, htakes⟩ := takesOff_of_supersedes hsup
      have hload : s₁.controller.kernelLoad = none := by
        rw [superseded?, if_pos hsup] at hnone
        rw [(h.of_activate hm hd hs₁).2.2.2, hnone]
      exact ⟨s₁, hs₁, htakes.questions, by rw [htakes.background_of_none hload]⟩
    · exact background_of_not_supersedes hsup
  obtain ⟨h₁, hm₁, hp, -⟩ := h.of_activate hm hd hs₁
  exact h₁.of_sublist hback (fun m hmem => hm₁.tracked m (mem_tracked.mpr (.inl hmem))) hq
    ((policy_step s a).trans hp.symm)

/-- A supersession leaves no load in the background but those that are not over yet. -/
theorem Contained.step_of_some (h : Contained s l) (hm : Minding s) (hd : Distinct s)
    (hl : l <+ superseded) (hsome : s.superseded? a = some n) :
    Contained (s.step a) ((superseded ++ [n]).filter fun m => !(s.step a).isOver m) := by
  obtain ⟨hsup, hn⟩ := superseded_eq_some.mp hsome
  obtain ⟨s₁, hs₁, htakes⟩ := takesOff_of_supersedes hsup
  obtain ⟨h₁, hm₁, hp, hload⟩ := h.of_activate hm hd hs₁
  exact h₁.takesOff htakes hm₁.keyed hm₁.tracked ((policy_step s a).trans hp.symm) hl
    (hload.trans hn)

/-- Right after a load has been superseded nothing in the background is over. -/
theorem isOver_of_superseded (hsome : s.superseded? a = some n) {m : Nat}
    (hm : m ∈ (s.step a).controller.background) : (s.step a).isOver m = false := by
  obtain ⟨hsup, hn⟩ := superseded_eq_some.mp hsome
  obtain ⟨s₁, hs₁, htakes⟩ := takesOff_of_supersedes hsup
  have hload : s₁.controller.kernelLoad = some n := by
    rcases hs₁ with rfl | rfl
    · exact hn
    · rw [kernelLoad_activate, hn]
  simpa using (List.mem_filter.mp ((htakes.background_sublist hload).subset hm)).2

/-! ## Runs -/

/-- The loads that a run has superseded. -/
def supersessions (s : Session) (as : List Action) : List Nat := s.collect superseded? as

/-- The session as the last step has left it that superseded a load. -/
def lastSupersession (s : Session) (as : List Action) : Option Session :=
  (s.collect (fun s a => (s.superseded? a).map fun _ => s.step a) as).getLast?

/-- The superseded loads that were not over when the last one had been superseded. -/
def outstanding (s : Session) (as : List Action) : List Nat :=
  match s.lastSupersession as with
  | none => []
  | some after => (s.supersessions as).filter fun n => !after.isOver n

/-- Outstanding loads have been superseded. -/
theorem outstanding_sublist (s : Session) (as : List Action) :
    s.outstanding as <+ s.supersessions as := by
  unfold outstanding
  split
  · exact List.nil_sublist _
  · exact List.filter_sublist

theorem outstanding_of_none {as : List Action} (h : (s.run as).superseded? a = none) :
    s.outstanding (as ++ [a]) = s.outstanding as := by
  simp [outstanding, lastSupersession, supersessions, collect_concat, h]

theorem outstanding_of_some {as : List Action} (h : (s.run as).superseded? a = some n) :
    s.outstanding (as ++ [a]) =
      (s.supersessions as ++ [n]).filter fun m => !((s.run as).step a).isOver m := by
  simp [outstanding, lastSupersession, supersessions, collect_concat, h]

/-- A sub-form just mounted has nothing in the background. -/
theorem contained_mount (form : Form) (context : Context) (policy : StalePolicy) :
    Contained (mount form context policy) [] :=
  ⟨Nat.zero_le _, List.Sublist.refl _, fun _ => rfl⟩

/-- The background is contained in every session. -/
theorem contained_run (form : Form) (context : Context) (policy : StalePolicy)
    (as : List Action) : Contained ((mount form context policy).run as)
      ((mount form context policy).outstanding as) := by
  induction as using List.reverseRecOn with
  | nil => exact contained_mount form context policy
  | append_singleton as a ih =>
    have hm : Minding ((mount form context policy).run as) :=
      minding_run (minding_mount form context policy) as
    have hd : Distinct ((mount form context policy).run as) :=
      distinct_run (distinct_mount form context policy) (coherent_mount form context policy) as
    rw [run_concat]
    cases hs : ((mount form context policy).run as).superseded? a with
    | none =>
      rw [outstanding_of_none hs]
      exact ih.step_of_none hm hd hs
    | some n =>
      rw [outstanding_of_some hs]
      exact ih.step_of_some hm hd (outstanding_sublist _ as) hs

theorem policy_run (s : Session) (as : List Action) :
    (s.run as).controller.policy = s.controller.policy := by
  induction as generalizing s with
  | nil => rfl
  | cons a as ih => exact (ih (s.step a)).trans (policy_step s a)

/-- What the background of a controller holds after a run. -/
structure Bounded (s₀ : Session) (as : List Action) : Prop where
  catalog : ((s₀.run as).asking (!·.isKernels) (s₀.run as).controller.background).length ≤ 2
  /-- Each load of kernels has been superseded, and it was not over when the last one was. -/
  kernels : (s₀.run as).asking Question.isKernels (s₀.run as).controller.background <+
    s₀.outstanding as
  cancel : s₀.controller.policy = .cancel → ∀ n ∈ (s₀.run as).controller.background, ∀ key x,
    ¬ Asks (s₀.run as).loads n (.kernels key x)
  length : (s₀.run as).controller.background.length ≤ 2 +
    match s₀.controller.policy with
    | .cancel => 0
    | .ignore => (s₀.outstanding as).length
  /-- When a load is superseded, nothing stays that is over. -/
  pruned : ∀ a n, (s₀.run as).superseded? a = some n →
    ∀ m ∈ ((s₀.run as).step a).controller.background, ((s₀.run as).step a).isOver m = false

/-- **Loads in the background do not pile up**: in every run there are two of the catalog at most,
and loads that were superseded and not over when the last one was, if they are ignored. -/
theorem background_run (form : Form) (context : Context) (policy : StalePolicy)
    (as : List Action) : Bounded (mount form context policy) as := by
  have h := contained_run form context policy as
  have hm : Minding ((mount form context policy).run as) :=
    minding_run (minding_mount form context policy) as
  have hpolicy : ((mount form context policy).run as).controller.policy = policy :=
    policy_run _ as
  -- what is there are loads of the catalog and loads of kernels, and each kind has its own bound
  have hlength := length_asking (p := Question.isKernels)
    fun n hn => hm.tracked n (mem_tracked.mpr (.inl hn))
  have hcatalog := h.catalog
  refine {
    catalog := h.catalog
    kernels := h.kernels
    cancel := fun hc n hn key x hasks => ?_
    length := ?_
    pruned := fun a n hs m hm => isOver_of_superseded hs hm }
  · have hmem := mem_asking (p := Question.isKernels).mpr ⟨hn, _, hasks, rfl⟩
    rw [h.cancel (hpolicy.trans hc)] at hmem
    exact List.not_mem_nil hmem
  · show _ ≤ 2 + match policy with
      | .cancel => 0
      | .ignore => ((mount form context policy).outstanding as).length
    cases policy with
    | cancel =>
      rw [h.cancel hpolicy] at hlength
      simp only [List.length_nil] at hlength ⊢
      omega
    | ignore =>
      have hkernels := h.kernels.length_le
      simp only
      omega

/-- Two loads of kernels are superseded; the first has answered when the second is. -/
def ignoredSteps : List Action :=
  [.render ⟨some .system, false⟩, .start 0, .start 1, .start 2, .write 0 "clientId" (.ofNat 2),
    .render ⟨some .system, false⟩, .answerClients 0 (.ok []), .answerKernels 2 (.ok []),
    .write 0 "clientId" (.ofNat 3), .render ⟨some .system, false⟩]

example :
    let s := mount oneClient (.shared 0) .ignore
    (s.run (ignoredSteps.take 9)).controller.background = [0, 1, 2] ∧
      s.outstanding (ignoredSteps.take 9) = [2] ∧
      (s.run ignoredSteps).controller.background = [1, 3] ∧ s.outstanding ignoredSteps = [3] := by
  decide +kernel

end LivePatching.Session
