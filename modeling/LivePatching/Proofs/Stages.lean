import LivePatching.Proofs.Loads
import LivePatching.Proofs.Policy

/-!
# The stages of the loads of kernels

A load of kernels is queued, asks its provider and has its answer, or it is aborted on the way and
goes away.

* `Session.loadsAt`: the loads of kernels at a kind of stage; `Lasting`: a kind that no load leaves.
* `Goes`, `goes_of_kernelStage?`: a turn leaves a load alone, aborts it or moves it on.
* `Session.called?`, `Session.sampled?`, `Session.answered?`: the load that asks its provider, has
  its duration taken, or has its answer in a turn; `Uptake`: what becomes of the answer.
* `Marks`: the turn yields the load that it moves to a lasting kind of stage; `Marks.run`: **a run
  yields the loads at such a stage, each once.**
* `loadsAt_perm`: each load of kernels is finished, was aborted or can still answer.
-/

namespace LivePatching

open Json

/-- What becomes of the answer of a load of kernels. -/
inductive Uptake where
  | installed
  | failed
  /-- It came too late, whatever it was. -/
  | stale
deriving DecidableEq, Repr

/-- What becomes of an answer that is not too late. -/
def Uptake.of : Except ProviderError (List Kernel) → Uptake
  | .ok _ => .installed
  | .error _ => .failed

namespace Stage

/-- Whether the load was aborted before it was finished. -/
def isAborted : Stage → Bool
  | aborted _ => true
  | dropped _ => true
  | _ => false

/-- Whether the provider was asked. -/
def isAsked : Stage → Bool
  | queued => false
  | running => true
  | finished => true
  | aborted asked => asked
  | dropped asked => asked

end Stage

namespace Session

variable {s s' : Session} {a : Action} {as : List Action} {n m : Nat} {q : Question}
  {key : RequestKey} {x : Scope} {stage stage' : Stage} {t : Turn}
  {answer : Except ProviderError (List Kernel)}

/-! ## The loads of kernels -/

/-- The stage of a load, if it is one of kernels. -/
def kernelStage? (s : Session) (n : Nat) : Option Stage :=
  match s.loads[n]? with
  | some ⟨.kernels _ _, stage⟩ => some stage
  | _ => none

/-- The loads of kernels at a stage of the kind. -/
def loadsAt (s : Session) (p : Stage → Bool) : List Nat :=
  (List.range s.loads.length).filter fun n => (s.kernelStage? n).any p

/-- The stage of a load of kernels. -/
theorem kernelStage?_eq_some :
    s.kernelStage? n = some stage ↔ ∃ key x, s.loads[n]? = some ⟨.kernels key x, stage⟩ := by
  unfold kernelStage?
  split
  · rename_i key x stage' h
    rw [h]
    simp
  · rename_i h
    constructor
    · rintro ⟨⟩
    · rintro ⟨key, x, hl⟩
      exact absurd hl (h key x stage)

theorem kernelStage?_of_asks (h : Asks s.loads n (.kernels key x)) :
    ∃ stage, s.kernelStage? n = some stage := by
  obtain ⟨⟨q, stage⟩, hl, rfl⟩ := Option.map_eq_some_iff.mp h
  exact ⟨stage, kernelStage?_eq_some.mpr ⟨key, x, hl⟩⟩

theorem asks_of_kernelStage? (h : s.kernelStage? n = some stage) :
    ∃ key x, Asks s.loads n (.kernels key x) := by
  obtain ⟨key, x, hl⟩ := kernelStage?_eq_some.mp h
  exact ⟨key, x, asks_of_getElem? hl⟩

/-- The loads of kernels at a stage of the kind. -/
theorem mem_loadsAt {p : Stage → Bool} :
    n ∈ s.loadsAt p ↔ ∃ stage, s.kernelStage? n = some stage ∧ p stage = true := by
  unfold loadsAt
  rw [List.mem_filter, List.mem_range, Option.any_eq_true]
  refine and_iff_right_of_imp ?_
  rintro ⟨stage, h, -⟩
  obtain ⟨key, x, ha⟩ := asks_of_kernelStage? h
  exact ha.lt_length

theorem mem_loadsAt_and {p q : Stage → Bool} :
    n ∈ s.loadsAt (fun stage => p stage && q stage) ↔ n ∈ s.loadsAt p ∧ n ∈ s.loadsAt q := by
  simp only [mem_loadsAt, Bool.and_eq_true]
  constructor
  · rintro ⟨stage, hs, hp, hq⟩
    exact ⟨⟨stage, hs, hp⟩, stage, hs, hq⟩
  · rintro ⟨⟨stage, hs, hp⟩, stage', hs', hq⟩
    obtain rfl := Option.some.inj (hs.symm.trans hs')
    exact ⟨stage, hs, hp, hq⟩

theorem not_mem_loadsAt {p : Stage → Bool} (h : n ∈ s.loadsAt fun stage => !p stage) :
    n ∉ s.loadsAt p := by
  intro hp
  obtain ⟨stage, -, hboth⟩ := mem_loadsAt.mp (mem_loadsAt_and.mpr ⟨h, hp⟩)
  simp at hboth

theorem nodup_loadsAt (s : Session) (p : Stage → Bool) : (s.loadsAt p).Nodup :=
  List.nodup_range.filter _

/-- A turn moves a load of kernels one stage at most. -/
theorem kernelStage?_take (h : s.kernelStage? n = some stage) (t : Turn) :
    ∃ stage', (s.take t).kernelStage? n = some stage' ∧ Advance n t stage stage' := by
  obtain ⟨key, x, hl⟩ := kernelStage?_eq_some.mp h
  obtain ⟨stage', hl', hadvance⟩ := advance_take hl t
  exact ⟨stage', kernelStage?_eq_some.mpr ⟨key, x, hl'⟩, hadvance⟩

theorem kernelStage?_setStage (h : s.kernelStage? n = some stage) :
    (s.setStage n stage').kernelStage? n = some stage' := by
  obtain ⟨key, x, hl⟩ := kernelStage?_eq_some.mp h
  refine kernelStage?_eq_some.mpr ⟨key, x, ?_⟩
  rw [setStage, getElem?_modify_self, hl]
  rfl

theorem not_asks_of_kernelStage? (h : s.kernelStage? n = none) :
    ¬ Asks s.loads n (.kernels key x) := by
  intro ha
  obtain ⟨stage, hs⟩ := kernelStage?_of_asks ha
  rw [h] at hs
  cases hs

/-- What a turn does not issue was there before. -/
theorem asks_of_take (h : Asks (s.take t).loads n q) (hq : q ∉ s.issues t) : Asks s.loads n q := by
  have hlast : (s.take t).questions[n]? = some q := getElem?_questions.mpr h
  rw [questions_take, List.getElem?_append] at hlast
  split at hlast
  · exact getElem?_questions.mp hlast
  · exact absurd (List.mem_of_getElem? hlast) hq

theorem queued_of_observe {i : Inputs} (h : s.kernelStage? n = none)
    (h' : (s.observe i).kernelStage? n = some stage) : stage = .queued := by
  rw [observe_eq] at h'
  split at h'
  · rw [h] at h'
    cases h'
  · obtain ⟨key, x, hl⟩ := kernelStage?_eq_some.mp h'
    cases hi : i.scope with
    | none =>
      obtain ⟨loads, _, hages, he⟩ := derive_none s hi
      rw [he] at hl
      exact absurd ((hages.asks _ _).mp (asks_of_getElem? hl)) (not_asks_of_kernelStage? h)
    | some y =>
      obtain ⟨loads, _, hages, he⟩ := derive_some s hi
      rw [he] at hl
      -- a load of kernels that was not there is the one that was issued
      rcases asks_append.mp (asks_of_getElem? hl) with ha | ⟨rfl, -⟩
      · exact absurd ((hages.asks _ _).mp ha) (not_asks_of_kernelStage? h)
      · simp only [List.getElem?_concat_length, Option.some.injEq, Load.mk.injEq] at hl
        exact hl.2.symm

/-- A load of kernels that a turn issues is queued. -/
theorem queued_of_new (h : s.kernelStage? n = none)
    (h' : (s.take t).kernelStage? n = some stage) : stage = .queued := by
  -- only an observation issues a load of kernels
  have hother : (∀ q ∈ s.issues t, q.isKernels = false) → stage = .queued := by
    intro hissues
    obtain ⟨key, x, ha⟩ := asks_of_kernelStage? h'
    refine absurd (asks_of_take ha fun hq => ?_) (not_asks_of_kernelStage? h)
    cases hissues _ hq
  cases t with
  | observe i => exact queued_of_observe h h'
  | render i =>
    refine queued_of_observe (s := s.activate) ?_ h'
    cases hs : s.activate.kernelStage? n with
    | none => rfl
    | some stage' =>
      obtain ⟨key, x, ha⟩ := asks_of_kernelStage? hs
      exact absurd (((quiet_activate s).asks _ _ _).mp ha) (not_asks_of_kernelStage? h)
  | activate => exact hother fun q hq => not_isKernels_of_mem_catalogDue hq
  | _ => exact hother fun q hq => absurd hq List.not_mem_nil

/-- A step moves loads as its turn does. -/
theorem loadsAt_step (s : Session) (a : Action) (p : Stage → Bool) :
    (s.step a).loadsAt p = (s.take (s.turn a)).loadsAt p := by
  obtain ⟨_, _, _, _, he⟩ := step_eq s a
  rw [he]
  rfl

/-- A kind of stage that no load leaves. -/
def Lasting (p : Stage → Bool) : Prop :=
  ∀ ⦃n : Nat⦄ ⦃t : Turn⦄ ⦃stage stage' : Stage⦄, Advance n t stage stage' → p stage = true →
    p stage' = true

section Lasting

variable {p : Stage → Bool}

theorem lasting_of (hstart : p .queued = true → p .running = true)
    (hanswer : p .running = true → p .finished = true)
    (habort : ∀ stage, p stage = true → p stage.abort = true)
    (hdrop : ∀ asked, p (.aborted asked) = true → p (.dropped asked) = true) : Lasting p := by
  intro n t stage stage' hadvance hp
  cases hadvance with
  | kept => exact hp
  | started => exact hstart hp
  | answered => exact hanswer hp
  | aborted => exact habort stage hp
  | dropped asked => exact hdrop asked hp

theorem Lasting.take (h : Lasting p) (t : Turn) (hn : n ∈ s.loadsAt p) :
    n ∈ (s.take t).loadsAt p := by
  obtain ⟨stage, hs, hp⟩ := mem_loadsAt.mp hn
  obtain ⟨stage', hs', hadvance⟩ := kernelStage?_take hs t
  exact mem_loadsAt.mpr ⟨stage', hs', h hadvance hp⟩

/-- What a stage has for good it has after any run. -/
theorem Lasting.run (h : Lasting p) (as : List Action) (hn : n ∈ s.loadsAt p) :
    n ∈ (s.run as).loadsAt p := by
  induction as generalizing s with
  | nil => exact hn
  | cons a as ih =>
    refine ih ?_
    rw [loadsAt_step]
    exact h.take _ hn

end Lasting

/-! ## Goes -/

/-- How a turn moves a load of kernels on, unless it aborts the load. -/
inductive Goes (n : Nat) : Turn → Stage → Stage → Prop where
  | started : Goes n (.start n) .queued .running
  | answered (answer : Except ProviderError (List Kernel)) :
      Goes n (.answerKernels n answer) .running .finished
  | dropped (asked : Bool) : Goes n (.drop n) (.aborted asked) (.dropped asked)

theorem kernelStage?_start (hs : s.kernelStage? n = some .queued) :
    (s.take (.start n)).kernelStage? n = some .running := by
  obtain ⟨key, x, hl⟩ := kernelStage?_eq_some.mp hs
  have hrunning : (s.setStage n .running).kernelStage? n = some .running :=
    kernelStage?_setStage hs
  simpa only [take, start, hl] using hrunning

/-- The answer to a running load finishes it. -/
theorem kernelStage?_answer (hs : s.kernelStage? n = some .running)
    (answer : Except ProviderError (List Kernel)) :
    (s.take (.answerKernels n answer)).kernelStage? n = some .finished := by
  have hfinished : (s.setStage n .finished).kernelStage? n = some .finished :=
    kernelStage?_setStage hs
  obtain ⟨key, x, hl⟩ := kernelStage?_eq_some.mp hs
  have hstep := answerKernels_step s n answer
  rw [take]
  generalize s.answerKernels n answer = s' at hstep ⊢
  cases hstep with
  | unasked h => exact absurd hl (h key x)
  | _ => exact hfinished

theorem kernelStage?_drop {asked : Bool} (hs : s.kernelStage? n = some (.aborted asked)) :
    (s.take (.drop n)).kernelStage? n = some (.dropped asked) := by
  obtain ⟨key, x, hl⟩ := kernelStage?_eq_some.mp hs
  have hdropped : (s.setStage n (.dropped asked)).kernelStage? n = some (.dropped asked) :=
    kernelStage?_setStage hs
  rw [take, drop, hl]
  cases asked <;> exact hdropped

/-- A load goes where the turn sends it. -/
theorem kernelStage?_goes (hs : s.kernelStage? n = some stage) (h : Goes n t stage stage') :
    (s.take t).kernelStage? n = some stage' := by
  cases h with
  | started => exact kernelStage?_start hs
  | answered answer => exact kernelStage?_answer hs answer
  | dropped asked => exact kernelStage?_drop hs

/-- Of a load of kernels only the answer to it makes it finished. -/
theorem answer_of_finished (hs : s.kernelStage? n = some .running) (ht : t.Answers n)
    (hs' : (s.take t).kernelStage? n = some .finished) : ∃ answer, t = .answerKernels n answer := by
  have hkept : s.take t ≠ s := by
    intro he
    rw [he, hs] at hs'
    cases hs'
  obtain ⟨key, x, hl⟩ := kernelStage?_eq_some.mp hs
  rcases ht with ⟨list, answer, rfl⟩ | h
  · rcases answerCatalog_cases s list n answer with he | ⟨hq, -⟩
    · exact absurd he hkept
    · have hload := Option.some.inj (hl.symm.trans hq)
      exact absurd (congrArg Load.question hload).symm (list.question_ne_kernels key x)
  · exact h

/-- A turn leaves a load of kernels alone, aborts it or moves it on. -/
theorem goes_of_kernelStage? (hs : s.kernelStage? n = some stage)
    (hs' : (s.take t).kernelStage? n = some stage') :
    stage' = stage ∨ stage' = stage.abort ∨ Goes n t stage stage' := by
  obtain ⟨_, hsame, hadvance⟩ := kernelStage?_take hs t
  cases Option.some.inj (hs'.symm.trans hsame)
  cases hadvance with
  | kept => exact .inl rfl
  | aborted => exact .inr (.inl rfl)
  | started ht =>
    subst ht
    exact .inr (.inr .started)
  | answered ht =>
    obtain ⟨answer, rfl⟩ := answer_of_finished hs ht hs'
    exact .inr (.inr (.answered answer))
  | dropped asked ht =>
    subst ht
    exact .inr (.inr (.dropped asked))

/-! ## Loads that come to a stage -/

/-- The turn yields the load of kernels that it moves to a kind of stage. No load leaves that kind,
and none comes to it by being issued or aborted. -/
structure Marks (f : Session → Turn → Option Nat) (p : Stage → Bool) : Prop where
  queued : p .queued = false
  aborted : ∀ stage : Stage, p stage.abort = p stage
  finished : p .running = true → p .finished = true
  dropped : ∀ asked, p (.aborted asked) = true → p (.dropped asked) = true
  yields : ∀ {s : Session} {t : Turn} {n : Nat}, f s t = some n ↔
    ∃ stage stage', s.kernelStage? n = some stage ∧ Goes n t stage stage' ∧
      p stage = false ∧ p stage' = true

/-- The loads that the turns of a run yield. -/
def yielded (s : Session) (f : Session → Turn → Option Nat) (as : List Action) : List Nat :=
  s.collect (fun s a => f s (s.turn a)) as

section Marks

variable {f : Session → Turn → Option Nat} {p : Stage → Bool}

/-- What is marked is marked for good. -/
theorem Marks.lasting (h : Marks f p) : Lasting p := by
  refine lasting_of (fun hp => ?_) h.finished (fun stage hp => ?_) h.dropped
  · rw [h.queued] at hp
    cases hp
  · rw [h.aborted, hp]

/-- A load is marked by the turn that brings it among the marked. -/
theorem Marks.eq_some (h : Marks f p) :
    f s t = some n ↔ n ∉ s.loadsAt p ∧ n ∈ (s.take t).loadsAt p := by
  rw [h.yields]
  constructor
  · rintro ⟨stage, stage', hs, hgoes, hp, hp'⟩
    refine ⟨not_mem_loadsAt (mem_loadsAt.mpr ⟨stage, hs, ?_⟩),
      mem_loadsAt.mpr ⟨stage', kernelStage?_goes hs hgoes, hp'⟩⟩
    rw [hp]
    rfl
  · -- a load that is new is queued, and one that is there has moved by the turn
    rintro ⟨hbefore, hafter⟩
    obtain ⟨stage', hs', hp'⟩ := mem_loadsAt.mp hafter
    cases hs : s.kernelStage? n with
    | none =>
      obtain rfl := queued_of_new hs hs'
      rw [h.queued] at hp'
      cases hp'
    | some stage =>
      have hp : p stage = false := by
        by_contra hp
        exact hbefore (mem_loadsAt.mpr ⟨stage, hs, by simpa using hp⟩)
      rcases goes_of_kernelStage? hs hs' with rfl | rfl | hgoes
      · rw [hp] at hp'
        cases hp'
      · rw [h.aborted, hp] at hp'
        cases hp'
      · exact ⟨stage, stage', rfl, hgoes, hp, hp'⟩

/-- **A run yields the loads at the stage, each once.** -/
theorem Marks.run (h : Marks f p) (hs : s.loadsAt p = []) (as : List Action) :
    (s.yielded f as).Nodup ∧ ∀ n, n ∈ s.yielded f as ↔ n ∈ (s.run as).loadsAt p := by
  unfold yielded
  induction as using List.reverseRecOn with
  | nil => exact ⟨.nil, fun n => by rw [run_nil, hs]; rfl⟩
  | append_singleton as a ih =>
    obtain ⟨hnodup, hmem⟩ := ih
    rw [collect_concat, run_concat, loadsAt_step]
    cases hf : f (s.run as) ((s.run as).turn a) with
    -- whatever is at the stage now was there before, or the turn would have yielded it
    | none =>
      rw [Option.toList_none, List.append_nil]
      refine ⟨hnodup, fun n => (hmem n).trans ⟨h.lasting.take _, fun hn => ?_⟩⟩
      by_contra hnot
      have hsome := h.eq_some.mpr ⟨hnot, hn⟩
      rw [hf] at hsome
      cases hsome
    | some m =>
      obtain ⟨hbefore, hafter⟩ := h.eq_some.mp hf
      rw [Option.toList_some]
      have hnew : m ∉ s.collect (fun s a => f s (s.turn a)) as := fun hm => hbefore ((hmem m).mp hm)
      refine ⟨List.nodup_append.mpr ⟨hnodup, List.pairwise_singleton _ m, fun n hn k hk => ?_⟩,
        fun n => ?_⟩
      · rw [List.mem_singleton.mp hk]
        exact ne_of_mem_of_not_mem hn hnew
      rw [List.mem_append, List.mem_singleton, hmem]
      constructor
      · rintro (hn | rfl)
        · exact h.lasting.take _ hn
        · exact hafter
      · intro hn
        by_cases hold : n ∈ (s.run as).loadsAt p
        · exact .inl hold
        · have hsome := h.eq_some.mpr ⟨hold, hn⟩
          rw [hf] at hsome
          exact .inr (Option.some.inj hsome).symm

end Marks

/-! ### What a turn yields -/

/-- The load of kernels that asks its provider in a turn. -/
def called? (s : Session) : Turn → Option Nat
  | .start n => if s.kernelStage? n = some .queued then some n else none
  | _ => none

/-- The load of kernels that has its duration taken: it has its answer, or it asked and goes
away. -/
def sampled? (s : Session) : Turn → Option Nat
  | .answerKernels n _ => if s.kernelStage? n = some .running then some n else none
  | .drop n => if s.kernelStage? n = some (.aborted true) then some n else none
  | _ => none

/-- What becomes of an answer for kernels, if a load waits for it. -/
def uptake? (s : Session) (n : Nat) (answer : Except ProviderError (List Kernel)) :
    Option Uptake :=
  match s.loads[n]? with
  | some ⟨.kernels key x, .running⟩ =>
    some (if s.counts (.kernels key x) then .of answer else .stale)
  | _ => none

/-- The load that has its answer in a turn, and what becomes of it. -/
def received? (s : Session) : Turn → Option (Nat × Uptake)
  | .answerKernels n answer => (s.uptake? n answer).map (n, ·)
  | _ => none

/-- An answer is taken up exactly when its load is running. -/
theorem uptake?_eq_none :
    s.uptake? n answer = none ↔ ∀ key x, s.loads[n]? ≠ some ⟨.kernels key x, .running⟩ := by
  unfold uptake?
  split
  · rename_i key x h
    simp only [reduceCtorEq, false_iff, not_forall, not_not]
    exact ⟨key, x, h⟩
  · rename_i h
    simp only [true_iff]
    exact h

/-- The load that has its answer in a turn. -/
def answered? (s : Session) (t : Turn) : Option Nat := (s.received? t).map (·.1)

/-- The load answered by a turn. -/
theorem answered?_eq_some : s.answered? t = some n ↔
    ∃ answer, t = .answerKernels n answer ∧ s.kernelStage? n = some .running := by
  unfold answered?
  cases t with
  | answerKernels m answer =>
    simp only [received?, Option.map_map, Turn.answerKernels.injEq]
    cases h : s.uptake? m answer with
    | none =>
      rw [uptake?_eq_none] at h
      simp only [Option.map_none, reduceCtorEq, false_iff, kernelStage?_eq_some]
      rintro ⟨_, ⟨rfl, -⟩, key, x, hl⟩
      exact h key x hl
    | some e =>
      have hs : s.kernelStage? m = some .running := by
        unfold uptake? at h
        split at h
        · rename_i key x hl
          exact kernelStage?_eq_some.mpr ⟨key, x, hl⟩
        · cases h
      simp only [Option.map_some, Function.comp, Option.some.injEq]
      constructor
      · rintro rfl
        exact ⟨answer, ⟨rfl, rfl⟩, hs⟩
      · rintro ⟨_, ⟨rfl, -⟩, -⟩
        rfl
  | _ => simp [received?]

theorem marks_called : Marks called? Stage.isAsked where
  queued := rfl
  aborted stage := by cases stage <;> rfl
  finished _ := rfl
  dropped _ hp := hp
  yields {s t n} := by
    constructor
    · intro h
      cases t with
      | start m =>
        rw [called?] at h
        split at h
        · cases h
          exact ⟨_, _, by assumption, .started, rfl, rfl⟩
        · cases h
      | _ => cases h
    · rintro ⟨stage, stage', hs, hgoes, hp, hp'⟩
      cases hgoes with
      | started => rw [called?, if_pos hs]
      | answered => cases hp
      | dropped asked => exact absurd (hp.symm.trans hp') Bool.false_ne_true

theorem marks_sampled : Marks sampled? fun stage => stage.isAsked && stage.isOver where
  queued := rfl
  aborted stage := by cases stage <;> rfl
  finished _ := rfl
  dropped asked hp := by cases asked <;> cases hp
  yields {s t n} := by
    constructor
    · intro h
      cases t with
      | answerKernels m answer =>
        rw [sampled?] at h
        split at h
        · cases h
          exact ⟨_, _, by assumption, .answered answer, rfl, rfl⟩
        · cases h
      | drop m =>
        rw [sampled?] at h
        split at h
        · cases h
          exact ⟨_, _, by assumption, .dropped true, rfl, rfl⟩
        · cases h
      | _ => cases h
    · rintro ⟨stage, stage', hs, hgoes, hp, hp'⟩
      cases hgoes with
      | started => cases hp'
      | answered answer => rw [sampled?, if_pos hs]
      | dropped asked =>
        -- a load that was aborted before it asked has no duration
        cases asked with
        | true => rw [sampled?, if_pos hs]
        | false => cases hp'

theorem marks_answered : Marks answered? (· == .finished) where
  queued := rfl
  aborted stage := by cases stage <;> rfl
  finished _ := rfl
  dropped _ hp := by cases hp
  yields {s t n} := by
    rw [answered?_eq_some]
    constructor
    · rintro ⟨answer, rfl, hs⟩
      exact ⟨_, _, hs, .answered answer, rfl, rfl⟩
    · rintro ⟨stage, stage', hs, hgoes, hp, hp'⟩
      cases hgoes with
      | answered answer => exact ⟨answer, rfl, hs⟩
      | started => cases hp'
      | dropped => cases hp'

/-! ## Each load has one place -/

/-- Elements that are of one of three kinds each. -/
theorem perm_of_kinds {α : Type} {p q r : α → Bool} {l : List α}
    (h : ∀ x ∈ l, (p x = true ∧ q x = false ∧ r x = false) ∨
      (p x = false ∧ q x = true ∧ r x = false) ∨ (p x = false ∧ q x = false ∧ r x = true)) :
    (l.filter p ++ l.filter q ++ l.filter r).Perm l := by
  induction l with
  | nil => exact .nil
  | cons x l ih =>
    have hrest := ih fun y hy => h y (List.mem_cons_of_mem x hy)
    simp only [List.filter_cons]
    rcases h x List.mem_cons_self with ⟨hp, hq, hr⟩ | ⟨hp, hq, hr⟩ | ⟨hp, hq, hr⟩
    · simp only [hp, hq, hr, if_true, Bool.false_eq_true, if_false]
      exact hrest.cons x
    · simp only [hp, hq, hr, if_true, Bool.false_eq_true, if_false]
      rw [List.append_assoc] at hrest ⊢
      exact List.perm_middle.trans (hrest.cons x)
    · simp only [hp, hq, hr, if_true, Bool.false_eq_true, if_false]
      exact List.perm_middle.trans (hrest.cons x)

/-- A load of kernels is finished, was aborted or can still answer. -/
theorem loadsAt_perm (s : Session) :
    (s.loadsAt (· == .finished) ++ s.loadsAt Stage.isAborted ++ s.loadsAt Stage.isLive).Perm
      (s.loadsAt fun _ => true) := by
  have hfilter : ∀ p : Stage → Bool, s.loadsAt p =
      (s.loadsAt fun _ => true).filter fun n => (s.kernelStage? n).any p := by
    intro p
    rw [loadsAt, loadsAt, List.filter_filter]
    refine List.filter_congr fun n _ => ?_
    cases s.kernelStage? n <;> simp
  rw [hfilter (· == .finished), hfilter Stage.isAborted, hfilter Stage.isLive]
  refine perm_of_kinds fun n hn => ?_
  obtain ⟨stage, hs, -⟩ := mem_loadsAt.mp hn
  rw [hs]
  cases stage <;> simp [Stage.isAborted, Stage.isLive]

/-- The places of the elements of a kind. -/
theorem length_places {α : Type} (w : α → Bool) (l : List α) :
    ((List.range l.length).filter fun n => (l[n]?).any w).length = l.countP w := by
  induction l using List.reverseRecOn with
  | nil => rfl
  | append_singleton l x ih =>
    have hbefore : (List.range l.length).filter (fun n => ((l ++ [x])[n]?).any w) =
        (List.range l.length).filter fun n => (l[n]?).any w := by
      refine List.filter_congr fun n hn => ?_
      rw [List.getElem?_append_left (List.mem_range.mp hn)]
    rw [List.length_append, List.length_singleton, List.range_succ, List.filter_append, hbefore,
      List.length_append, ih, List.countP_append]
    simp [List.filter_cons, List.countP_cons]
    split <;> rfl

/-- There are as many loads of kernels as questions for kernels. -/
theorem length_loadsAt (s : Session) :
    (s.loadsAt fun _ => true).length = s.questions.countP Question.isKernels := by
  rw [questions, List.countP_map, ← length_places, loadsAt]
  congr 1
  refine List.filter_congr fun n _ => ?_
  unfold kernelStage?
  cases s.loads[n]? with
  | none => rfl
  | some l =>
    obtain ⟨q, stage⟩ := l
    cases q <;> rfl

end Session

end LivePatching
