import LivePatching.Proofs.Loads
import LivePatching.Proofs.Status

/-!
# The lists of the catalog are loaded once

The clients and the products are loaded when the sub-form is activated, each list by one load of its
own, and nothing but the answer to that load changes the list.

* `entries_kept`, `entries_answered`: a list changes with the answer to its load only, and how.
* `callsOf`, `Resolves`: when the provider is asked for a list, and when it answers.
* `LoadedOnce`, `loadedOnce_run`: **a list is asked for once at most, and is what was answered, from
  then on.**
-/

namespace LivePatching

open Json

/-- What a list is after an answer: it stays as it was if the provider has failed. -/
def taken {α : Type} (answer : Except ProviderError (List α)) (list : List α) : List α :=
  match answer with
  | .ok list => list
  | .error _ => list

namespace Session

variable {s : Session} {a : Action} {n : Nat}

/-- A load that is finished is over. -/
theorem getElem?_finish {q : Question} {stage : Stage} (h : s.loads[n]? = some ⟨q, stage⟩) :
    (s.setStage n .finished).loads[n]? = some ⟨q, .finished⟩ := by
  rw [setStage, getElem?_modify_self, h]
  rfl

/-- Nothing but the answer to a load that is running changes a list. -/
theorem entries_kept (list : Listing) (h : ∀ n given, a = list.resolve n given →
      s.loads[n]? ≠ some ⟨list.question, .running⟩) :
    list.entries (s.step a).controller.snapshot = list.entries s.controller.snapshot := by
  rw [step_controller]
  by_cases hanswer : ∃ n given, s.turn a = .answerCatalog list n given
  · obtain ⟨n, given, ht⟩ := hanswer
    have ha : a = list.resolve n given := turn_action (by rw [ht]; rfl)
    rw [ht, take]
    rcases answerCatalog_cases s list n given with he | ⟨hl, -⟩
    · rw [he]
    · exact absurd hl (h n given ha)
  · exact (spares_take s _).entries list fun n given ht => hanswer ⟨n, given, ht⟩

/-- The answer finishes its load, and the list is taken over if the sub-form is up. -/
theorem entries_answered (s : Session) (list : Listing) (n : Nat)
    (given : Except ProviderError (List list.Entry))
    (h : s.loads[n]? = some ⟨list.question, .running⟩) :
    (s.step (list.resolve n given)).loads[n]? = some ⟨list.question, .finished⟩ ∧
      list.entries (s.step (list.resolve n given)).controller.snapshot =
        if s.controller.tornDown then list.entries s.controller.snapshot
        else taken given (list.entries s.controller.snapshot) := by
  have hfinished := getElem?_finish h
  have htorn : (s.setStage n .finished).controller.tornDown = s.controller.tornDown := rfl
  rw [step_resolve, answerCatalog, if_pos h]
  simp only [htorn]
  -- after a tear-down the answer is not taken
  cases s.controller.tornDown with
  | true => exact ⟨hfinished, rfl⟩
  | false =>
    cases given with
    | ok entries => exact ⟨hfinished, Listing.entries_install _ _⟩
    | error _ => exact ⟨hfinished, rfl⟩

end Session

namespace Listing

variable (list : Listing) {s s₀ : Session} {a : Action} {as : List Action} {n m : Nat}

/-! ## The load of a list -/

/-- The list that is shown. -/
def shown (s : Session) : List list.Entry := list.entries s.controller.snapshot

/-- The load that asks the provider for the list in a step. -/
def callOf? (s : Session) : Action → Option Nat
  | .start n => if s.loads[n]? = some ⟨list.question, .queued⟩ then some n else none
  | _ => none

/-- The loads that have asked the provider for the list in a run. -/
def callsOf (s : Session) (as : List Action) : List Nat := s.collect list.callOf? as

/-- The step brings the answer to the load of the list. -/
def Resolves (s : Session) (a : Action) (given : Except ProviderError (List list.Entry)) : Prop :=
  ∃ n, a = list.resolve n given ∧ s.loads[n]? = some ⟨list.question, .running⟩

/-- The provider does not answer in the step. -/
def Silent (s : Session) (a : Action) : Prop := ∀ given, ¬ list.Resolves s a given

/-- The load of the list has been started, or it will not be. -/
def Begun (s : Session) : Prop :=
  ∃ (n : Nat) (stage : Stage), s.loads[n]? = some ⟨list.question, stage⟩ ∧ stage ≠ .queued

/-- The load of the list has ended with an answer. -/
def Finished (s : Session) : Prop := ∃ n : Nat, s.loads[n]? = some ⟨list.question, .finished⟩

variable {list}

/-- A load that has been started is never put back. -/
theorem Begun.step (h : list.Begun s) (a : Action) : list.Begun (s.step a) := by
  obtain ⟨n, stage, hl, hstage⟩ := h
  obtain ⟨stage', hl', hadvance⟩ := Session.advance_step hl a
  refine ⟨n, stage', hl', ?_⟩
  cases hadvance with
  | kept => exact hstage
  | aborted => cases stage <;> simp_all [Stage.abort]
  | started => simp
  | answered => simp
  | dropped => simp

/-- A list that was answered stays answered. -/
theorem Finished.step (h : list.Finished s) (a : Action) : list.Finished (s.step a) := by
  obtain ⟨n, hl⟩ := h
  obtain ⟨stage', hl', hadvance⟩ := Session.advance_step hl a
  cases hadvance with
  | kept => exact ⟨n, hl'⟩
  | aborted => exact ⟨n, hl'⟩

theorem finished_run (h : list.Finished s) (as : List Action) : list.Finished (s.run as) := by
  induction as generalizing s with
  | nil => exact h
  | cons a as ih => exact ih (h.step a)

/-- Only an answer changes the list shown. -/
theorem shown_silent (h : list.Silent s a) : list.shown (s.step a) = list.shown s :=
  Session.entries_kept list fun n given ha hl => h given ⟨n, ha, hl⟩

theorem shown_run (h : s.Always as list.Silent) : list.shown (s.run as) = list.shown s := by
  induction as generalizing s with
  | nil => rfl
  | cons a as ih =>
    obtain ⟨ha, has⟩ := Session.always_cons.mp h
    rw [Session.run_cons, ih has, shown_silent ha]

/-- Who asks the provider has its load queued. -/
theorem queued_of_call (h : list.callOf? s a = some n) :
    a = .start n ∧ s.loads[n]? = some ⟨list.question, .queued⟩ := by
  unfold callOf? at h
  split at h
  · split at h
    · cases h
      exact ⟨rfl, by assumption⟩
    · cases h
  · cases h

/-- A load that has been started is not started again, and there is no other one. -/
theorem callOf_begun (hd : Session.Distinct s) (h : list.Begun s) (a : Action) :
    list.callOf? s a = none := by
  cases hcall : list.callOf? s a with
  | none => rfl
  | some m =>
    obtain ⟨n, stage, hl, hstage⟩ := h
    obtain ⟨-, hm⟩ := queued_of_call hcall
    obtain rfl := hd.eq (asks_of_getElem? hl) (asks_of_getElem? hm)
    rw [hl] at hm
    cases hm
    exact absurd rfl hstage

/-- After the answer to a list there is no other. -/
theorem Finished.silent (h : list.Finished s) (hd : Session.Distinct s) (a : Action) :
    list.Silent s a := by
  rintro given ⟨m, -, hm⟩
  obtain ⟨n, hl⟩ := h
  obtain rfl := hd.eq (asks_of_getElem? hl) (asks_of_getElem? hm)
  rw [hl] at hm
  cases hm

theorem Finished.begun (h : list.Finished s) : list.Begun s := by
  obtain ⟨n, hl⟩ := h
  exact ⟨n, .finished, hl, by simp⟩

/-- Once the load of the list is finished, nothing more comes of it. -/
theorem quiet_of_finished (hd : Session.Distinct s) (hcoh : Session.Coherent s)
    (h : list.Finished s) (as : List Action) :
    list.callsOf s as = [] ∧ s.Always as list.Silent := by
  induction as generalizing s with
  | nil => exact ⟨rfl, Session.always_nil⟩
  | cons a as ih =>
    obtain ⟨hcalls, hsilent⟩ := ih (hd.step hcoh a) (Session.coherent_step hcoh a) (h.step a)
    refine ⟨?_, Session.always_cons.mpr ⟨h.silent hd a, hsilent⟩⟩
    unfold callsOf at hcalls ⊢
    rw [Session.collect, callOf_begun hd h.begun a, hcalls]
    rfl

/-- The provider is asked once at most, and then the load is begun. -/
theorem calls_run (hd : Session.Distinct s) (hcoh : Session.Coherent s) (as : List Action) :
    list.callsOf s as = [] ∨ (list.callsOf s as).length = 1 ∧ list.Begun (s.run as) := by
  induction as using List.reverseRecOn with
  | nil => exact .inl rfl
  | append_singleton as a ih =>
    have hconcat : list.callsOf s (as ++ [a]) =
        list.callsOf s as ++ (list.callOf? (s.run as) a).toList := Session.collect_concat
    rw [hconcat, Session.run_concat]
    -- either nothing has been called yet, or the load has begun and cannot do so again
    rcases ih with hnone | ⟨hone, hbegun⟩
    · rw [hnone]
      cases hcall : list.callOf? (s.run as) a with
      | none => exact .inl rfl
      | some n =>
        obtain ⟨rfl, hl⟩ := queued_of_call hcall
        exact .inr ⟨rfl, n, .running, (Session.running_start ⟨.queued, hl, rfl⟩).1, by simp⟩
    · rw [callOf_begun (Session.distinct_run hd hcoh as) hbegun a]
      exact .inr ⟨by simpa using hone, hbegun.step a⟩

/-! ## Runs -/

variable (list)

/-- What becomes of a list in a run. -/
structure LoadedOnce (s₀ : Session) (as : List Action) : Prop where
  called : (list.callsOf s₀ as).length ≤ 1
  empty : s₀.Always as list.Silent → list.shown (s₀.run as) = []
  /-- From the answer on, the list is what was answered, if the sub-form was up then; the provider
  is not asked again, and it does not answer again. -/
  loaded : ∀ xs a ys given, as = xs ++ a :: ys → list.Resolves (s₀.run xs) a given →
    list.shown (s₀.run as) = (if (s₀.run xs).controller.tornDown then [] else taken given []) ∧
      list.callsOf (s₀.run (xs ++ [a])) ys = [] ∧ (s₀.run (xs ++ [a])).Always ys list.Silent

/-- **A list is asked for once at most, and is what was answered, from then on.** -/
theorem loadedOnce_run (form : Form) (context : Context) (policy : StalePolicy)
    (as : List Action) : list.LoadedOnce (.mount form context policy) as := by
  have hd : Session.Distinct (.mount form context policy) :=
    Session.distinct_mount form context policy
  have hcoh : Session.Coherent (.mount form context policy) :=
    Session.coherent_mount form context policy
  refine ⟨?_, fun h => (shown_run h).trans list.entries_empty, fun xs a ys given has hr => ?_⟩
  · have hcalls : list.callsOf (.mount form context policy) as = [] ∨ _ := calls_run hd hcoh as
    rcases hcalls with hnone | ⟨hone, -⟩
    · rw [hnone]
      exact Nat.zero_le 1
    · exact Nat.le_of_eq hone
  · obtain ⟨n, rfl, hl⟩ := hr
    generalize hs : (Session.mount form context policy).run xs = s at hl ⊢
    have hds : Session.Distinct s := hs ▸ Session.distinct_run hd hcoh xs
    -- there was no answer before, for the load would have been finished
    have hbefore : (Session.mount form context policy).Always xs list.Silent := by
      rintro us b vs rfl given' ⟨m, rfl, hm⟩
      have hfinished : list.Finished s := by
        rw [← hs, Session.run_append, Session.run_cons]
        exact finished_run ⟨m, (Session.entries_answered _ list m given' hm).1⟩ vs
      exact hfinished.silent hds (list.resolve n given) given ⟨n, rfl, hl⟩
    have hlist : list.shown s = [] := by
      rw [← hs, shown_run hbefore]
      exact list.entries_empty
    obtain ⟨hload, hshown⟩ := Session.entries_answered s list n given hl
    have hfinished : list.Finished (s.step (list.resolve n given)) := ⟨n, hload⟩
    have hcohs : Session.Coherent s := hs ▸ Session.coherent_run hcoh xs
    have hquiet := quiet_of_finished (hds.step hcohs _) (Session.coherent_step hcohs _) hfinished ys
    have hafter : (Session.mount form context policy).run (xs ++ [list.resolve n given]) =
        s.step (list.resolve n given) := by rw [Session.run_concat, hs]
    rw [hafter, has, Session.run_append, hs, Session.run_cons, shown_run hquiet.2]
    refine ⟨?_, hquiet⟩
    unfold shown at hlist ⊢
    rw [hshown, hlist]

end Listing

end LivePatching
