import Mathlib.Tactic.Common
import Mathlib.Data.List.Induction
import LivePatching.Subform.Action

/-!
# What happened in a run

* `Session.Always`: a property of every step of a run.
* `Session.Since`: something happened in a run, and from then on every step has kept something.
* `since_concat`: **the last step decides**: it is what happened, or it keeps what was kept.
* `Session.collect`: what the steps of a run yield.
-/

namespace LivePatching.Session

/-- Every step of the run has the property. -/
def Always (s : Session) (as : List Action) (p : Session → Action → Prop) : Prop :=
  ∀ xs a ys, as = xs ++ a :: ys → p (s.run xs) a

/-- A step of the run is one that `happens`, and all steps after it are ones that `keeps`. -/
def Since (s : Session) (as : List Action) (happens keeps : Session → Action → Prop) : Prop :=
  ∃ xs a ys, as = xs ++ a :: ys ∧ happens (s.run xs) a ∧ ((s.run xs).step a).Always ys keeps

variable {s : Session} {as bs : List Action} {a : Action}
  {p happens keeps : Session → Action → Prop}

/-- A run with one more action. -/
theorem run_concat (s : Session) (as : List Action) (a : Action) :
    s.run (as ++ [a]) = (s.run as).step a := run_append s as [a]

theorem always_nil : s.Always [] p := by
  intro xs a ys h
  exact absurd (congrArg List.length h) (by simp)

/-- What always holds holds of the first step and of all others. -/
theorem always_cons : s.Always (a :: as) p ↔ p s a ∧ (s.step a).Always as p := by
  constructor
  · intro h
    refine ⟨h [] a as rfl, fun xs b ys he => ?_⟩
    exact h (a :: xs) b ys (by rw [he]; rfl)
  · rintro ⟨ha, h⟩ xs b ys he
    cases xs with
    | nil => cases he; exact ha
    | cons x xs =>
      obtain ⟨rfl, hrest⟩ := List.cons.inj he
      exact h xs b ys hrest

instance decidableAlways [∀ s a, Decidable (p s a)] :
    ∀ (s : Session) (as : List Action), Decidable (s.Always as p)
  | _, [] => .isTrue always_nil
  | s, a :: as =>
    have := decidableAlways (s.step a) as
    decidable_of_iff (p s a ∧ (s.step a).Always as p) always_cons.symm

theorem always_append : s.Always (as ++ bs) p ↔ s.Always as p ∧ (s.run as).Always bs p := by
  induction as generalizing s with
  | nil => simp [always_nil]
  | cons a as ih => rw [List.cons_append, always_cons, always_cons, ih, and_assoc, run_cons]

/-- What always holds holds of the last step and of all others. -/
theorem always_concat : s.Always (as ++ [a]) p ↔ s.Always as p ∧ p (s.run as) a := by
  rw [always_append, always_cons]
  simp [always_nil]

theorem not_since_nil : ¬ s.Since [] happens keeps := by
  rintro ⟨xs, a, ys, h, -⟩
  exact absurd (congrArg List.length h) (by simp)

/-- Something has happened since if it happens now, or had happened and is kept. -/
theorem since_concat : s.Since (as ++ [a]) happens keeps ↔
    happens (s.run as) a ∨ s.Since as happens keeps ∧ keeps (s.run as) a := by
  constructor
  · rintro ⟨xs, b, ys, he, hb, hys⟩
    -- the step that happened is the last one, or the last one comes after it
    rcases List.eq_nil_or_concat ys with rfl | ⟨ys, c, rfl⟩
    · obtain ⟨rfl, hlast⟩ := List.append_inj' he rfl
      cases hlast
      exact .inl hb
    · rw [List.concat_eq_append] at he hys
      rw [← List.cons_append, ← List.append_assoc] at he
      obtain ⟨rfl, hlast⟩ := List.append_inj' he rfl
      cases hlast
      rw [always_concat] at hys
      refine .inr ⟨⟨xs, b, ys, rfl, hb, hys.1⟩, ?_⟩
      rw [run_append]
      exact hys.2
  · rintro (h | ⟨⟨xs, b, ys, rfl, hb, hys⟩, ha⟩)
    · exact ⟨as, a, [], rfl, h, always_nil⟩
    · refine ⟨xs, b, ys ++ [a], by simp, hb, always_concat.mpr ⟨hys, ?_⟩⟩
      rw [run_append] at ha
      exact ha

/-- What the steps of a run yield, in order. -/
def collect {α : Type} (s : Session) (f : Session → Action → Option α) : List Action → List α
  | [] => []
  | a :: as => (f s a).toList ++ (s.step a).collect f as

theorem collect_append {α : Type} {f : Session → Action → Option α} :
    s.collect f (as ++ bs) = s.collect f as ++ (s.run as).collect f bs := by
  induction as generalizing s with
  | nil => rfl
  | cons a as ih => rw [List.cons_append, collect, collect, ih, List.append_assoc, run_cons]

/-- What is collected in a run with one more action. -/
theorem collect_concat {α : Type} {f : Session → Action → Option α} :
    s.collect f (as ++ [a]) = s.collect f as ++ (f (s.run as) a).toList := by
  rw [collect_append, collect, collect, List.append_nil]

/-- What is yielded is yielded by some step. -/
theorem mem_collect {α : Type} {f : Session → Action → Option α} {x : α} :
    x ∈ s.collect f as ↔ ∃ us b vs, as = us ++ b :: vs ∧ f (s.run us) b = some x := by
  constructor
  · intro h
    induction as generalizing s with
    | nil => exact absurd h List.not_mem_nil
    | cons a as ih =>
      rcases List.mem_append.mp h with h | h
      · exact ⟨[], a, as, rfl, Option.mem_toList.mp h⟩
      · obtain ⟨us, b, vs, rfl, hb⟩ := ih h
        exact ⟨a :: us, b, vs, rfl, hb⟩
  · rintro ⟨us, b, vs, rfl, hb⟩
    rw [collect_append, collect, hb]
    exact List.mem_append_right _ (List.mem_append_left _ (Option.mem_toList.mpr rfl))

/-- What is yielded first is yielded by some step; the steps before it yield nothing. -/
theorem collect_eq_cons {α : Type} {f : Session → Action → Option α} {x : α} {xs : List α}
    (h : s.collect f as = x :: xs) : ∃ us b vs, as = us ++ b :: vs ∧ s.collect f us = [] ∧
      f (s.run us) b = some x ∧ ((s.run us).step b).collect f vs = xs := by
  induction as generalizing s with
  | nil => cases h
  | cons a as ih =>
    rw [collect] at h
    cases hf : f s a with
    | some y =>
      rw [hf] at h
      obtain ⟨rfl, hrest⟩ := List.cons.inj h
      exact ⟨[], a, as, rfl, rfl, hf, hrest⟩
    | none =>
      rw [hf] at h
      obtain ⟨us, b, vs, rfl, hnone, hb, hrest⟩ := ih h
      refine ⟨a :: us, b, vs, rfl, ?_, hb, hrest⟩
      rw [collect, hf, hnone]
      rfl

end LivePatching.Session
