import LivePatching.Proofs.Record

/-!
# Who wrote what

The form and the sub-form write to the same models. Every write of a run is on record, with its
author.

* `Session.written`: the writes of a run, in order.
* `written_form`, `written_subform`: the form writes by its own actions only, and the sub-form
  the kernel only.
* `form_written`: a turn makes the write of its step.
* `models_written`: **each model is what the writes to it have made of it.**
-/

namespace LivePatching

open Json

/-- Who writes to a model. -/
inductive Author where
  /-- The owner of the form. -/
  | form
  | subform
deriving DecidableEq, Repr, Inhabited

/-- A write as it reaches a model, with its author. -/
structure Written where
  author : Author
  model : Nat
  key : String
  value : Value

/-- The write that an action of the form is. -/
def Action.written? : Action → Option Written
  | .write model key value => some ⟨.form, model, key, value⟩
  | _ => none

/-- A write of the kernel as it reaches the model. -/
def KernelWrite.written (w : KernelWrite) : Written :=
  ⟨.subform, w.model, Field.kernelId.key, idValue w.id⟩

/-- The form after a write, if there is one. -/
def Form.enter (f : Form) : Option Written → Form
  | some w => f.write w.model w.key w.value
  | none => f

/-- The shared model after a write. -/
def SharedModel.take (m : SharedModel) (w : Written) : SharedModel := m.write w.key w.value

/-- A write reaches its model and no other. -/
theorem Form.getElem?_write (f : Form) (i j : Nat) (key : String) (value : Value) :
    (f.write i key value).models[j]? =
      (f.models[j]?).map fun m => if i = j then m.write key value else m := by
  cases h : f.models[i]? with
  | none =>
    have hw : f.write i key value = f := by unfold write; rw [h]
    rw [hw]
    by_cases hij : i = j
    · subst hij
      rw [h]
      rfl
    · simp [hij]
  | some m =>
    rw [models_write f h, List.getElem?_set]
    by_cases hij : i = j
    · subst hij
      rw [if_pos rfl, if_pos (List.getElem?_eq_some_iff.mp h).1, h]
      simp
    · simp [hij]

namespace Session

/-- The write that a step makes, by the form or by the sub-form. -/
def written? (s : Session) (a : Action) : Option Written :=
  a.written?.or ((s.kernelWrite? a).map KernelWrite.written)

/-- The writes of a run, those of the form and of the sub-form, in order. -/
def written (s : Session) (as : List Action) : List Written := s.collect written? as

variable {s : Session} {a : Action} {as bs : List Action} {w : Written}

theorem written_cons : s.written (a :: as) = (s.written? a).toList ++ (s.step a).written as := rfl

/-- While the form writes the sub-form does not. -/
theorem kernelWrite_write (s : Session) (model : Nat) (key : String) (value : Value) :
    s.kernelWrite? (.write model key value) = none :=
  kernelWrite_unasked rfl (by simp [turn, Unasked])

/-- A write of the form is recorded with the form as its author. -/
theorem written_of_action (h : a.written? = some w) :
    s.written? a = some w ∧ s.kernelWrite? a = none ∧ w.author = .form := by
  cases a with
  | write model key value =>
    cases h
    exact ⟨rfl, kernelWrite_write s model key value, rfl⟩
  | _ => cases h

theorem written_of_kernelWrite (h : a.written? = none) :
    s.written? a = (s.kernelWrite? a).map KernelWrite.written := by
  unfold written?
  rw [h, Option.none_or]

/-- **The form writes by its own actions only.** -/
theorem written_form (s : Session) (as : List Action) :
    (s.written as).filter (·.author == .form) = as.filterMap Action.written? := by
  induction as generalizing s with
  | nil => rfl
  | cons a as ih =>
    rw [written_cons, List.filter_append, ih, List.filterMap_cons]
    cases ha : a.written? with
    | some w =>
      obtain ⟨hw, -, hform⟩ := written_of_action (s := s) ha
      simp [hw, hform]
    | none =>
      rw [written_of_kernelWrite ha]
      cases s.kernelWrite? a with
      | none => rfl
      | some w => rfl

/-- **The sub-form writes the kernel only.** -/
theorem written_subform (s : Session) (as : List Action) :
    (s.written as).filter (·.author == .subform) = (s.kernelWrites as).map KernelWrite.written := by
  induction as generalizing s with
  | nil => rfl
  | cons a as ih =>
    rw [written_cons, List.filter_append, ih, kernelWrites, kernelWrites, collect, List.map_append]
    cases ha : a.written? with
    | some w =>
      obtain ⟨hw, hnone, hform⟩ := written_of_action (s := s) ha
      simp [hw, hnone, hform]
    | none =>
      rw [written_of_kernelWrite ha]
      cases s.kernelWrite? a with
      | none => rfl
      | some w => rfl

/-- Every write recorded with the sub-form as its author is one of its kernel writes. -/
theorem kernelWrite_of_subform (hw : w ∈ s.written as) (h : w.author = .subform) :
    ∃ v ∈ s.kernelWrites as, v.written = w := by
  have hsub : w ∈ (s.written as).filter (·.author == .subform) :=
    List.mem_filter.mpr ⟨hw, by simp [h]⟩
  rw [written_subform] at hsub
  exact List.mem_map.mp hsub

/-- A turn makes the write of its step. -/
theorem form_written (s : Session) (a : Action) :
    (s.take (s.turn a)).form = s.form.enter (s.written? a) := by
  rw [form_taken]
  -- a step writes as the form or as the sub-form, never as both
  cases ha : a.written? with
  | some w =>
    obtain ⟨hw, hnone, -⟩ := written_of_action (s := s) ha
    rw [hw, hnone]
    cases a with
    | write model key value => cases ha; rfl
    | _ => cases ha
  | none =>
    have hown : s.form.own (s.turn a) = s.form := by
      cases ht : s.turn a with
      | write model key value =>
        have hact : a = .write model key value := turn_action (by rw [ht]; rfl)
        rw [hact] at ha
        cases ha
      | _ => rfl
    rw [hown, written_of_kernelWrite ha]
    cases s.kernelWrite? a <;> rfl

/-- A step changes the models by the write that is recorded for it. -/
theorem models_enter (s : Session) (a : Action) :
    (s.step a).form.models = (s.form.enter (s.written? a)).models := by
  obtain ⟨bus, settlings, drives, holders, he⟩ := step_eq s a
  rw [he, withBooks_models, form_written]

theorem getElem?_step (s : Session) (a : Action) (j : Nat) :
    (s.step a).form.models[j]? = (s.form.models[j]?).map fun m =>
      ((s.written? a).toList.filter (·.model == j)).foldl SharedModel.take m := by
  rw [models_enter]
  cases s.written? a with
  | none => simp [Form.enter]
  | some w =>
    rw [Form.enter, Form.getElem?_write]
    by_cases hw : w.model = j <;> simp [hw, SharedModel.take]

/-- **Each model is what the writes to it have made of it.** -/
theorem models_written (s : Session) (as : List Action) (j : Nat) :
    (s.run as).form.models[j]? = (s.form.models[j]?).map fun m =>
      ((s.written as).filter (·.model == j)).foldl SharedModel.take m := by
  induction as generalizing s with
  | nil => simp [written, collect]
  | cons a as ih =>
    rw [run_cons, ih, getElem?_step, Option.map_map, written_cons, List.filter_append]
    simp only [List.foldl_append]
    rfl

end Session

end LivePatching
