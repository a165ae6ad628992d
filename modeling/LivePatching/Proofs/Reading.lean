import LivePatching.Proofs.Record

/-!
# What a sub-form has read

* `Reads`: the inputs of the controller are a template and the identifiers in a model.
* `reads_observed`: **who observes has read**, whether or not anything is derived.
* `inputs_suspended`, `inputs_untold`: who suspends forgets the inputs, and who is told
  nothing of the template keeps them.
-/

namespace LivePatching

/-- The inputs are the template and the identifiers in the model. -/
def Session.Reads (s : Session) (t : Template) (m : Nat) : Prop :=
  ∃ i, s.controller.inputs = some i ∧ i.template = t ∧
    i.clientId = (s.form.model m).id .clientId ∧ i.productId = (s.form.model m).id .productId

/-- Inputs count as the same when nothing that matters differs. -/
theorem Inputs.same_iff {i j : Inputs} : i.same j = true ↔ i.template = j.template ∧
    i.clientId = j.clientId ∧ i.productId = j.productId ∧ i.context.writes = j.context.writes := by
  simp [same, Context.sameWriter, and_assoc]

namespace Session

variable {s : Session} {a : Action} {i : Inputs} {t : Template} {c : Context} {m : Nat}

/-- Who tells the controller a template makes an observation. -/
theorem observed_of_told (h : (s.turn a).told = some (some t)) :
    ∃ i, (s.turn a).observed = some i ∧ i.template = t := by
  cases ht : s.turn a with
  | observe i => rw [ht] at h; cases h; exact ⟨i, rfl, rfl⟩
  | render i => rw [ht] at h; cases h; exact ⟨i, rfl, rfl⟩
  | _ => rw [ht] at h; cases h

theorem told_of_observed {t : Turn} (h : t.observed = some i) :
    t.told = some (some i.template) := by
  cases t with
  | observe j => cases h; rfl
  | render j => cases h; rfl
  | _ => cases h

/-- The inputs after an observation: those observed, or the ones before, if they are the same. -/
theorem inputs_observed (hi : (s.turn a).observed = some i)
    (hup : (s.step a).controller.tornDown = false) :
    (s.step a).controller.inputs = some i ∨
      ∃ j, s.controller.inputs = some j ∧ (s.step a).controller.inputs = some j ∧
        j.same i = true := by
  -- inputs that are the same are not taken over, so those held may differ from them
  cases hu : s.unmoved i with
  | false =>
    obtain ⟨place, hd⟩ := step_derived hi hu
    exact .inl hd.inputs
  | true =>
    obtain ⟨bus, settlings, drives, holders, he⟩ := step_eq s a
    have hq := (take_unmoved hi hu).1
    have hinputs : (s.step a).controller.inputs = s.controller.inputs := by
      rw [he, withBooks_controller, hq.inputs]
    simp only [unmoved, up_of_step hup, Bool.false_or, Option.any_eq_true] at hu
    obtain ⟨j, hj, hsame⟩ := hu
    exact .inr ⟨j, hj, hinputs.trans hj, hsame⟩

/-- **Who observes has read.** -/
theorem reads_observed (hi : (s.turn a).observed = some (.read s.form t c))
    (hup : (s.step a).controller.tornDown = false) : (s.step a).Reads t c.reads := by
  have hid : ∀ {g : Field}, g ≠ .kernelId →
      ((s.step a).form.model c.reads).id g = (s.form.model c.reads).id g := by
    intro g hg
    rw [id_step_of_ne s a _ hg, own_of_observed _ hi]
  unfold Reads
  rw [hid (by decide), hid (by decide)]
  -- the inputs before stand for those observed where they agree
  rcases inputs_observed hi hup with h | ⟨j, -, hj, hsame⟩
  · exact ⟨_, h, rfl, rfl, rfl⟩
  · obtain ⟨ht, hc, hp, -⟩ := Inputs.same_iff.mp hsame
    exact ⟨j, hj, ht, hc, hp⟩

/-- Who is told nothing of the template keeps the inputs. -/
theorem inputs_untold (h : (s.turn a).told = none) :
    (s.step a).controller.inputs = s.controller.inputs := by
  cases step_kernels s a with
  | quiet _ hq _ => exact hq.inputs
  | derived i place ht _ => rw [told_of_observed ht] at h; cases h
  | suspended ht _ => rw [ht] at h; cases h
  | tornDown _ hd => exact hd.inputs
  | stale load answer key x _ ha => exact ha.inputs
  | forgotten load answer key x _ ha => exact ha.inputs
  | installed load kernels key x i _ ha => exact ha.inputs
  | refused load e key x i _ ha => exact ha.inputs

/-- Who suspends forgets the inputs. -/
theorem inputs_suspended (ht : s.turn a = .suspend) (hup : (s.step a).controller.tornDown = false) :
    (s.step a).controller.inputs = none := by
  have hup := up_of_step hup
  rw [step_controller, ht, take]
  rcases suspend_cases s with ⟨h, hi⟩ | ⟨-, -, _, _, -, h⟩
  · rw [h]
    exact hi.resolve_left (by rw [hup]; simp)
  · rw [h]

/-- What was read stays so while the identifiers do. -/
theorem Reads.kept (h : s.Reads t m) (hi : (s.step a).controller.inputs = s.controller.inputs)
    (hc : ((s.step a).form.model m).id .clientId = (s.form.model m).id .clientId)
    (hp : ((s.step a).form.model m).id .productId = (s.form.model m).id .productId) :
    (s.step a).Reads t m := by
  unfold Reads
  rw [hi, hc, hp]
  exact h

end Session

end LivePatching
