import LivePatching.Proofs.FirstKernel
import LivePatching.Proofs.History
import LivePatching.Proofs.KernelStep
import LivePatching.Proofs.Write

/-!
# What a run leaves on record

* `Session.derivations`, `Session.suspensions`: the derivations of a run, each with its key and its
  inputs, and the number of suspensions that had something to forget.
* `Session.kernelWrites`: the writes of the sub-form, each with the key of its derivation.
* `kernelWrite_cases`: such a write comes with a derivation that has no scope, or with the answer of
  the load that has the current key.
* `form_taken`: **a turn writes to the form what is on record, and nothing else.**
* `models_step`: so the models change by the writes of the form and by these, and by no others.
-/

namespace LivePatching

/-- The key as it is held: the generation is a machine word. -/
def RequestKey.word (k : RequestKey) : UInt64 × Option Scope := (UInt64.ofNat k.generation, k.scope)

/-- One derivation of the list of kernels. -/
structure Derivation where
  key : RequestKey
  inputs : Inputs
deriving DecidableEq, Repr, Inhabited

/-- One write of the sub-form: for which derivation, to which model, and which kernel. -/
structure KernelWrite where
  key : RequestKey
  model : Nat
  id : Option EntityId
deriving DecidableEq, Repr, Inhabited

/-- The form after a write of the sub-form, if there is one. -/
def Form.put (f : Form) : Option KernelWrite → Form
  | some w => f.write w.model Field.kernelId.key (idValue w.id)
  | none => f

/-- To write the kernel is to make the write on record. -/
theorem Form.writeKernelId_eq_put (f : Form) (c : Context) (key : RequestKey)
    (id : Option EntityId) :
    f.writeKernelId c id = f.put (c.writes.map fun model => ⟨key, model, id⟩) := by
  unfold writeKernelId put
  cases c.writes <;> rfl

theorem Form.length_put (f : Form) (o : Option KernelWrite) :
    (f.put o).models.length = f.models.length := by
  cases o with
  | none => rfl
  | some w => exact length_write f _ _ _

theorem Form.length_own (f : Form) (t : Turn) : (f.own t).models.length = f.models.length := by
  cases t with
  | write i key value => exact length_write f i key value
  | _ => rfl

/-- The sub-form leaves all fields but the kernel alone, in every model. -/
theorem Form.id_put_of_ne (f : Form) (o : Option KernelWrite) (j : Nat) {g : Field}
    (hg : g ≠ .kernelId) : ((f.put o).model j).id g = (f.model j).id g := by
  cases o with
  | none => rfl
  | some w => exact id_write_of_ne f (fun h => hg (Field.key_injective h.2).symm) _

/-- A write goes to the model that may be written. -/
theorem Context.write_eq_some {c : Context} {key : RequestKey} {id : Option EntityId}
    {w : KernelWrite} (h : (c.writes.map fun model => KernelWrite.mk key model id) = some w) :
    w.key = key ∧ c.writes = some w.model := by
  obtain ⟨model, hm, rfl⟩ := Option.map_eq_some_iff.mp h
  exact ⟨rfl, hm⟩

namespace Session

/-- The derivation that a step makes: an observation of new inputs, with the key it leaves. -/
def derivation? (s : Session) (a : Action) : Option Derivation :=
  match (s.turn a).observed with
  | none => none
  | some i =>
    if s.unmoved i then none else (s.step a).controller.current.map fun key => ⟨key, i⟩

/-- Whether a step suspends the controller while there is something to forget. -/
def suspension? (s : Session) (a : Action) : Option Unit :=
  match s.turn a with
  | .suspend => if s.controller.tornDown || s.controller.inputs.isNone then none else some ()
  | _ => none

/-- The write that an answer of a load of kernels leads to. -/
def answerWrite? (s : Session) (load : Nat) (answer : Except ProviderError (List Kernel)) :
    Option KernelWrite :=
  match s.loads[load]?, s.controller.inputs with
  | some ⟨.kernels key _, .running⟩, some i =>
    if s.controller.tornDown || s.controller.current != some key then none
    else
      match answer with
      | .ok kernels =>
        i.context.writes.map fun model => ⟨key, model, (firstKernel kernels).map (·.id)⟩
      | .error _ =>
        if ((s.form.model i.context.reads).id .kernelId).isSome then
          i.context.writes.map fun model => ⟨key, model, none⟩
        else none
  | _, _ => none

/-- The write of the sub-form that a step makes: a derivation without a scope clears the kernel at
once, and one with a scope when its load answers. -/
def kernelWrite? (s : Session) (a : Action) : Option KernelWrite :=
  match s.derivation? a, s.turn a with
  | some d, _ =>
    if d.inputs.scope = none then d.inputs.context.writes.map fun model => ⟨d.key, model, none⟩
    else none
  | none, .answerKernels load answer => s.answerWrite? load answer
  | none, _ => none

/-- The derivations of a run, in order. -/
def derivations (s : Session) (as : List Action) : List Derivation := s.collect derivation? as

/-- The number of suspensions of a run. -/
def suspensions (s : Session) (as : List Action) : Nat := (s.collect suspension? as).length

/-- The writes of the sub-form in a run, in order. -/
def kernelWrites (s : Session) (as : List Action) : List KernelWrite := s.collect kernelWrite? as

variable {s : Session} {a : Action} {i : Inputs} {place : Nat}

/-- The derivation on record is the one that took place. -/
theorem derivation_derived (hi : (s.turn a).observed = some i)
    (hd : Derived s (s.step a) i place) :
    s.derivation? a = some ⟨⟨s.controller.generation + 1, i.scope⟩, i⟩ := by
  simp [derivation?, hi, hd.moved, hd.current]

/-- A derivation on record took place. -/
theorem derived_of_derivation (h : s.derivation? a ≠ none) :
    ∃ i place, (s.turn a).observed = some i ∧ Derived s (s.step a) i place := by
  unfold derivation? at h
  cases hi : (s.turn a).observed with
  | none => exact absurd (by rw [hi]) h
  | some i =>
    cases hu : s.unmoved i with
    | true => exact absurd (by simp [hi, hu]) h
    | false =>
      obtain ⟨place, hd⟩ := step_derived hi hu
      exact ⟨i, place, rfl, hd⟩

/-- A step that derives or suspends begins a generation. -/
theorem unrecorded (hg : (s.step a).controller.generation = s.controller.generation) :
    s.derivation? a = none ∧ s.suspension? a = none := by
  constructor
  · -- a derivation has a generation of its own
    by_contra h
    obtain ⟨i, place, -, hd⟩ := derived_of_derivation h
    exact absurd (hd.generation.symm.trans hg) (by omega)
  · cases ht : s.turn a with
    | suspend =>
      rcases suspend_cases s with ⟨-, h | h⟩ | ⟨-, -, loads, background, -, h⟩
      · simp [suspension?, ht, h]
      · simp [suspension?, ht, h]
      · rw [step_controller, ht, take, h] at hg
        exact absurd hg (by simp)
    | _ => simp [suspension?, ht]

theorem suspension_suspended (ht : s.turn a = .suspend) (hs : Suspended s (s.step a)) :
    s.derivation? a = none ∧ s.suspension? a = some () := by
  have := hs.derived
  simp [derivation?, suspension?, ht, Turn.observed, hs.up, this]

theorem suspension_derived (hi : (s.turn a).observed = some i) : s.suspension? a = none := by
  cases ht : s.turn a with
  | suspend => rw [ht] at hi; cases hi
  | _ => simp [suspension?, ht]

section KernelWrite

variable {load : Nat} {key : RequestKey} {x : Scope}

/-- A step that neither derives nor answers a kernel load writes nothing. -/
theorem kernelWrite_unasked (hd : s.derivation? a = none) (hu : s.Unasked (s.turn a)) :
    s.kernelWrite? a = none := by
  unfold kernelWrite?
  rw [hd]
  cases ht : s.turn a with
  | answerKernels load answer =>
    show s.answerWrite? load answer = none
    unfold answerWrite?
    split
    · rename_i key x i hl _
      exact absurd hl (hu load answer key x ht)
    · rfl
  | _ => rfl

/-- A derivation writes when there is no scope. -/
theorem kernelWrite_derived (hi : (s.turn a).observed = some i)
    (hd : Derived s (s.step a) i place) :
    s.kernelWrite? a =
      if i.scope = none then
        i.context.writes.map fun model => ⟨⟨s.controller.generation + 1, i.scope⟩, model, none⟩
      else none := by
  unfold kernelWrite?
  rw [derivation_derived hi hd]

/-- An answer to a load of kernels makes the write that it leads to. -/
theorem kernelWrite_answered {answer : Except ProviderError (List Kernel)}
    (ht : s.turn a = .answerKernels load answer) (ha : Answered s (s.step a) load key x) :
    s.kernelWrite? a = s.answerWrite? load answer := by
  unfold kernelWrite?
  rw [(unrecorded ha.generation).1, ht]

/-- A stale answer writes nothing. -/
theorem kernelWrite_stale {answer : Except ProviderError (List Kernel)}
    (ht : s.turn a = .answerKernels load answer) (ha : Answered s (s.step a) load key x)
    (hs : s.controller.tornDown = true ∨ s.controller.current ≠ some key) :
    s.kernelWrite? a = none := by
  rw [kernelWrite_answered ht ha]
  unfold answerWrite?
  rw [ha.running]
  cases s.controller.inputs with
  | none => rfl
  | some i => exact if_pos (by simpa using hs)

theorem kernelWrite_forgotten {answer : Except ProviderError (List Kernel)}
    (ht : s.turn a = .answerKernels load answer) (ha : Answered s (s.step a) load key x)
    (hi : s.controller.inputs = none) : s.kernelWrite? a = none := by
  rw [kernelWrite_answered ht ha]
  unfold answerWrite?
  rw [ha.running, hi]

/-- A list that is installed has its default kernel written. -/
theorem kernelWrite_installed {kernels : List Kernel}
    (ht : s.turn a = .answerKernels load (.ok kernels)) (ha : Answered s (s.step a) load key x)
    (hup : s.controller.tornDown = false) (hk : s.controller.current = some key)
    (hi : s.controller.inputs = some i) :
    s.kernelWrite? a =
      i.context.writes.map fun model => ⟨key, model, (firstKernel kernels).map (·.id)⟩ := by
  rw [kernelWrite_answered ht ha]
  unfold answerWrite?
  rw [ha.running, hi]
  exact if_neg (by simp [hup, hk])

/-- A failed load clears the kernel if there is one. -/
theorem kernelWrite_refused {e : ProviderError}
    (ht : s.turn a = .answerKernels load (.error e)) (ha : Answered s (s.step a) load key x)
    (hup : s.controller.tornDown = false) (hk : s.controller.current = some key)
    (hi : s.controller.inputs = some i) :
    s.kernelWrite? a =
      if ((s.form.model i.context.reads).id .kernelId).isSome then
        i.context.writes.map fun model => ⟨key, model, none⟩
      else none := by
  rw [kernelWrite_answered ht ha]
  unfold answerWrite?
  rw [ha.running, hi]
  exact if_neg (by simp [hup, hk])

/-- How a write of the sub-form comes about: with a derivation that has no scope, or with the
answer of the load that has the current key. -/
inductive WritesKernel (s : Session) (a : Action) : KernelWrite → Prop where
  | derived (i : Inputs) (place model : Nat) : (s.turn a).observed = some i →
      Derived s (s.step a) i place → i.scope = none → i.context.writes = some model →
      WritesKernel s a ⟨⟨s.controller.generation + 1, i.scope⟩, model, none⟩
  | installed (load : Nat) (kernels : List Kernel) (key : RequestKey) (x : Scope) (i : Inputs)
      (model : Nat) : s.turn a = .answerKernels load (.ok kernels) →
      Answered s (s.step a) load key x → s.controller.tornDown = false →
      s.controller.current = some key → i.context.writes = some model →
      WritesKernel s a ⟨key, model, (firstKernel kernels).map (·.id)⟩
  | refused (load : Nat) (e : ProviderError) (key : RequestKey) (x : Scope) (i : Inputs)
      (model : Nat) : s.turn a = .answerKernels load (.error e) →
      Answered s (s.step a) load key x → s.controller.tornDown = false →
      s.controller.current = some key → i.context.writes = some model →
      WritesKernel s a ⟨key, model, none⟩

/-- **There is no other write of the sub-form.** -/
theorem kernelWrite_cases {w : KernelWrite} (hw : s.kernelWrite? a = some w) :
    WritesKernel s a w := by
  have hsome : s.kernelWrite? a ≠ none := by rw [hw]; simp
  -- of all that a step can do to the list of kernels, three things may write
  cases step_kernels s a with
  | quiet hu hq _ => exact absurd (kernelWrite_unasked (unrecorded hq.generation).1 hu) hsome
  | derived i place ht hd =>
    rw [kernelWrite_derived ht hd] at hw
    split at hw
    · next hscope =>
      obtain ⟨model, hm, rfl⟩ := Option.map_eq_some_iff.mp hw
      exact .derived i place model ht hd hscope hm
    · cases hw
  | suspended ht hs =>
    have hnone := (suspension_suspended ht hs).1
    exact absurd (kernelWrite_unasked hnone (by simp [ht, Unasked])) hsome
  | tornDown ht hd =>
    have hnone := (unrecorded hd.generation).1
    exact absurd (kernelWrite_unasked hnone (by simp [ht, Unasked])) hsome
  | stale load answer key x ht ha hs => exact absurd (kernelWrite_stale ht ha hs) hsome
  | forgotten load answer key x ht ha _ _ hi =>
    exact absurd (kernelWrite_forgotten ht ha hi) hsome
  | installed load kernels key x i ht ha hup hk hi =>
    rw [kernelWrite_installed ht ha hup hk hi] at hw
    obtain ⟨model, hm, rfl⟩ := Option.map_eq_some_iff.mp hw
    exact .installed load kernels key x i model ht ha hup hk hm
  | refused load e key x i ht ha hup hk hi =>
    rw [kernelWrite_refused ht ha hup hk hi] at hw
    split at hw
    · obtain ⟨model, hm, rfl⟩ := Option.map_eq_some_iff.mp hw
      exact .refused load e key x i model ht ha hup hk hm
    · cases hw

end KernelWrite

theorem own_of_observed (f : Form) {t : Turn} (h : t.observed = some i) : f.own t = f := by
  cases t with
  | write => cases h
  | _ => rfl

/-! ## The form after a turn -/

/-- Most turns do not let the sub-form write. -/
theorem form_take_other {t : Turn} (hi : t.observed = none)
    (ha : ∀ load answer, t ≠ .answerKernels load answer) (s : Session) :
    (s.take t).form = s.form.own t := by
  cases t with
  | observe i => cases hi
  | render i => cases hi
  | answerKernels load answer => exact absurd rfl (ha load answer)
  | activate => exact form_activate s
  | suspend =>
    rcases suspend_cases s with ⟨h, -⟩ | ⟨-, -, _, _, -, h⟩ <;> rw [take, h] <;> rfl
  | tearDown => exact form_tearDown s
  | start load => exact form_start s load
  | drop load => exact form_drop s load
  | answerCatalog list load answer => exact form_answerCatalog s list load answer
  | _ => rfl

/-- A derivation clears the kernel when there is no scope, and else leaves the form. -/
theorem form_derive (s : Session) (i : Inputs) : (s.derive i).form =
    if i.scope = none then s.form.writeKernelId i.context none else s.form := by
  cases hi : i.scope with
  | none =>
    obtain ⟨_, _, -, he⟩ := derive_none s hi
    rw [he, if_pos rfl]
  | some x =>
    obtain ⟨_, _, -, he⟩ := derive_some s hi
    rw [he, if_neg (by simp)]

theorem form_take_moved {t : Turn} (hi : t.observed = some i) (hu : s.unmoved i = false) :
    (s.take t).form = if i.scope = none then s.form.writeKernelId i.context none else s.form := by
  cases t with
  | observe j =>
    cases hi
    rw [take, observe_eq, if_neg (by simp [hu]), form_derive]
  | render j =>
    cases hi
    have hu' : s.activate.unmoved i = false := ((quiet_activate s).unmoved i).trans hu
    rw [take, observe_eq, if_neg (by simp [hu']), form_derive, form_activate]
  | _ => cases hi

/-- What a turn writes for the sub-form is what is on record. -/
theorem form_observed (hi : (s.turn a).observed = some i) :
    (s.take (s.turn a)).form = s.form.put (s.kernelWrite? a) := by
  -- inputs that have not moved lead to nothing, and others to a derivation
  cases hu : s.unmoved i with
  | true =>
    have hnone : s.derivation? a = none := by simp [derivation?, hi, hu]
    have hasked : s.Unasked (s.turn a) := by
      intro load answer key x ht
      rw [ht] at hi
      cases hi
    rw [kernelWrite_unasked hnone hasked, (take_unmoved hi hu).2]
    rfl
  | false =>
    obtain ⟨place, hd⟩ := step_derived hi hu
    rw [kernelWrite_derived hi hd, form_take_moved hi hu]
    split
    · rw [← Form.writeKernelId_eq_put]
    · rfl

/-- An answer makes the write on record and no other. -/
theorem form_answerKernels (s : Session) (load : Nat)
    (answer : Except ProviderError (List Kernel)) :
    (s.answerKernels load answer).form = s.form.put (s.answerWrite? load answer) := by
  have hanswer := answerKernels_step s load answer
  generalize s.answerKernels load answer = s' at hanswer ⊢
  unfold answerWrite?
  -- outcome by outcome, the write that is made is the one on record
  cases hanswer with
  | unasked h =>
    split
    · rename_i key x i hl _
      exact absurd hl (h key x)
    · rfl
  | stale key x h hs =>
    rw [h]
    cases s.controller.inputs with
    | none => rfl
    | some i =>
      simp only
      rw [if_pos (by simpa using hs)]
      rfl
  | forgotten key x h hup hk hi =>
    rw [h, hi]
    rfl
  | installed key x i kernels h hup hk hi he =>
    rw [h, hi, he]
    simp only
    rw [if_neg (by simp [hup, hk]), ← Form.writeKernelId_eq_put, ← defaultKernel_eq]
    rfl
  | refused key x i e h hup hk hi he =>
    have hrefuse : ((s.answered load).refuse i x).form =
        if ((s.form.model i.context.reads).id .kernelId).isSome then
          s.form.writeKernelId i.context none
        else s.form := rfl
    have hcurrent : ¬ (s.controller.tornDown || s.controller.current != some key) = true := by
      simp [hup, hk]
    rw [hrefuse, h, hi, he]
    simp only
    rw [if_neg hcurrent]
    split
    · rw [← Form.writeKernelId_eq_put]
    · rfl

/-- **A turn writes to the form what is on record, and nothing else.** -/
theorem form_taken (s : Session) (a : Action) :
    (s.take (s.turn a)).form = (s.form.own (s.turn a)).put (s.kernelWrite? a) := by
  cases hi : (s.turn a).observed with
  | some i => rw [form_observed hi, own_of_observed _ hi]
  | none =>
    have hnone : s.derivation? a = none := by rw [derivation?, hi]
    by_cases ha : ∃ load answer, s.turn a = .answerKernels load answer
    · obtain ⟨load, answer, ht⟩ := ha
      rw [kernelWrite?, hnone, ht]
      exact form_answerKernels s load answer
    · have hother : ∀ load answer, s.turn a ≠ .answerKernels load answer :=
        fun load answer ht => ha ⟨load, answer, ht⟩
      rw [form_take_other hi hother,
        kernelWrite_unasked hnone fun load answer _ _ ht => absurd ht (hother load answer)]
      rfl

/-- The models change by the writes of the form and of the sub-form, and by no others. -/
theorem models_step (s : Session) (a : Action) :
    (s.step a).form.models = ((s.form.own (s.turn a)).put (s.kernelWrite? a)).models := by
  obtain ⟨bus, settlings, drives, holders, he⟩ := step_eq s a
  rw [he, withBooks_models, form_taken]

/-- Forms neither gain nor lose models. -/
theorem length_step (s : Session) (a : Action) :
    (s.step a).form.models.length = s.form.models.length := by
  rw [models_step, Form.length_put, Form.length_own]

/-- A run neither adds nor removes models. -/
theorem length_run (s : Session) (as : List Action) :
    (s.run as).form.models.length = s.form.models.length := by
  induction as generalizing s with
  | nil => rfl
  | cons a as ih => rw [run_cons, ih, length_step]

theorem announces_step {m : Nat} (h : s.form.Announces m) (a : Action) :
    (s.step a).form.Announces m := by
  have hown : (s.form.own (s.turn a)).Announces m := by
    cases s.turn a with
    | write i key value => exact s.form.announces_write h i key value
    | _ => exact h
  unfold Form.Announces
  rw [models_step]
  cases s.kernelWrite? a with
  | none => exact hown
  | some w => exact Form.announces_write _ hown _ _ _

/-- A model goes on to announce its writes. -/
theorem announces_run {m : Nat} (h : s.form.Announces m) (as : List Action) :
    (s.run as).form.Announces m := by
  induction as generalizing s with
  | nil => exact h
  | cons a as ih => exact ih (announces_step h a)

/-- Only the form changes fields other than the kernel. -/
theorem id_step_of_ne (s : Session) (a : Action) (j : Nat) {g : Field} (hg : g ≠ .kernelId) :
    ((s.step a).form.model j).id g = ((s.form.own (s.turn a)).model j).id g := by
  rw [Form.model_congr (models_step s a), Form.id_put_of_ne _ _ _ hg]

/-- A field other than the kernel is kept by all but a write of the form to it. -/
theorem id_step_unwritten {s : Session} {a : Action} {j : Nat} {g : Field} (hg : g ≠ .kernelId)
    (ha : ∀ value, a ≠ .write j g.key value) :
    ((s.step a).form.model j).id g = (s.form.model j).id g := by
  rw [id_step_of_ne s a j hg]
  cases ht : s.turn a with
  | write i key value =>
    have hwrite : a = .write i key value := turn_action (by rw [ht]; rfl)
    refine Form.id_write_of_ne _ ?_ value
    rintro ⟨rfl, rfl⟩
    exact ha value hwrite
  | _ => rfl

end Session

end LivePatching
