import LivePatching.Proofs.Coherence
import LivePatching.Proofs.History
import LivePatching.Proofs.Loop
import LivePatching.Proofs.Reading
import LivePatching.Selection.Invariant

/-!
# What the status says

While the sub-form is up the fields of the controller agree, and a status that is loading has its
load.

* `Carries`: a load that can still answer has the current key.
* `Consistent`: the key, the inputs, the status, the kernels and the loads agree.
* `Coherent.consistent`: **a coherent controller that is up is consistent.**
* `Bound`: the inputs have the scope that the template has in the form.
* `bound_since`: a render binds the inputs, until the scope is written or something is observed.
* `status_run`: **in every run the controller is consistent, and the kernels rendered are those of
  the scope.**
-/

namespace LivePatching

/-- The field that a template takes its scope from. -/
def Template.scopeField : Template → Field
  | .system => .clientId
  | .product => .productId

theorem Template.scopeField_ne (t : Template) : t.scopeField ≠ .kernelId := by
  cases t <;> simp [scopeField]

/-- Only the field of the template counts. -/
theorem Chosen.scope_read_congr {m m' : FormModel} {t : Template}
    (h : m'.id t.scopeField = m.id t.scopeField) :
    (Chosen.read m').scope t = (Chosen.read m).scope t := by
  cases t with
  | system => exact congrArg (Option.map Scope.client) h
  | product => exact congrArg (Option.map Scope.product) h

/-- Only the idle status is about no scope. -/
theorem KernelStatus.scope?_eq_none {status : KernelStatus} :
    status.scope? = none ↔ status = .idle := by
  cases status <;> simp [scope?]

namespace Session

/-! ## The fields of the controller -/

/-- The load has the current key, and is neither finished nor aborted. -/
def Carries (s : Session) (n : Nat) : Prop :=
  ∃ key x, s.controller.current = some key ∧ Live s.loads n (.kernels key x)

/-- The fields of the controller agree. -/
structure Consistent (s : Session) : Prop where
  keyed : s.controller.current.isSome = s.controller.inputs.isSome
  /-- The key is of the last generation and has the scope of the inputs. -/
  key : ∀ key, s.controller.current = some key → key.generation = s.controller.generation ∧
    ∃ i, s.controller.inputs = some i ∧ key.scope = i.scope
  /-- The status is of the scope of the key, and idle just when there is none. -/
  status : s.controller.snapshot.status.scope? = s.controller.current.bind (·.scope)
  idle : s.controller.snapshot.status = .idle ↔ s.controller.current.bind (·.scope) = none
  kernels : s.controller.snapshot.kernels ≠ [] → ∃ x, s.controller.snapshot.status = .ready x
  loading : (∃ x, s.controller.snapshot.status = .loading x) ↔ ∃! n, s.Carries n
  /-- There is never a second load with the current key. -/
  single : ∀ n n', s.Carries n → s.Carries n' → n = n'
  /-- Whatever the load answers once it has asked, the answer ends the loading. -/
  resolved : ∀ n, s.Carries n → ∀ answer, ∃ x, s.controller.current.bind (·.scope) = some x ∧
    (s.run [.start n, .answerKernels n answer]).controller.snapshot.status =
      match answer with
      | .ok _ => .ready x
      | .error _ => .failed x

variable {s : Session} {a : Action} {n : Nat} {t : Template} {as : List Action}

/-- The scope of the current key is that of the inputs. -/
theorem Coherent.scope_current (h : Coherent s) (hup : s.controller.tornDown = false) :
    s.controller.current.bind (·.scope) = s.controller.inputs.bind Inputs.scope := by
  rw [h.current hup]
  cases s.controller.inputs with
  | none => rfl
  | some i => rfl

/-- The scope of a load with the current key is that of the status. -/
theorem Coherent.carries_loading (h : Coherent s) (hc : s.Carries n) :
    ∃ x, s.controller.snapshot.status = .loading x := by
  obtain ⟨key, x, hk, hl⟩ := hc
  exact ⟨x, h.waiting n key x hl hk⟩

/-- One load at most carries the derivation. -/
theorem Coherent.carries_unique (h : Coherent s) {n n' : Nat} (hc : s.Carries n)
    (hc' : s.Carries n') : n = n' := by
  obtain ⟨key, x, hk, hl⟩ := hc
  obtain ⟨key', x', hk', hl'⟩ := hc'
  have hkey : key' = key := Option.some.inj (hk'.symm.trans hk)
  subst hkey
  exact h.unique n n' key' x x' hl.asks hl'.asks

/-- The answer of a load that is running with the current key settles the status, and what it brings
is listed. -/
theorem snapshot_answered {key : RequestKey} {x : Scope} {i : Inputs}
    (hl : s.loads[n]? = some ⟨.kernels key x, .running⟩) (hup : s.controller.tornDown = false)
    (hk : s.controller.current = some key) (hi : s.controller.inputs = some i)
    (answer : Except ProviderError (List Kernel)) :
    (s.answerKernels n answer).controller.snapshot.status =
        (match answer with
        | .ok _ => .ready x
        | .error _ => .failed x) ∧
      (s.answerKernels n answer).controller.snapshot.kernels =
        match answer with
        | .ok kernels => kernels
        | .error _ => [] := by
  have hstep := answerKernels_step s n answer
  generalize s.answerKernels n answer = s' at hstep ⊢
  -- the key is the current one and the sub-form is up, so only two outcomes are left
  cases hstep with
  | unasked hno => exact absurd hl (hno key x)
  | stale key' x' hl' hs =>
    rw [hl] at hl'
    cases hl'
    rcases hs with hs | hs
    · rw [hup] at hs; cases hs
    · exact absurd hk hs
  | forgotten _ _ _ _ _ hno => rw [hi] at hno; cases hno
  | installed key' x' j kernels hl' _ _ _ ha =>
    rw [hl] at hl'
    cases hl'
    rw [ha]
    exact ⟨rfl, rfl⟩
  | refused key' x' j e hl' _ _ _ ha =>
    rw [hl] at hl'
    cases hl'
    rw [ha]
    exact ⟨rfl, rfl⟩

/-- A load that can still answer is running once it is started. -/
theorem running_start {q : Question} (h : Live s.loads n q) :
    (s.start n).loads[n]? = some ⟨q, .running⟩ ∧ (s.start n).controller = s.controller := by
  obtain ⟨stage, hl, hlive⟩ := h
  cases stage with
  | queued =>
    have hstart : s.start n = s.setStage n .running := by simp only [start, hl]
    rw [hstart]
    exact ⟨by rw [setStage, getElem?_modify_self, hl]; rfl, rfl⟩
  | running =>
    have hstart : s.start n = s := by simp only [start, hl]
    rw [hstart]
    exact ⟨hl, rfl⟩
  | _ => cases hlive

/-- **A coherent controller that is up is consistent.** -/
theorem Coherent.consistent (h : Coherent s) (hup : s.controller.tornDown = false) :
    Consistent s where
  keyed := by rw [h.current hup, Option.isSome_map]
  key key hk := by
    obtain ⟨-, i, hi, rfl⟩ := h.inputs_of_current hk
    exact ⟨rfl, i, hi, rfl⟩
  status := by rw [h.status, h.scope_current hup]
  idle := by rw [h.scope_current hup, ← h.status, KernelStatus.scope?_eq_none]
  kernels hne := by
    by_contra hno
    exact hne (h.kernels fun x hx => hno ⟨x, hx⟩)
  loading := by
    constructor
    · rintro ⟨x, hx⟩
      obtain ⟨n, key, hl, hk⟩ := h.loading hup x hx
      have hc : s.Carries n := ⟨key, x, hk, hl⟩
      exact ⟨n, hc, fun n' hc' => h.carries_unique hc' hc⟩
    · rintro ⟨n, hc, -⟩
      exact h.carries_loading hc
  single n n' hc hc' := h.carries_unique hc hc'
  resolved n hc answer := by
    obtain ⟨key, x, hk, hl⟩ := hc
    obtain ⟨-, i, hi, -⟩ := h.inputs_of_current hk
    -- a load asks for the scope of its key
    have hscope : key.scope = some x := (h.keys n key x hl.asks).2
    obtain ⟨hrun, hcontroller⟩ := running_start hl
    refine ⟨x, by rw [hk]; exact hscope, ?_⟩
    rw [← hcontroller] at hup hk hi
    exact (snapshot_answered hrun hup hk hi answer).1

/-! ## The scope that is rendered -/

/-- The inputs, as long as there are any, have the scope that the template has in the form. -/
def Bound (t : Template) (s : Session) : Prop :=
  ∀ i, s.controller.inputs = some i → i.scope = s.chosen.scope t

/-- The step renders with the template while the sub-form is up. -/
def Renders (t : Template) (s : Session) (a : Action) : Prop :=
  s.turn a = .render (.read s.form t s.context) ∧ s.controller.tornDown = false

/-- The step observes nothing, and does not write the field that the scope is taken from. -/
def KeepsScope (t : Template) (s : Session) (a : Action) : Prop :=
  (s.turn a).observed = none ∧ ∀ value, a ≠ .write s.context.reads t.scopeField.key value

/-- Who observes nothing keeps the inputs or forgets them. -/
theorem inputs_unobserved (h : (s.turn a).observed = none) :
    (s.step a).controller.inputs = s.controller.inputs ∨ (s.step a).controller.inputs = none := by
  cases step_kernels s a with
  | quiet _ hq _ => exact .inl hq.inputs
  | derived i place ht _ => rw [ht] at h; cases h
  | suspended _ hs => exact .inr hs.inputs
  | tornDown _ hd => exact .inl hd.inputs
  | stale load answer key x _ ha => exact .inl ha.inputs
  | forgotten load answer key x _ ha => exact .inl ha.inputs
  | installed load kernels key x i _ ha => exact .inl ha.inputs
  | refused load e key x i _ ha => exact .inl ha.inputs

theorem Renders.observed (h : Renders t s a) :
    (s.turn a).observed = some (.read s.form t s.context) := by
  rw [h.1]
  rfl

theorem up_renders (h : Renders t s a) : (s.step a).controller.tornDown = false := by
  rw [step_controller, h.1]
  exact (tornDown_render s ⟨some t, false⟩).trans h.2

theorem bound_renders (h : Renders t s a) : Bound t (s.step a) := by
  intro i hi
  obtain ⟨j, hj, rfl, hclient, hproduct⟩ := reads_observed h.observed (up_renders h)
  have hij : j = i := Option.some.inj (hj.symm.trans hi)
  subst hij
  unfold Inputs.scope chosen Chosen.scope Chosen.read
  rw [hclient, hproduct, context_step]

/-- A step that leaves the scope alone keeps the controller bound to it. -/
theorem Bound.step (h : Bound t s) (ha : KeepsScope t s a) : Bound t (s.step a) := by
  obtain ⟨hobserved, hwrite⟩ := ha
  have hscope : (s.step a).chosen.scope t = s.chosen.scope t := by
    unfold chosen
    rw [context_step]
    exact Chosen.scope_read_congr (id_step_unwritten t.scopeField_ne hwrite)
  intro i hi
  rw [hscope]
  rcases inputs_unobserved hobserved with hsame | hnone
  · exact h i (hsame ▸ hi)
  · rw [hnone] at hi; cases hi

/-- A render binds the inputs, until the scope is written or something is observed. -/
theorem bound_since (h : s.Since as (Renders t) (KeepsScope t)) : Bound t (s.run as) := by
  induction as using List.reverseRecOn with
  | nil => exact absurd h not_since_nil
  | append_singleton as a ih =>
    rw [run_concat]
    rcases since_concat.mp h with hrenders | ⟨hsince, hkeeps⟩
    · exact bound_renders hrenders
    · exact (ih hsince).step hkeeps

/-- Kernels that are listed are those of the scope that the inputs are bound to. -/
theorem Coherent.kernelsMatchScope (h : Coherent s) (hb : Bound t s) :
    LivePatching.kernelsMatchScope t s.chosen s.controller.snapshot = true := by
  unfold LivePatching.kernelsMatchScope
  cases hst : s.controller.snapshot.status with
  | ready x =>
    have hstatus := h.status
    rw [hst] at hstatus
    obtain ⟨i, hi, hx⟩ := Option.bind_eq_some_iff.mp hstatus.symm
    have hscope : s.chosen.scope t = some x := (hb i hi).symm.trans hx
    simp only [hscope, beq_self_eq_true]
  | _ =>
    have hnone := h.kernels (by rw [hst]; simp)
    simp only [hnone, List.isEmpty_nil]

/-- **In every run the controller is consistent while it is up**, and from a render on, the kernels
listed are those of the scope, until the form writes it or something is observed. -/
theorem status_run (form : Form) (context : Context) (policy : StalePolicy) (as : List Action) :
    let s₀ := mount form context policy
    let s := s₀.run as
    (s.controller.tornDown = false → Consistent s) ∧
      ∀ t, s₀.Since as (Renders t) (KeepsScope t) →
        kernelsMatchScope t s.chosen s.controller.snapshot = true := by
  intro s₀ s
  have hcoh : Coherent s := coherent_run (coherent_mount form context policy) as
  exact ⟨hcoh.consistent, fun t hsince => hcoh.kernelsMatchScope (bound_since hsince)⟩

/-- A form with one model in which client 1 is chosen. -/
def oneClient : Form :=
  ⟨[.ofModel (.ofPairs [("clientId", .ofNat 1)]) true], ⟨4, #[], .empty, 0, 1⟩⟩

/-- A call that waits takes the load of client 1, which then answers late, for client 2 has been
rendered; and the load of client 2 has asked. -/
def takenLoad : List Action :=
  [.render ⟨some .system, false⟩, .start 2, .settle, .write 0 "clientId" (.ofNat 2),
    .render ⟨some .system, false⟩, .start 3, .answerKernels 2 (.ok [⟨⟨7⟩, "6.4.0", false⟩])]

theorem status_run_takenLoad :
    (∃! n, ((mount oneClient (.shared 0) .cancel).run takenLoad).Carries n) ∧
      kernelsMatchScope .system ((mount oneClient (.shared 0) .cancel).run takenLoad).chosen
        ((mount oneClient (.shared 0) .cancel).run takenLoad).controller.snapshot = true := by
  have h := status_run oneClient (.shared 0) .cancel takenLoad
  have hup : ((mount oneClient (.shared 0) .cancel).run takenLoad).controller.tornDown = false :=
    rfl
  have hloading : ((mount oneClient (.shared 0) .cancel).run takenLoad).controller.snapshot.status =
      .loading (.client ⟨2⟩) := by decide +kernel
  have hsince : (mount oneClient (.shared 0) .cancel).Since takenLoad (Renders .system)
      (KeepsScope .system) := by
    refine ⟨takenLoad.take 4, .render ⟨some .system, false⟩, takenLoad.drop 5, rfl, ⟨rfl, rfl⟩, ?_⟩
    simp only [takenLoad, List.drop_succ_cons, List.drop_zero, always_cons, always_nil, and_true]
    simp [KeepsScope, turn, Turn.observed]
  exact ⟨(h.1 hup).loading.mp ⟨_, hloading⟩, h.2 .system hsince⟩

end Session

end LivePatching
