import LivePatching.Proofs.Quiescence
import LivePatching.Proofs.Status

/-!
# A kernel and its scope

A derivation with a scope leaves the kernel in the form as it is until its load answers, so for that
long the kernel may be one of another scope.

* `InScope`: a kernel that is chosen is the first one of the scope, whose kernels are listed.
* `kept_run`: what the controller keeps of the kernel, along a run.
* `Attended`: a sub-form that has rendered the template and what its form holds.
* `inScope_renders`: **after a render the kernel is in scope, or the kernels of the scope are being
  loaded** and the models are as before; whatever the load answers, the kernel is in scope then.
* `carried_kernel`: that it is always in scope after a render is not so.
-/

namespace LivePatching

open Json

namespace Session

/-- A kernel that is chosen is the first one of the scope, whose kernels are listed. -/
def InScope (t : Template) (s : Session) : Prop :=
  ∀ k, s.chosen.kernelId = some k → ∃ x, s.chosen.scope t = some x ∧
    s.controller.snapshot.status = .ready x ∧
    (firstKernel s.controller.snapshot.kernels).map (·.id) = some k

variable {s : Session} {a : Action} {m n : Nat} {t : Template} {as : List Action}

/-- The kernel is kept as long as nobody else writes it. -/
theorem kept_run (hm : m < s.form.models.length) (hcontext : s.context = .shared m)
    (h : Kept m s) (hreads : s.Always as (ReadsAsWritten m))
    (hleft : s.Always as (LeavesKernel m)) : Kept m (s.run as) := by
  induction as generalizing s with
  | nil => exact h
  | cons a as ih =>
    obtain ⟨hreadsa, hreads⟩ := always_cons.mp hreads
    obtain ⟨hlefta, hleft⟩ := always_cons.mp hleft
    have hm' : m < (s.step a).form.models.length := by
      have hlen : (s.step a).form.models.length = s.form.models.length := length_run s [a]
      omega
    have hcontext' : (s.step a).context = .shared m := by rw [context_step, hcontext]
    exact ih hm' hcontext' (h.step hm hcontext hreadsa hlefta) hreads hleft

/-! ## What was rendered -/

/-- The sub-form has rendered the template and what its form holds. -/
structure Attended (t : Template) (m : Nat) (s : Session) : Prop where
  there : m < s.form.models.length
  context : s.context = .shared m
  coherent : Coherent s
  kept : Kept m s
  bound : Bound t s
  derived : ∃ i, s.controller.inputs = some i ∧ i.context.writes = some m

/-- The inputs after a render are written where the sub-form writes. -/
theorem inputs_renders (h : Renders t s a) :
    ∃ i, (s.step a).controller.inputs = some i ∧ i.context.writes = s.context.writes := by
  rcases inputs_observed h.observed (up_renders h) with hi | ⟨j, -, hj, hsame⟩
  · exact ⟨_, hi, rfl⟩
  · obtain ⟨-, -, -, hwrites⟩ := Inputs.same_iff.mp hsame
    exact ⟨j, hj, hwrites⟩

/-- A render of the template brings its scope under attention. -/
theorem attended_renders (hm : m < s.form.models.length) (hcontext : s.context = .shared m)
    (hcoh : Coherent s) (hkept : Kept m s) (h : Renders t s a) : Attended t m (s.step a) := by
  -- a render neither hands a context over nor writes as the form
  have hreads : ReadsAsWritten m s a := by
    rintro t' c rfl
    cases h.1
  have hleft : LeavesKernel m s a := by
    rintro value rfl
    cases h.1
  have hlen : (s.step a).form.models.length = s.form.models.length := length_run s [a]
  obtain ⟨i, hi, hwrites⟩ := inputs_renders h
  exact {
    there := by omega
    context := by rw [context_step, hcontext]
    coherent := coherent_step hcoh a
    kept := hkept.step hm hcontext hreads hleft
    bound := bound_renders h
    derived := ⟨i, hi, by rw [hwrites, hcontext]; rfl⟩ }

/-- The steps of a load leave it at what was rendered. -/
theorem Attended.step (h : Attended t m s) (htold : (s.turn a).told = none)
    (hwrite : ∀ j key value, a ≠ .write j key value) : Attended t m (s.step a) := by
  have hobserved : (s.turn a).observed = none := by
    cases hi : (s.turn a).observed with
    | none => rfl
    | some i => rw [told_of_observed hi] at htold; cases htold
  have hreads : ReadsAsWritten m s a := by
    rintro t' c rfl
    cases hobserved
  have hlen : (s.step a).form.models.length = s.form.models.length := length_run s [a]
  exact {
    there := by have := h.there; omega
    context := by rw [context_step, h.context]
    coherent := coherent_step h.coherent a
    kept := h.kept.step h.there h.context hreads fun value => hwrite _ _ value
    bound := h.bound.step ⟨hobserved, fun value => hwrite _ _ value⟩
    derived := by rw [inputs_untold htold]; exact h.derived }

/-- The kernel chosen is the first one listed once the kernels are not being loaded. -/
theorem Attended.chosen (h : Attended t m s)
    (hloaded : ∀ x, s.controller.snapshot.status ≠ .loading x) :
    s.chosen.kernelId = (firstKernel s.controller.snapshot.kernels).map (·.id) := by
  obtain ⟨i, hi, hw⟩ := h.derived
  rw [← h.kept.kernel i hi hw hloaded, Session.chosen, h.context]
  rfl

/-- What was rendered is in scope once the kernels are not being loaded. -/
theorem Attended.inScope (h : Attended t m s)
    (hloaded : ∀ x, s.controller.snapshot.status ≠ .loading x) : InScope t s := by
  intro k hk
  obtain ⟨i, hi, hw⟩ := h.derived
  have hkernel : (firstKernel s.controller.snapshot.kernels).map (·.id) = some k := by
    rw [← h.chosen hloaded, hk]
  have hscope : s.controller.snapshot.status.scope? = s.chosen.scope t := by
    rw [h.coherent.status, hi, ← h.bound i hi]
    rfl
  cases hst : s.controller.snapshot.status with
  | ready x => exact ⟨x, by rw [← hscope, hst]; rfl, rfl, hkernel⟩
  | loading x => exact absurd hst (hloaded x)
  | _ =>
    -- nothing is listed, so no kernel is chosen
    rw [h.coherent.kernels (by rw [hst]; simp)] at hkernel
    cases hkernel

/-- The answer of the load that is waited for brings the kernel in scope: it is the first one of the
list, and none after a failure. -/
theorem Attended.answered (h : Attended t m s) (hup : s.controller.tornDown = false)
    (hn : s.Carries n) (answer : Except ProviderError (List Kernel)) :
    InScope t (s.run [.start n, .answerKernels n answer]) ∧
      (s.run [.start n, .answerKernels n answer]).chosen.kernelId =
        match answer with
        | .ok kernels => (firstKernel kernels).map (·.id)
        | .error _ => none := by
  -- neither the start of the load nor its answer is told of a template or writes as the form
  have hstart : Attended t m (s.step (.start n)) := h.step rfl (by simp)
  have hanswer : Attended t m ((s.start n).answerKernels n answer) :=
    hstart.step (a := .answerKernels n answer) rfl (by simp)
  obtain ⟨key, x, hk, hl⟩ := hn
  obtain ⟨-, i, hi, -⟩ := h.coherent.inputs_of_current hk
  obtain ⟨hrun, hcontroller⟩ := running_start hl
  rw [← hcontroller] at hup hk hi
  obtain ⟨hst, hkernels⟩ := snapshot_answered hrun hup hk hi answer
  have hloaded : ∀ y,
      ((s.start n).answerKernels n answer).controller.snapshot.status ≠ .loading y := by
    intro y
    rw [hst]
    cases answer <;> simp
  refine ⟨hanswer.inScope hloaded, (hanswer.chosen hloaded).trans ?_⟩
  rw [hkernels]
  cases answer <;> rfl

/-- A render that leaves the kernels being loaded writes nothing. -/
theorem models_renders (h : Renders t s a) {x : Scope}
    (hst : (s.step a).controller.snapshot.status = .loading x) :
    (s.step a).form.models = s.form.models := by
  have hstep := step_kernels s a
  rw [h.1] at hstep
  cases hstep with
  | quiet _ _ hmodels => exact hmodels
  | derived i place _ hd =>
    rw [hd.status] at hst
    rw [hd.models]
    cases hi : i.scope with
    | none => rw [hi] at hst; cases hst
    | some y => rfl
  | suspended ht _ => cases ht
  | tornDown ht _ => cases ht
  | stale _ _ _ _ ht => cases ht
  | forgotten _ _ _ _ ht => cases ht
  | installed _ _ _ _ _ ht => cases ht
  | refused _ _ _ _ _ ht => cases ht

/-- **After a render the kernel is in scope, or the kernels of the scope are being loaded**: the
render has left the models as they were, then, and whatever is answered, the kernel is in scope
afterwards, the first one of a list and none after a failure. -/
theorem inScope_renders (form : Form) (m : Nat) (policy : StalePolicy) (t : Template)
    (as : List Action) (a : Action) (hm : m < form.models.length) :
    let s₀ := mount form (.shared m) policy
    let s := s₀.run (as ++ [a])
    s₀.Always as (ReadsAsWritten m) → s₀.Always as (LeavesKernel m) → Renders t (s₀.run as) a →
    s.InScope t ∨
      ∃ x n, s.chosen.scope t = some x ∧ s.controller.snapshot.status = .loading x ∧
        s.Carries n ∧ s.form.models = (s₀.run as).form.models ∧ s.chosen = (s₀.run as).chosen ∧
        ∀ answer, (s.run [.start n, .answerKernels n answer]).InScope t ∧
          (s.run [.start n, .answerKernels n answer]).chosen.kernelId =
            match answer with
            | .ok kernels => (firstKernel kernels).map (·.id)
            | .error _ => none := by
  intro s₀ s hreads hleft hrenders
  have hcoh : Coherent (s₀.run as) := coherent_run (coherent_mount form (.shared m) policy) as
  have hkept : Kept m (s₀.run as) := kept_run hm rfl (kept_mount form policy) hreads hleft
  have hm' : m < (s₀.run as).form.models.length := by rw [length_run]; exact hm
  have hs : s = (s₀.run as).step a := run_concat s₀ as a
  have hattended : Attended t m s := by
    rw [hs]
    exact attended_renders hm' (by rw [context_run]; rfl) hcoh hkept hrenders
  have hup : s.controller.tornDown = false := by rw [hs]; exact up_renders hrenders
  -- the list is there already, or it is being loaded and the answer brings the session in scope
  by_cases hloaded : ∀ x, s.controller.snapshot.status ≠ .loading x
  · exact .inl (hattended.inScope hloaded)
  · obtain ⟨x, hx⟩ : ∃ x, s.controller.snapshot.status = .loading x := by
      simpa using hloaded
    obtain ⟨n, hn, -⟩ := (hattended.coherent.consistent hup).loading.mp ⟨x, hx⟩
    obtain ⟨i, hi, -⟩ := hattended.derived
    have hscope : s.chosen.scope t = some x := by
      have hstatus := hattended.coherent.status
      rw [hx, hi] at hstatus
      rw [← hattended.bound i hi]
      exact hstatus.symm
    have hmodels : s.form.models = (s₀.run as).form.models := by
      rw [hs] at hx ⊢
      exact models_renders hrenders hx
    have hchosen : s.chosen = (s₀.run as).chosen := by
      unfold chosen
      rw [hs, context_step, ← hs, Form.model_congr hmodels]
    exact .inr ⟨x, n, hscope, hx, hn, hmodels, hchosen, hattended.answered hup hn⟩

/-- The kernels of client 1 are listed and its default one is chosen; then the form turns to
client 2, and nothing is rendered yet. -/
def carriedOver : List Action :=
  [.render ⟨some .system, false⟩, .start 2, .answerKernels 2 (.ok [⟨⟨7⟩, "6.4.0", false⟩]),
    .write 0 "clientId" (.ofNat 2)]

theorem inScope_renders_carriedOver :
    let s := (mount clientForm (.shared 0) .cancel).run
      (carriedOver ++ [.render ⟨some .system, false⟩])
    s.chosen = ⟨some ⟨2⟩, none, some ⟨7⟩⟩ ∧ ∃ n, s.Carries n ∧
      ∀ answer, (s.run [.start n, .answerKernels n answer]).InScope .system ∧
        (s.run [.start n, .answerKernels n answer]).chosen.kernelId =
          match answer with
          | .ok kernels => (firstKernel kernels).map (·.id)
          | .error _ => none := by
  intro s
  have hreads : (mount clientForm (.shared 0) .cancel).Always carriedOver (ReadsAsWritten 0) := by
    simp [carriedOver, always_cons, always_nil, ReadsAsWritten]
  have hleft : (mount clientForm (.shared 0) .cancel).Always carriedOver (LeavesKernel 0) := by
    simp [carriedOver, always_cons, always_nil, LeavesKernel, Field.key]
  have hrenders : Renders .system ((mount clientForm (.shared 0) .cancel).run carriedOver)
      (.render ⟨some .system, false⟩) := ⟨rfl, rfl⟩
  have hchosen : s.chosen = ⟨some ⟨2⟩, none, some ⟨7⟩⟩ := by decide +kernel
  have hloading : s.controller.snapshot.status = .loading (.client ⟨2⟩) := by decide +kernel
  rcases inScope_renders clientForm 0 .cancel .system carriedOver (.render ⟨some .system, false⟩)
    (by decide) hreads hleft hrenders with hscope | ⟨x, n, -, -, hn, -, -, hanswer⟩
  · obtain ⟨x, -, hready, -⟩ := hscope ⟨7⟩ (by rw [hchosen])
    rw [hloading] at hready
    cases hready
  · exact ⟨hchosen, n, hn, hanswer⟩

/-- A kernel that is chosen after a render need not be one of the scope. -/
theorem carried_kernel :
    ¬ ∀ (form : Form) (m : Nat) (policy : StalePolicy) (t : Template) (as : List Action)
      (a : Action), m < form.models.length → (form.model m).id .kernelId = none →
      let s₀ := mount form (.shared m) policy
      let s := s₀.run (as ++ [a])
      (∀ t c, .observe t c ∉ as) → (∀ value, .write m Field.kernelId.key value ∉ as) →
      Renders t (s₀.run as) a →
      ∀ k, s.chosen.kernelId = some k →
        ∃ x, s.chosen.scope t = some x ∧ s.controller.snapshot.status = .ready x := by
  intro h
  have hscope := h clientForm 0 .cancel .system carriedOver (.render ⟨some .system, false⟩)
    (by decide) (by decide +kernel) (by simp [carriedOver])
    (by simp [carriedOver, Field.key]) ⟨rfl, rfl⟩ ⟨7⟩ (by decide +kernel)
  obtain ⟨x, -, hready⟩ := hscope
  have hloading : ((mount clientForm (.shared 0) .cancel).run
      (carriedOver ++ [.render ⟨some .system, false⟩])).controller.snapshot.status =
        .loading (.client ⟨2⟩) := by decide +kernel
  rw [hloading] at hready
  cases hready

end Session

end LivePatching
