import LivePatching.Proofs.Coherence
import LivePatching.Proofs.FirstKernel
import LivePatching.Proofs.Reading

/-!
# A sub-form at rest

Once no load of kernels is under way, what the sub-form lists, its status and the kernel chosen in
the form follow from the template, the identifiers in the form and the answers of the provider.

* `AtHome`: a sub-form that reads and writes one model.
* `Matched`: the status agrees with the answers of the provider.
* `Picked`: the kernel chosen is the first one of those listed, unless they are being loaded.
* `Kept`: so it is in a model that the controller writes, if it reads where it writes.
* `rest_run`: **a sub-form at rest shows what follows from the form**, however it came there.
-/

namespace LivePatching

open Json

/-- What there is to see of a scope at rest: kernels, status and the kernel chosen, which is the
first one of those that the provider answers with. -/
def restOf (P : Scope → Except ProviderError (List Kernel)) :
    Option Scope → List Kernel × KernelStatus × Option EntityId
  | none => ([], .idle, none)
  | some x =>
    match P x with
    | .ok kernels => (kernels, .ready x, (firstKernel kernels).map (·.id))
    | .error _ => ([], .failed x, none)

namespace Session

/-! ## What the run is asked for -/

/-- If the step answers a load of kernels, then as the provider does. -/
def AnswersAs (P : Scope → Except ProviderError (List Kernel)) (s : Session) (a : Action) : Prop :=
  ∀ load answer key x, a = .answerKernels load answer → Asks s.loads load (.kernels key x) →
    answer = P x

/-- The step renders with the template. -/
def Shows (t : Template) (s : Session) (a : Action) : Prop := (s.turn a).told = some (some t)

/-- The step neither suspends nor renders with another template, and leaves the identifiers that a
scope may come from alone. -/
def KeepsShowing (t : Template) (m : Nat) (s : Session) (a : Action) : Prop :=
  ((s.turn a).told = none ∨ (s.turn a).told = some (some t)) ∧
    ((s.step a).form.model m).id .clientId = (s.form.model m).id .clientId ∧
    ((s.step a).form.model m).id .productId = (s.form.model m).id .productId

/-- The step begins a derivation. -/
def Derives (s : Session) (a : Action) : Prop := s.derivation? a ≠ none

/-- The step is not a write of the form to the kernel. -/
def LeavesKernel (m : Nat) (_ : Session) (a : Action) : Prop :=
  ∀ value, a ≠ .write m Field.kernelId.key value

/-- Who is handed a context that writes the model reads it there. -/
def ReadsAsWritten (m : Nat) (_ : Session) (a : Action) : Prop :=
  ∀ t c, a = .observe t c → c.writes = some m → c.reads = m

variable {P : Scope → Except ProviderError (List Kernel)} {s : Session} {a : Action} {m : Nat}
  {t : Template} {as : List Action}

/-! ## One model -/

/-- The sub-form reads and writes the one model. -/
structure AtHome (m : Nat) (s : Session) : Prop where
  context : s.context = .shared m
  inputs : ∀ i, s.controller.inputs = some i → i.context = .shared m

/-- At home an observation reads the form's own model. -/
theorem AtHome.observed (h : AtHome m s) (ha : ∀ t c, a = .observe t c → c = .shared m)
    {i : Inputs} (hi : (s.turn a).observed = some i) : ∃ t, i = .read s.form t (.shared m) := by
  obtain ⟨t, c, rfl, rfl | hc⟩ := turn_observed hi
  · exact ⟨t, by rw [h.context]⟩
  · exact ⟨t, by rw [ha t c hc]⟩

theorem AtHome.step (h : AtHome m s) (ha : ∀ t c, a = .observe t c → c = .shared m) :
    AtHome m (s.step a) where
  context := by rw [context_step, h.context]
  inputs := by
    have hsame : (s.step a).controller.inputs = s.controller.inputs →
        ∀ i, (s.step a).controller.inputs = some i → i.context = .shared m := by
      intro he i hi
      exact h.inputs i (he ▸ hi)
    -- only a derivation takes inputs over, and these are read in the context of the sub-form
    cases step_kernels s a with
    | quiet _ hq _ => exact hsame hq.inputs
    | derived i place ht hd =>
      intro j hj
      rw [hd.inputs] at hj
      cases hj
      obtain ⟨t, rfl⟩ := h.observed ha ht
      rfl
    | suspended _ hs => intro j hj; rw [hs.inputs] at hj; cases hj
    | tornDown _ hd => exact hsame hd.inputs
    | stale load answer key x _ hd => exact hsame hd.inputs
    | forgotten load answer key x _ hd => exact hsame hd.inputs
    | installed load kernels key x i _ hd => exact hsame hd.inputs
    | refused load e key x i _ hd => exact hsame hd.inputs

/-- A session at home stays there. -/
theorem atHome_run (h : AtHome m s) (hown : ∀ t c, .observe t c ∈ as → c = .shared m) :
    AtHome m (s.run as) := by
  induction as generalizing s with
  | nil => exact h
  | cons a as ih =>
    refine ih (h.step ?_) fun t c hc => hown t c (List.mem_cons_of_mem _ hc)
    rintro t c rfl
    exact hown t c List.mem_cons_self

/-! ## The answers -/

/-- The status agrees with the provider. -/
structure Matched (P : Scope → Except ProviderError (List Kernel)) (s : Session) : Prop where
  ready : ∀ x, s.controller.snapshot.status = .ready x → P x = .ok s.controller.snapshot.kernels
  failed : ∀ x, s.controller.snapshot.status = .failed x → ∃ e, P x = .error e

/-- Status and kernels are all that matters to a match. -/
theorem Matched.congr {s' : Session} (h : Matched P s)
    (hst : s'.controller.snapshot.status = s.controller.snapshot.status)
    (hk : s'.controller.snapshot.kernels = s.controller.snapshot.kernels) : Matched P s' where
  ready x hx := by rw [hk]; exact h.ready x (hst ▸ hx)
  failed x hx := h.failed x (hst ▸ hx)

/-- A step whose answers are the provider's keeps the match. -/
theorem Matched.step (h : Matched P s) (hP : AnswersAs P s a) : Matched P (s.step a) := by
  cases step_kernels s a with
  | quiet _ hq _ => exact h.congr hq.status hq.kernels
  | derived i place _ hd =>
    have hst : ∀ x, (s.step a).controller.snapshot.status ≠ .ready x ∧
        (s.step a).controller.snapshot.status ≠ .failed x := by
      intro x
      rw [hd.status]
      cases i.scope <;> simp
    exact ⟨fun x hx => absurd hx (hst x).1, fun x hx => absurd hx (hst x).2⟩
  | suspended _ hs =>
    refine ⟨fun x hx => ?_, fun x hx => ?_⟩
    · rw [hs.status] at hx; cases hx
    · rw [hs.status] at hx; cases hx
  | tornDown _ hd => exact h.congr (by rw [hd.snapshot]) (by rw [hd.snapshot])
  | stale load answer key x _ _ _ hc => exact h.congr (by rw [hc]) (by rw [hc])
  | forgotten load answer key x _ _ _ _ _ hc => exact h.congr (by rw [hc]) (by rw [hc])
  | installed load kernels key x i ht ha _ _ _ hk hst =>
    -- the answer is the provider's, for the scope that the load asked for
    have hans := hP load _ key x (turn_action (by rw [ht]; rfl)) (asks_of_getElem? ha.running)
    refine ⟨fun y hy => ?_, fun y hy => ?_⟩
    · rw [hst] at hy
      cases hy
      rw [hk, hans]
    · rw [hst] at hy; cases hy
  | refused load e key x i ht ha _ _ _ _ hst =>
    have hans := hP load _ key x (turn_action (by rw [ht]; rfl)) (asks_of_getElem? ha.running)
    refine ⟨fun y hy => ?_, fun y hy => ?_⟩
    · rw [hst] at hy; cases hy
    · rw [hst] at hy
      cases hy
      exact ⟨e, hans.symm⟩

/-- In runs whose answers are the provider's the kernels are those of the scope. -/
theorem matched_run (h : Matched P s) (hP : s.Always as (AnswersAs P)) : Matched P (s.run as) := by
  induction as generalizing s with
  | nil => exact h
  | cons a as ih =>
    obtain ⟨ha, hP⟩ := always_cons.mp hP
    exact ih (h.step ha) hP

/-! ## The template shown -/

/-- A sub-form that was last rendered with the template has read it and the identifiers. -/
theorem reads_run (h : AtHome m s) (hown : ∀ t c, .observe t c ∈ as → c = .shared m)
    (hup : (s.run as).controller.tornDown = false)
    (hshown : s.Since as (Shows t) (KeepsShowing t m)) : (s.run as).Reads t m := by
  -- on the last step: it renders, or it keeps what was read before
  induction as using List.reverseRecOn with
  | nil => exact absurd hshown not_since_nil
  | append_singleton as a ih =>
    have hown' : ∀ t c, .observe t c ∈ as → c = .shared m := fun t c hc =>
      hown t c (List.mem_append_left _ hc)
    rw [run_concat] at hup ⊢
    have htold : Shows t (s.run as) a → ((s.run as).step a).Reads t m := by
      intro hshows
      obtain ⟨i, hi, rfl⟩ := observed_of_told hshows
      obtain ⟨t, rfl⟩ := (atHome_run h hown').observed (fun t c hc => hown t c (by simp [hc])) hi
      exact reads_observed hi hup
    rcases since_concat.mp hshown with hshows | ⟨hshown, htell | htell, hc, hp⟩
    · exact htold hshows
    · exact (ih hown' (up_of_step hup) hshown).kept (inputs_untold htell) hc hp
    · exact htold htell

/-! ## The kernel chosen -/

/-- The form does not write the kernel. -/
theorem kernelId_own (ha : LeavesKernel m s a) :
    ((s.form.own (s.turn a)).model m).id .kernelId = (s.form.model m).id .kernelId := by
  cases ht : s.turn a with
  | write j key value =>
    refine Form.id_write_of_ne _ ?_ _
    rintro ⟨rfl, rfl⟩
    exact ha value (turn_action (by rw [ht]; rfl))
  | _ => rfl

/-- No kernel is chosen once an answer is refused: one that is not chosen need not be taken back. -/
theorem kernelId_refused {form : Form} {c : Context} (hr : c.reads = m) (hw : c.writes = some m)
    (hm : m < form.models.length) :
    ((if ((form.model c.reads).id .kernelId).isSome then form.writeKernelId c none
      else form).model m).id .kernelId = none := by
  rw [hr]
  split
  · exact Form.id_writeKernelId form hw hm none
  · next hnone => exact Option.not_isSome_iff_eq_none.mp hnone

/-- The kernel chosen is the first one of those listed, unless they are being loaded. -/
def Picked (m : Nat) (s : Session) : Prop :=
  s.controller.inputs ≠ none → (∀ x, s.controller.snapshot.status ≠ .loading x) →
    (s.form.model m).id .kernelId = (firstKernel s.controller.snapshot.kernels).map (·.id)

/-- A derivation without a scope picks no kernel, and one with a scope leaves it to its load. -/
theorem picked_derived {i : Inputs} {place : Nat} (hm : m < s.form.models.length)
    (hw : i.context.writes = some m) (hd : Derived s (s.step a) i place) : Picked m (s.step a) := by
  intro _ hst
  rw [hd.status] at hst
  cases hi : i.scope with
  | some x => rw [hi] at hst; exact absurd rfl (hst x)
  | none =>
    have hmodels := hd.models
    rw [if_pos hi] at hmodels
    rw [Form.model_congr hmodels, Form.id_writeKernelId s.form hw hm, hd.kernels]
    rfl

/-- Where the controller writes it reads, and the kernel there is the first one of those listed,
unless they are being loaded. -/
structure Kept (m : Nat) (s : Session) : Prop where
  home : ∀ i, s.controller.inputs = some i → i.context.writes = some m → i.context.reads = m
  kernel : ∀ i, s.controller.inputs = some i → i.context.writes = some m →
    (∀ x, s.controller.snapshot.status ≠ .loading x) →
    (s.form.model m).id .kernelId = (firstKernel s.controller.snapshot.kernels).map (·.id)

/-- A sub-form just mounted has derived nothing yet. -/
theorem kept_mount (form : Form) (policy : StalePolicy) :
    Kept m (mount form (.shared m) policy) where
  home := fun i hi => by cases hi
  kernel := fun i hi => by cases hi

theorem observed_home (hcontext : s.context = .shared m) (ha : ReadsAsWritten m s a) {i : Inputs}
    (hi : (s.turn a).observed = some i) (hw : i.context.writes = some m) :
    i.context.reads = m := by
  obtain ⟨t, c, rfl, rfl | hc⟩ := turn_observed hi
  · rw [Inputs.read, hcontext]; rfl
  · exact ha t c hc hw

/-- A step by which the form does not write the kernel keeps it. -/
theorem Kept.step (h : Kept m s) (hm : m < s.form.models.length)
    (hcontext : s.context = .shared m) (hreads : ReadsAsWritten m s a)
    (hleft : LeavesKernel m s a) : Kept m (s.step a) := by
  -- an answer leaves the inputs as they are, so what the controller writes it still reads
  have hhome : (s.step a).controller.inputs = s.controller.inputs →
      ∀ i, (s.step a).controller.inputs = some i → i.context.writes = some m →
        i.context.reads = m := by
    intro he i hi
    exact h.home i (he ▸ hi)
  cases step_kernels s a with
  | quiet _ hq hmodels =>
    refine ⟨hhome hq.inputs, fun i hi hw hst => ?_⟩
    rw [hq.inputs] at hi
    rw [hq.status] at hst
    rw [Form.model_congr hmodels, kernelId_own hleft, hq.kernels, h.kernel i hi hw hst]
  | derived i place ht hd =>
    refine ⟨fun j hj hw => ?_, fun j hj hw hst => ?_⟩
    · rw [hd.inputs] at hj
      cases hj
      exact observed_home hcontext hreads ht hw
    · rw [hd.inputs] at hj
      cases hj
      exact picked_derived hm hw hd (by rw [hd.inputs]; simp) hst
  | suspended _ hs =>
    refine ⟨fun j hj => ?_, fun j hj => ?_⟩
    · rw [hs.inputs] at hj; cases hj
    · rw [hs.inputs] at hj; cases hj
  | tornDown _ hd =>
    refine ⟨hhome hd.inputs, fun i hi hw hst => ?_⟩
    rw [hd.inputs] at hi
    rw [hd.snapshot] at hst
    rw [Form.model_congr hd.models, hd.snapshot, h.kernel i hi hw hst]
  | stale load answer key x _ ha _ hc hmodels =>
    refine ⟨hhome ha.inputs, fun i hi hw hst => ?_⟩
    rw [hc] at hi hst ⊢
    rw [Form.model_congr hmodels, h.kernel i hi hw hst]
  | forgotten load answer key x _ ha _ _ _ hc hmodels =>
    refine ⟨hhome ha.inputs, fun i hi hw hst => ?_⟩
    rw [hc] at hi hst ⊢
    rw [Form.model_congr hmodels, h.kernel i hi hw hst]
  | installed load kernels key x i _ ha _ _ hi hk _ hmodels =>
    refine ⟨hhome ha.inputs, fun j hj hw _ => ?_⟩
    have hij : i = j := Option.some.inj (hi.symm.trans (ha.inputs ▸ hj))
    subst hij
    rw [Form.model_congr hmodels, Form.id_writeKernelId s.form hw hm, hk, defaultKernel_eq]
  | refused load e key x i _ ha _ _ hi hk _ hmodels =>
    refine ⟨hhome ha.inputs, fun j hj hw _ => ?_⟩
    have hij : i = j := Option.some.inj (hi.symm.trans (ha.inputs ▸ hj))
    subst hij
    rw [Form.model_congr hmodels, kernelId_refused (h.home i hi hw) hw hm, hk]
    rfl

/-- A step by which the form does not write the kernel keeps what was picked. -/
theorem Picked.step (h : Picked m s) (hm : m < s.form.models.length) (hhome : AtHome m s)
    (hown : ∀ t c, a = .observe t c → c = .shared m) (ha : LeavesKernel m s a) :
    Picked m (s.step a) := by
  -- at home the model that is read is the one that is written
  have hkept : Kept m s := by
    refine ⟨fun i hi _ => ?_, fun i hi _ hst => h (by rw [hi]; simp) hst⟩
    rw [hhome.inputs i hi]
    rfl
  have hreads : ReadsAsWritten m s a := by
    intro t c hc _
    rw [hown t c hc]
    rfl
  intro hinputs hst
  obtain ⟨i, hi⟩ := Option.ne_none_iff_exists'.mp hinputs
  have hw : i.context.writes = some m := by
    rw [(hhome.step hown).inputs i hi]
    rfl
  exact (hkept.step hm hhome.context hreads ha).kernel i hi hw hst

/-- The kernel picked is there if the form has left it alone since a derivation. -/
theorem picked_run (hm : m < s.form.models.length) (h : AtHome m s)
    (hown : ∀ t c, .observe t c ∈ as → c = .shared m)
    (hleft : s.Since as Derives (LeavesKernel m)) : Picked m (s.run as) := by
  -- on the last step: it derives, or it leaves the kernel to the sub-form
  induction as using List.reverseRecOn with
  | nil => exact absurd hleft not_since_nil
  | append_singleton as a ih =>
    have hown' : ∀ t c, .observe t c ∈ as → c = .shared m := fun t c hc =>
      hown t c (List.mem_append_left _ hc)
    have howna : ∀ t c, a = .observe t c → c = .shared m := fun t c hc => hown t c (by simp [hc])
    have hhome := atHome_run h hown'
    have hm' : m < (s.run as).form.models.length := by rw [length_run]; exact hm
    rw [run_concat]
    rcases since_concat.mp hleft with hderives | ⟨hleft, ha⟩
    · obtain ⟨i, place, hi, hd⟩ := derived_of_derivation hderives
      obtain ⟨t, rfl⟩ := hhome.observed howna hi
      exact picked_derived hm' rfl hd
    · exact (ih hown' hleft).step hm' hhome howna ha

/-! ## At rest -/

/-- **A sub-form at rest shows what follows from the form**: rendered with the template since the
identifiers last changed, with no choice of the form's own since the last derivation, and with no
load of kernels under way. -/
theorem rest_run (form : Form) (m : Nat) (policy : StalePolicy)
    (P : Scope → Except ProviderError (List Kernel)) (t : Template) (as : List Action)
    (hm : m < form.models.length) :
    let s₀ := mount form (.shared m) policy
    let s := s₀.run as
    (∀ t c, .observe t c ∈ as → c = .shared m) → s₀.Always as (AnswersAs P) →
    s.controller.tornDown = false → s₀.Since as (Shows t) (KeepsShowing t m) →
    s₀.Since as Derives (LeavesKernel m) → (∀ n key x, ¬ Live s.loads n (.kernels key x)) →
    (s.controller.snapshot.kernels, s.controller.snapshot.status, (s.form.model m).id .kernelId) =
      restOf P
        (activeScope t ((s.form.model m).id .clientId) ((s.form.model m).id .productId)) := by
  intro s₀ s hown hP hup hshown hleft hquiet
  have hcoh : Coherent s := coherent_run (coherent_mount form (.shared m) policy) as
  have hhome : AtHome m s₀ := ⟨rfl, fun i hi => by cases hi⟩
  have hmatched : Matched P s :=
    matched_run ⟨fun x hx => (by cases hx), fun x hx => (by cases hx)⟩ hP
  have hpicked : Picked m s := picked_run hm hhome hown hleft
  obtain ⟨i, hi, rfl, hc, hp⟩ : s.Reads t m := reads_run hhome hown hup hshown
  -- a status that is loading has a load that can answer
  have hloaded : ∀ x, s.controller.snapshot.status ≠ .loading x := by
    intro x hx
    obtain ⟨n, key, hl, -⟩ := hcoh.loading hup x hx
    exact hquiet n key x hl
  have hkernel := hpicked (by rw [hi]; simp) hloaded
  have hscope : s.controller.snapshot.status.scope? =
      activeScope i.template ((s.form.model m).id .clientId) ((s.form.model m).id .productId) := by
    rw [hcoh.status, hi, ← hc, ← hp]
    rfl
  rw [← hscope, hkernel]
  cases hst : s.controller.snapshot.status with
  | loading x => exact absurd hst (hloaded x)
  | idle =>
    have hk := hcoh.kernels (by rw [hst]; simp)
    rw [hk]
    rfl
  | ready x =>
    simp only [KernelStatus.scope?, restOf, hmatched.ready x hst]
  | failed x =>
    have hk := hcoh.kernels (by rw [hst]; simp)
    obtain ⟨e, he⟩ := hmatched.failed x hst
    simp only [KernelStatus.scope?, restOf, he, hk]
    rfl

/-! ### An answer that comes late -/

/-- A form with one model that announces what is written, for client 1. -/
def clientForm : Form :=
  ⟨[.ofModel (.ofPairs [("clientId", .ofNat 1)]) true], ⟨1, #[], .empty, 0, 1⟩⟩

/-- There is one kernel for each scope. -/
def oneKernel (x : Scope) : Except ProviderError (List Kernel) := .ok [⟨x.id, "6.4.0", false⟩]

/-- Client 2 takes the place of client 1, and the answer for client 1 comes last. -/
def lateAnswer : List Action :=
  [.render ⟨some .system, false⟩, .start 2, .write 0 "clientId" (.ofNat 2),
    .render ⟨some .system, false⟩, .start 3, .answerKernels 3 (oneKernel (.client ⟨2⟩)),
    .answerKernels 2 (oneKernel (.client ⟨1⟩))]

theorem rest_run_lateAnswer :
    (((mount clientForm (.shared 0) .ignore).run lateAnswer).controller.snapshot.kernels,
      ((mount clientForm (.shared 0) .ignore).run lateAnswer).controller.snapshot.status,
      (((mount clientForm (.shared 0) .ignore).run lateAnswer).form.model 0).id .kernelId) =
    ([⟨⟨2⟩, "6.4.0", false⟩], .ready (.client ⟨2⟩), some ⟨2⟩) := by
  have hown : ∀ t c, .observe t c ∈ lateAnswer → c = .shared 0 := by simp [lateAnswer]
  have hP : (mount clientForm (.shared 0) .ignore).Always lateAnswer (AnswersAs oneKernel) := by
    simp only [lateAnswer, always_cons, always_nil, and_true]
    refine ⟨?_, ?_, ?_, ?_, ?_, ?_, ?_⟩ <;> intro load answer key x h hx <;> cases h
    · cases hx.eq rfl; rfl
    · cases hx.eq rfl; rfl
  have hshown : (mount clientForm (.shared 0) .ignore).Since lateAnswer (Shows .system)
      (KeepsShowing .system 0) := by
    refine ⟨lateAnswer.take 3, .render ⟨some .system, false⟩, lateAnswer.drop 4, rfl, rfl, ?_⟩
    simp only [lateAnswer, List.drop_succ_cons, List.drop_zero, always_cons, always_nil, and_true]
    exact ⟨⟨.inl rfl, rfl, rfl⟩, ⟨.inl rfl, rfl, rfl⟩, ⟨.inl rfl, rfl, rfl⟩⟩
  have hleft : (mount clientForm (.shared 0) .ignore).Since lateAnswer Derives
      (LeavesKernel 0) := by
    refine ⟨lateAnswer.take 3, .render ⟨some .system, false⟩, lateAnswer.drop 4, rfl,
      fun h => absurd h (by decide), ?_⟩
    simp only [lateAnswer, List.drop_succ_cons, List.drop_zero, always_cons, always_nil, and_true]
    simp [LeavesKernel]
  have hquiet : ∀ n key x,
      ¬ Live ((mount clientForm (.shared 0) .ignore).run lateAnswer).loads n (.kernels key x) := by
    have hover : ∀ l ∈ ((mount clientForm (.shared 0) .ignore).run lateAnswer).loads,
        l.question = .clients ∨ l.question = .products ∨ l.stage.isLive = false := by decide
    rintro n key x ⟨stage, hl, hs⟩
    rcases hover _ (List.mem_of_getElem? hl) with h | h | h
    · cases h
    · cases h
    · rw [hs] at h; cases h
  exact rest_run clientForm 0 .ignore oneKernel .system lateAnswer (by decide) hown hP rfl hshown
    hleft hquiet

end Session

end LivePatching
