import Mathlib.Data.List.Nodup
import LivePatching.Proofs.Carryover
import LivePatching.Proofs.Loads

/-!
# What a render shows

* `answersOf`, `Outcome`: what the provider has answered to a load of kernels, and what has become
  of it.
* `Fetches`, `fetches_run`: **the status and the kernels listed are those of the answer to the load
  with the current key.**
* `chosen_since`: from the answer on, the first kernel is chosen, unless the form writes another.
* `Faithful`: what is shown is what the form and the answers say.
* `render_faithful`: **every render of a sub-form that is up is faithful.**
-/

namespace LivePatching

open Json

/-! ## The labels of the kernels -/

/-- The field shows the first kernel of the list as chosen. -/
structure ShowsFirst (kernels : List Kernel) (f : SelectField) : Prop where
  value : ∃ o ∈ f.options, f.value = some o.value
  labelled : f.selectedLabel?.isSome = true
  label : (kernels.map (·.id)).Nodup → f.selectedLabel? = (firstKernel kernels).map Kernel.label

/-- A field over a list shows its first kernel. -/
theorem showsFirst {kernels : List Kernel} {f : SelectField} (hne : kernels ≠ [])
    (hoptions : f.options = kernels.map fun k => ⟨k.id, k.label⟩)
    (hvalue : f.value = (firstKernel kernels).map (·.id)) : ShowsFirst kernels f := by
  obtain ⟨k, hk⟩ := exists_firstKernel hne
  have hmem := firstKernel_mem hk
  have hid : f.value = some k.id := by
    rw [hvalue, hk]
    rfl
  -- the label shown is that of the first kernel with the identifier
  have hlabel : f.selectedLabel? = (kernels.find? fun k' => k'.id = k.id).map Kernel.label := by
    have hfind : f.options.find? (fun o => o.value = k.id) =
        (kernels.find? fun k' => k'.id = k.id).map fun k' => ⟨k'.id, k'.label⟩ := by
      rw [hoptions, List.find?_map]
      rfl
    simp only [SelectField.selectedLabel?, hid, Option.bind_eq_bind, Option.bind_some, hfind]
    cases kernels.find? fun k' => k'.id = k.id <;> rfl
  obtain ⟨k', hk'⟩ : ∃ k', (kernels.find? fun k' => k'.id = k.id) = some k' :=
    Option.isSome_iff_exists.mp (List.find?_isSome.mpr ⟨k, hmem, by simp⟩)
  refine ⟨⟨⟨k.id, k.label⟩, ?_, hid⟩, ?_, fun hdistinct => ?_⟩
  · rw [hoptions]
    exact List.mem_map_of_mem hmem
  · rw [hlabel, hk']
    rfl
  · have hsame : k' = k := List.inj_on_of_nodup_map hdistinct (List.mem_of_find?_eq_some hk') hmem
      (by simpa using List.find?_some hk')
    rw [hlabel, hk', hk, hsame]

namespace Session

variable {s s₀ : Session} {a : Action} {as : List Action} {m n : Nat} {t : Template}
  {key : RequestKey} {x : Scope} {answer : Except ProviderError (List Kernel)}

/-! ## Answers -/

/-- What the provider answers in a step to the load, if that is a load of kernels which is
running. -/
def answerOf? (n : Nat) (s : Session) : Action → Option (Except ProviderError (List Kernel))
  | .answerKernels load answer =>
    match s.loads[load]? with
    | some ⟨.kernels _ _, .running⟩ => if load = n then some answer else none
    | _ => none
  | _ => none

/-- The answers to one load in a run. -/
def answersOf (s : Session) (n : Nat) (as : List Action) :
    List (Except ProviderError (List Kernel)) :=
  s.collect (answerOf? n) as

theorem answersOf_concat (s : Session) (n : Nat) (as : List Action) (a : Action) :
    s.answersOf n (as ++ [a]) = s.answersOf n as ++ (answerOf? n (s.run as) a).toList :=
  collect_concat

/-- A step without an answer for kernels answers no load. -/
theorem answerOf_unasked (h : s.Unasked (s.turn a)) (n : Nat) : answerOf? n s a = none := by
  unfold answerOf?
  split
  · rename_i load answer
    split
    · rename_i key x hl
      exact absurd hl (h load answer key x rfl)
    · rfl
  · rfl

theorem answerOf_observed {i : Inputs} (h : (s.turn a).observed = some i) (n : Nat) :
    answerOf? n s a = none := by
  refine answerOf_unasked (fun load answer key x ht => ?_) n
  rw [ht] at h
  cases h

/-- An answer for kernels is the answer to its load. -/
theorem answerOf_answered {load : Nat} (ht : s.turn a = .answerKernels load answer)
    (hl : s.loads[load]? = some ⟨.kernels key x, .running⟩) :
    answerOf? n s a = if load = n then some answer else none := by
  have ha : a = .answerKernels load answer := turn_action (by rw [ht]; rfl)
  rw [ha, answerOf?, hl]

/-- Who answers was asked. -/
theorem asks_of_answerOf (h : answerOf? n s a = some answer) :
    ∃ key x, Asks s.loads n (.kernels key x) := by
  unfold answerOf? at h
  split at h
  · split at h
    · rename_i hl
      split at h
      · rename_i hload
        subst hload
        exact ⟨_, _, asks_of_getElem? hl⟩
      · cases h
    · cases h
  · cases h

theorem asks_kernels_step (s : Session) (a : Action) (h : Asks s.loads n (.kernels key x)) :
    Asks (s.step a).loads n (.kernels key x) := by
  obtain ⟨⟨q, stage⟩, hl, hq⟩ := Option.map_eq_some_iff.mp h
  obtain ⟨stage', hl', -⟩ := advance_step hl a
  cases hq
  exact asks_of_getElem? hl'

/-- Only loads of kernels are answered with kernels. -/
theorem asks_of_answersOf (h : answer ∈ s.answersOf n as) :
    ∃ key x, Asks (s.run as).loads n (.kernels key x) := by
  induction as using List.reverseRecOn with
  | nil => exact absurd h List.not_mem_nil
  | append_singleton as a ih =>
    rw [answersOf_concat] at h
    have hbefore : ∃ key x, Asks (s.run as).loads n (.kernels key x) := by
      rcases List.mem_append.mp h with h | h
      · exact ih h
      · exact asks_of_answerOf (Option.mem_toList.mp h)
    obtain ⟨key, x, ha⟩ := hbefore
    rw [run_concat]
    exact ⟨key, x, asks_kernels_step _ a ha⟩

/-- An answer leaves the current key. -/
theorem Answered.key_eq {s' : Session} {load : Nat} {key' : RequestKey}
    (h : Answered s s' load key' x) (hk : s.controller.current = some key')
    (hcur : s'.controller.current = some key) : key' = key :=
  Option.some.inj (hk.symm.trans (h.current ▸ hcur))

/-! ## What has become of a load -/

/-- What the answers to the load with the current key, if there are any, have made of the status
and of the list. -/
inductive Outcome (s : Session) (answers : List (Except ProviderError (List Kernel))) (x : Scope) :
    Prop where
  | awaited : answers = [] → s.controller.snapshot.status = .loading x → Outcome s answers x
  | listed (kernels : List Kernel) : answers = [.ok kernels] →
      s.controller.snapshot.status = .ready x → s.controller.snapshot.kernels = kernels →
      Outcome s answers x
  | refused (e : ProviderError) : answers = [.error e] →
      s.controller.snapshot.status = .failed x → Outcome s answers x

/-- The current key, if it has a scope, has its load, and the status and the list are those of the
answer to it. -/
def Fetches (s₀ : Session) (as : List Action) : Prop :=
  ∀ key x, (s₀.run as).controller.current = some key → key.scope = some x →
    ∃ n, Asks (s₀.run as).loads n (.kernels key x) ∧ Outcome (s₀.run as) (s₀.answersOf n as) x

/-- Status and kernels are all that an outcome is about. -/
theorem Outcome.congr {s' : Session} {answers : List (Except ProviderError (List Kernel))}
    (h : Outcome s answers x) (hst : s'.controller.snapshot.status = s.controller.snapshot.status)
    (hk : s'.controller.snapshot.kernels = s.controller.snapshot.kernels) :
    Outcome s' answers x := by
  cases h with
  | awaited ha hs => exact .awaited ha (hst.trans hs)
  | listed kernels ha hs hl => exact .listed kernels ha (hst.trans hs) (hk.trans hl)
  | refused e ha hs => exact .refused e ha (hst.trans hs)

/-- A load that can still answer has not answered. -/
theorem Outcome.unanswered {answers : List (Except ProviderError (List Kernel))}
    (h : Outcome s answers x) (hst : s.controller.snapshot.status = .loading x) : answers = [] := by
  cases h with
  | awaited ha _ => exact ha
  | listed _ _ hs => rw [hst] at hs; cases hs
  | refused _ _ hs => rw [hst] at hs; cases hs

/-- A load that nobody has issued has no answers. -/
theorem answersOf_eq_nil (h : ∀ key x, ¬ Asks (s₀.run as).loads n (.kernels key x)) :
    s₀.answersOf n as = [] := by
  refine List.eq_nil_iff_forall_not_mem.mpr fun answer hmem => ?_
  obtain ⟨key, x, ha⟩ := asks_of_answersOf hmem
  exact h key x ha

section Fetches

variable {s' : Session} {load : Nat} {key' : RequestKey} {x' : Scope}

/-- The load with the current key has not answered before, and no other one has the key. -/
theorem Fetches.first (h : Fetches s₀ as) (hc : Coherent (s₀.run as))
    (ha : Answered (s₀.run as) s' load key' x')
    (hk : (s₀.run as).controller.current = some key')
    (hcur : s'.controller.current = some key) (hx : key.scope = some x) :
    key' = key ∧ x' = x ∧ s₀.answersOf load as = [] := by
  have hasks := asks_of_getElem? ha.running
  obtain rfl := ha.key_eq hk hcur
  obtain ⟨n, hn, hout⟩ := h key' x hk hx
  obtain rfl := hc.unique n load key' x x' hn hasks
  cases hn.eq hasks
  exact ⟨rfl, rfl, hout.unanswered (hc.waiting n key' x ⟨_, ha.running, rfl⟩ hk)⟩

/-- A load whose answer comes too late does not have the current key. -/
theorem Answered.ne_of_stale {s : Session} (ha : Answered s s' load key' x') (hc : Coherent s)
    (hstale : s.controller.tornDown = true ∨ s.controller.current ≠ some key')
    (hcur : s.controller.current = some key) (hn : Asks s.loads n (.kernels key x)) :
    load ≠ n := by
  rintro rfl
  cases hn.eq (asks_of_getElem? ha.running)
  rcases hstale with htorn | hne
  · rw [hc.torn htorn] at hcur
    cases hcur
  · exact hne hcur

/-- One more step keeps what is fetched. -/
theorem Fetches.concat (h : Fetches s₀ as) (hc : Coherent (s₀.run as)) (a : Action) :
    Fetches s₀ (as ++ [a]) := by
  intro key x
  simp only [run_concat, answersOf_concat]
  intro hcur hx
  -- the key stays until a derivation, and until then only its own load adds to the answers
  cases step_kernels (s₀.run as) a with
  | quiet hu hq _ =>
    obtain ⟨n, ha, hout⟩ := h key x (hq.current ▸ hcur) hx
    refine ⟨n, (hq.asks _ _ _).mpr ha, ?_⟩
    rw [answerOf_unasked hu, Option.toList_none, List.append_nil]
    exact hout.congr hq.status hq.kernels
  | derived i place hi hd =>
    have hkey : ⟨(s₀.run as).controller.generation + 1, i.scope⟩ = key :=
      Option.some.inj (hd.current.symm.trans hcur)
    subst hkey
    have hst : ((s₀.run as).step a).controller.snapshot.status = .loading x := by
      have hscope : i.scope = some x := hx
      rw [hd.status, hscope]
      rfl
    -- the load is new, so it has no answer yet
    refine ⟨place, (hd.issued x hx).asks, .awaited ?_ hst⟩
    rw [answersOf_eq_nil hd.vacant, answerOf_observed hi]
    rfl
  | suspended _ hd =>
    rw [hd.current] at hcur
    cases hcur
  | tornDown _ hd =>
    rw [hd.current] at hcur
    cases hcur
  | stale load answer key' x' ht ha hstale hcontroller =>
    rw [hcontroller] at hcur
    obtain ⟨n, hn, hout⟩ := h key x hcur hx
    -- the load that answers is not the one with the current key
    have hne := ha.ne_of_stale hc hstale hcur hn
    refine ⟨n, (ha.asks _ _).mpr hn, ?_⟩
    rw [answerOf_answered ht ha.running, if_neg hne, Option.toList_none, List.append_nil]
    exact hout.congr (by rw [hcontroller]) (by rw [hcontroller])
  | forgotten load answer key' x' ht ha hup hk hi => exact absurd hi (hc.inputs_ne_none hk)
  | installed load kernels key' x' i ht ha hup hk hi hkernels hst =>
    obtain ⟨rfl, rfl, hnone⟩ := h.first hc ha hk hcur hx
    refine ⟨load, (ha.asks _ _).mpr (asks_of_getElem? ha.running), .listed kernels ?_ hst hkernels⟩
    rw [hnone, answerOf_answered ht ha.running, if_pos rfl]
    rfl
  | refused load e key' x' i ht ha hup hk hi hkernels hst =>
    obtain ⟨rfl, rfl, hnone⟩ := h.first hc ha hk hcur hx
    refine ⟨load, (ha.asks _ _).mpr (asks_of_getElem? ha.running), .refused e ?_ hst⟩
    rw [hnone, answerOf_answered ht ha.running, if_pos rfl]
    rfl

end Fetches

/-- The kernels shown have been fetched by the load of the current key. -/
theorem fetches_run (hc₀ : Coherent s₀) (h₀ : s₀.controller.current = none) (as : List Action) :
    Fetches s₀ as := by
  induction as using List.reverseRecOn with
  | nil =>
    intro key x hcur
    rw [run_nil, h₀] at hcur
    cases hcur
  | append_singleton as a ih => exact ih.concat (coherent_run hc₀ as) a

/-! ## The kernel that is chosen -/

/-- The step brings the answer to the load. -/
def Answers (n : Nat) (answer : Except ProviderError (List Kernel)) (s : Session) (a : Action) :
    Prop :=
  answerOf? n s a = some answer

theorem mem_answersOf {keeps : Session → Action → Prop} (h : s₀.Since as (Answers n answer) keeps) :
    answer ∈ s₀.answersOf n as := by
  obtain ⟨xs, a, ys, has, ha, -⟩ := h
  exact mem_collect.mpr ⟨xs, a, ys, has, ha⟩

/-- The load with the current key has answered, so none that is running has the key. -/
theorem Fetches.answered (h : Fetches s₀ as) (hc : Coherent (s₀.run as))
    (hasks : Asks (s₀.run as).loads n (.kernels key x)) (hmem : answer ∈ s₀.answersOf n as)
    {load : Nat} {x' : Scope} (hl : (s₀.run as).loads[load]? = some ⟨.kernels key x', .running⟩) :
    (s₀.run as).controller.current ≠ some key := by
  intro hcur
  have hasks' := asks_of_getElem? hl
  have hx : key.scope = some x := (hc.keys n key x hasks).2
  obtain ⟨n', hn', hout⟩ := h key x hcur hx
  obtain rfl := hc.unique n' n key x x hn' hasks
  obtain rfl := hc.unique n' load key x x' hn' hasks'
  cases hn'.eq hasks'
  rw [hout.unanswered (hc.waiting n' key x ⟨_, hl, rfl⟩ hcur)] at hmem
  cases hmem

/-- The answer to the load with the current key brings the first kernel of its list. -/
theorem chosen_answered (hc : Coherent s) (hm : m < s.form.models.length) {kernels : List Kernel}
    {i : Inputs} (h : Answers n (.ok kernels) s a)
    (hcur : (s.step a).controller.current = some key)
    (hasks : Asks (s.step a).loads n (.kernels key x))
    (hi : (s.step a).controller.inputs = some i) (hw : i.context.writes = some m) :
    ((s.step a).form.model m).id .kernelId = (firstKernel kernels).map (·.id) := by
  unfold Answers at h
  -- only the step that installs the list answers with it while its key is current
  cases step_kernels s a with
  | quiet hu _ _ => rw [answerOf_unasked hu] at h; cases h
  | derived j place ht _ => rw [answerOf_observed ht] at h; cases h
  | suspended _ hd => rw [hd.current] at hcur; cases hcur
  | tornDown _ hd => rw [hd.current] at hcur; cases hcur
  | stale load answer key' x' ht ha hs =>
    rw [answerOf_answered ht ha.running] at h
    split at h
    · rename_i hload
      subst hload
      cases ((ha.asks _ _).mp hasks).eq (asks_of_getElem? ha.running)
      rw [ha.current] at hcur
      rcases hs with htorn | hne
      · rw [hc.torn htorn] at hcur; cases hcur
      · exact absurd hcur hne
    · cases h
  | forgotten load answer key' x' _ ha _ hk hno => exact absurd hno (hc.inputs_ne_none hk)
  | installed load kernels' key' x' j ht ha _ hk hj _ _ hmodels =>
    rw [answerOf_answered ht ha.running] at h
    split at h
    · cases h
      have hij : j = i := Option.some.inj (hj.symm.trans (ha.inputs ▸ hi))
      subst hij
      rw [Form.model_congr hmodels, Form.id_writeKernelId s.form hw hm, defaultKernel_eq]
    · cases h
  | refused load e key' x' j ht ha =>
    rw [answerOf_answered ht ha.running] at h
    split at h <;> cases h

/-- **From the answer on, the first kernel of the list is chosen**, unless the form writes
another. -/
theorem chosen_since (hc₀ : Coherent s₀) (h₀ : s₀.controller.current = none)
    (hm : m < s₀.form.models.length) {kernels : List Kernel} {i : Inputs}
    (hcur : (s₀.run as).controller.current = some key)
    (hasks : Asks (s₀.run as).loads n (.kernels key x))
    (hi : (s₀.run as).controller.inputs = some i) (hw : i.context.writes = some m)
    (hsince : s₀.Since as (Answers n (.ok kernels)) (LeavesKernel m)) :
    ((s₀.run as).form.model m).id .kernelId = (firstKernel kernels).map (·.id) := by
  induction as using List.reverseRecOn with
  | nil => exact absurd hsince not_since_nil
  | append_singleton as a ih =>
    rw [run_concat] at hcur hasks hi ⊢
    have hc : Coherent (s₀.run as) := coherent_run hc₀ as
    have hm' : m < (s₀.run as).form.models.length := by rw [length_run]; exact hm
    rcases since_concat.mp hsince with hanswer | ⟨hsince, hleft⟩
    · exact chosen_answered hc hm' hanswer hcur hasks hi hw
    · -- nothing writes the kernel any more: the form leaves it alone, and the load has had its
      -- answer
      have hmem := mem_answersOf hsince
      obtain ⟨key₁, x₁, hasks₁⟩ := asks_of_answersOf hmem
      cases (asks_kernels_step _ a hasks₁).eq hasks
      have hfetches : Fetches s₀ as := fetches_run hc₀ h₀ as
      cases step_kernels (s₀.run as) a with
      | quiet _ hq hmodels =>
        rw [Form.model_congr hmodels, kernelId_own hleft]
        exact ih (hq.current ▸ hcur) hasks₁ (hq.inputs ▸ hi) hsince
      | derived j place _ hd => exact absurd hcur (hc.current_ne_of_derived hd hasks₁)
      | suspended _ hd => rw [hd.current] at hcur; cases hcur
      | tornDown _ hd => rw [hd.current] at hcur; cases hcur
      | stale load answer key' x' _ ha _ hcontroller hmodels =>
        rw [Form.model_congr hmodels]
        exact ih (hcontroller ▸ hcur) hasks₁ (hcontroller ▸ hi) hsince
      | forgotten load answer key' x' _ ha _ hk hno => exact absurd hno (hc.inputs_ne_none hk)
      | installed load kernels' key' x' j _ ha _ hk =>
        obtain rfl := ha.key_eq hk hcur
        exact absurd hk (hfetches.answered hc hasks₁ hmem ha.running)
      | refused load e key' x' j _ ha _ hk =>
        obtain rfl := ha.key_eq hk hcur
        exact absurd hk (hfetches.answered hc hasks₁ hmem ha.running)

/-! ## What is shown -/

/-- The load is the last one that asks for the kernels of the scope. -/
def Latest (s : Session) (x : Scope) (n : Nat) : Prop :=
  (∃ key, Asks s.loads n (.kernels key x)) ∧ ∀ m key, Asks s.loads m (.kernels key x) → m ≤ n

/-- What the kernel field shows of the load, by the answers to it, after a run. -/
structure ShowsLoad (s₀ : Session) (as : List Action) (m n : Nat) (f : SelectField) : Prop where
  open_iff : f.disabled = false ↔ ∀ e, .error e ∉ s₀.answersOf n as
  empty : (∀ kernels, .ok kernels ∉ s₀.answersOf n as) → f.options = []
  options : ∀ kernels, .ok kernels ∈ s₀.answersOf n as → f.options = kernels.map fun k =>
    ⟨k.id, if k.default then k.version ++ " (default)" else k.version⟩
  chosen : ∀ kernels, kernels ≠ [] → s₀.Since as (Answers n (.ok kernels)) (LeavesKernel m) →
    ShowsFirst kernels f

/-- What is shown of the template in the form with the model, after a run. -/
structure Faithful (s₀ : Session) (as : List Action) (m : Nat) (t : Template) (editing : Bool)
    (scope : Option Scope) (v : View) : Prop where
  /-- The field of the template's scope is there, and besides it only that of the kernel. -/
  fields : ∃ f, v.fields = [f, v.kernel] ∧ f.field = t.scopeField ∧ f.required = true ∧
    f.disabled = editing
  kernel : v.kernel.field = .kernelId
  required : v.kernel.required = scope.isSome
  closed : scope = none → v.kernel.disabled = true ∧ v.kernel.options = []
  shown : ∀ x, scope = some x → ∃ n, Latest (s₀.run as) x n ∧ ShowsLoad s₀ as m n v.kernel

/-- The kernel field shows what its load was answered. -/
theorem showsLoad (hc : Coherent (s₀.run as)) (hcontext : (s₀.run as).context = .shared m)
    (hout : Outcome (s₀.run as) (s₀.answersOf n as) x)
    (hchosen : ∀ kernels, s₀.Since as (Answers n (.ok kernels)) (LeavesKernel m) →
      ((s₀.run as).form.model m).id .kernelId = (firstKernel kernels).map (·.id)) :
    ShowsLoad s₀ as m n
      (View.kernelField true (s₀.run as).chosen (s₀.run as).controller.snapshot) := by
  -- a load is answered once, so its answer is the list there is
  have hoptions : ∀ kernels, .ok kernels ∈ s₀.answersOf n as →
      (s₀.run as).controller.snapshot.kernels = kernels := by
    intro kernels hmem
    cases hout with
    | awaited ha _ => rw [ha] at hmem; cases hmem
    | listed kernels' ha _ hk => rw [ha] at hmem; cases List.mem_singleton.mp hmem; exact hk
    | refused e ha _ => rw [ha] at hmem; cases List.mem_singleton.mp hmem
  have hshown : ∀ kernels, .ok kernels ∈ s₀.answersOf n as →
      (View.kernelField true (s₀.run as).chosen (s₀.run as).controller.snapshot).options =
        kernels.map fun k => ⟨k.id, k.label⟩ := by
    intro kernels hmem
    rw [← hoptions kernels hmem]
    rfl
  refine ⟨?_, fun hno => ?_, hshown, fun kernels hne hsince => ?_⟩
  · show (!true || (s₀.run as).controller.snapshot.status.isFailed) = false ↔ _
    cases hout with
    | awaited ha hst => simp [ha, hst, KernelStatus.isFailed]
    | listed kernels ha hst => simp [ha, hst, KernelStatus.isFailed]
    | refused e ha hst => simp [ha, hst, KernelStatus.isFailed]
  · have hnone : (s₀.run as).controller.snapshot.kernels = [] := by
      refine hc.kernels fun y hy => ?_
      cases hout with
      | awaited _ hst => rw [hst] at hy; cases hy
      | listed kernels ha _ _ => exact hno kernels (by rw [ha]; exact List.mem_singleton_self _)
      | refused _ _ hst => rw [hst] at hy; cases hy
    simp only [View.kernelField, hnone, List.map_nil]
  · refine showsFirst hne (hshown kernels (mem_answersOf hsince)) ?_
    rw [← hchosen kernels hsince]
    simp only [View.kernelField, Session.chosen, Chosen.read, hcontext, Context.shared]

/-- Two fields are shown: the template's and the kernel's. -/
theorem fields_render (t : Template) (editing : Bool) (chosen : Chosen) (snapshot : Snapshot) :
    ∃ f, (View.render t editing chosen snapshot).fields =
        [f, (View.render t editing chosen snapshot).kernel] ∧
      f.field = t.scopeField ∧ f.required = true ∧ f.disabled = editing := by
  cases t with
  | system => exact ⟨View.clientField editing chosen snapshot, rfl, rfl, rfl, rfl⟩
  | product => exact ⟨View.productField editing chosen snapshot, rfl, rfl, rfl, rfl⟩

/-- **Every render of a sub-form that is up is faithful**: it shows the field of the template and
that of the kernel, with what was answered to the last load for the scope. -/
theorem render_faithful (form : Form) (m : Nat) (policy : StalePolicy) (as : List Action)
    (t : Template) (editing : Bool) (hm : m < form.models.length) :
    let s₀ := mount form (.shared m) policy
    let s := s₀.run as
    s.controller.tornDown = false →
    ∃ v, (s.render ⟨some t, editing⟩).2 = some v ∧
      Faithful s₀ (as ++ [.render ⟨some t, editing⟩]) m t editing
        (activeScope t ((s.form.model m).id .clientId) ((s.form.model m).id .productId)) v := by
  intro s₀ s hup
  have hc₀ : Coherent s₀ := coherent_mount form (.shared m) policy
  have hrun : s₀.run (as ++ [.render ⟨some t, editing⟩]) = s.step (.render ⟨some t, editing⟩) :=
    run_concat s₀ as _
  generalize has : as ++ [.render ⟨some t, editing⟩] = as' at hrun ⊢
  have hrenders : Renders t s (.render ⟨some t, editing⟩) := ⟨rfl, hup⟩
  have hc : Coherent (s₀.run as') := coherent_run hc₀ as'
  have hup' : (s₀.run as').controller.tornDown = false := by rw [hrun]; exact up_renders hrenders
  have hcontext : s.context = .shared m := context_run s₀ as
  have hcontext' : (s₀.run as').context = .shared m := context_run s₀ as'
  -- the render leaves inputs, and what writes for them is the model it reads
  obtain ⟨i, hi, hw⟩ : ∃ i, (s₀.run as').controller.inputs = some i ∧
      i.context.writes = some m := by
    obtain ⟨i, hi, hw⟩ := inputs_renders hrenders
    exact ⟨i, by rw [hrun, hi], by rw [hw, hcontext]; rfl⟩
  -- a render writes at most the kernel, so the scope is that of the form before it
  have hscope : (s₀.run as').chosen.scope t =
      activeScope t ((s.form.model m).id .clientId) ((s.form.model m).id .productId) := by
    have hsame : ∀ {g : Field}, g ≠ .kernelId →
        ((s₀.run as').form.model m).id g = (s.form.model m).id g := by
      intro g hg
      rw [hrun]
      exact id_step_unwritten hg (by simp)
    simp only [Session.chosen, Chosen.read, Chosen.scope, hcontext', Context.shared,
      hsame (show Field.clientId ≠ .kernelId by decide),
      hsame (show Field.productId ≠ .kernelId by decide)]
  have hbound : i.scope = (s₀.run as').chosen.scope t := by
    have hb := bound_renders hrenders
    rw [← hrun] at hb
    exact hb i hi
  refine ⟨.render t editing (s₀.run as').chosen (s₀.run as').controller.snapshot, ?_, ?_⟩
  · rw [hrun]
    rfl
  rw [← hscope]
  have hkernel :
      (View.render t editing (s₀.run as').chosen (s₀.run as').controller.snapshot).kernel =
      View.kernelField ((s₀.run as').chosen.scope t).isSome (s₀.run as').chosen
        (s₀.run as').controller.snapshot := rfl
  refine ⟨fields_render t editing _ _, rfl, by rw [hkernel]; rfl, fun hnone => ?_, fun x hx => ?_⟩
  · -- without a scope nothing is listed
    have hst : ∀ y, (s₀.run as').controller.snapshot.status ≠ .ready y := by
      intro y hy
      have hstatus := hc.status
      rw [hi, hy, Option.bind_some, hbound, hnone] at hstatus
      cases hstatus
    rw [hkernel, hnone]
    simp only [View.kernelField, hc.kernels hst]
    exact ⟨rfl, rfl⟩
  · -- with a scope the field shows what the load with the current key was answered
    have hcur := hc.current hup'
    rw [hi] at hcur
    have hkey : i.scope = some x := hbound.trans hx
    obtain ⟨n, hasks, hout⟩ := fetches_run hc₀ rfl as' _ x hcur hkey
    have hgrows : KeysGrow (s₀.run as') :=
      keysGrow_run (keysGrow_mount form (.shared m) policy) hc₀ as'
    refine ⟨n, ⟨⟨_, hasks⟩, fun n' key' ha => hgrows.le hc hcur hasks ha⟩, ?_⟩
    rw [hkernel, hx]
    exact showsLoad hc hcontext' hout fun kernels hsince =>
      chosen_since hc₀ rfl hm hcur hasks hi hw hsince

/-- Two kernels for client 1, of which the second is the default one. -/
def twoKernels : List Kernel := [⟨⟨7⟩, "6.4.0", false⟩, ⟨⟨8⟩, "6.5.0", true⟩]

/-- The kernels of client 1 are loaded. -/
def loadedKernels : List Action :=
  [.render ⟨some .system, false⟩, .start 2, .answerKernels 2 (.ok twoKernels)]

theorem render_faithful_loadedKernels :
    ∃ v, (((mount clientForm (.shared 0) .cancel).run loadedKernels).render
        ⟨some .system, true⟩).2 = some v ∧
      v.kernel.options = [⟨⟨7⟩, "6.4.0"⟩, ⟨⟨8⟩, "6.5.0 (default)"⟩] ∧
      v.kernel.disabled = false ∧ v.kernel.selectedLabel? = some "6.5.0 (default)" := by
  obtain ⟨v, hv, hfaithful⟩ := render_faithful clientForm 0 .cancel loadedKernels .system true
    (by decide) rfl
  have hasks : Asks ((mount clientForm (.shared 0) .cancel).run
      (loadedKernels ++ [.render ⟨some .system, true⟩])).loads 2
      (.kernels ⟨1, some (.client ⟨1⟩)⟩ (.client ⟨1⟩)) := by unfold Asks; decide +kernel
  have hlength : ((mount clientForm (.shared 0) .cancel).run
      (loadedKernels ++ [.render ⟨some .system, true⟩])).loads.length = 3 := by decide +kernel
  obtain ⟨n, ⟨⟨key, ha⟩, hlatest⟩, hshows⟩ := hfaithful.shown (.client ⟨1⟩) (by decide +kernel)
  -- it is the only load of kernels
  obtain rfl : n = 2 := by
    have hle := hlatest 2 _ hasks
    have hlt := ha.lt_length
    omega
  have hsince : (mount clientForm (.shared 0) .cancel).Since
      (loadedKernels ++ [.render ⟨some .system, true⟩]) (Answers 2 (.ok twoKernels))
      (LeavesKernel 0) := by
    refine ⟨loadedKernels.take 2, _, [.render ⟨some .system, true⟩], rfl, rfl, ?_⟩
    simp [always_cons, always_nil, LeavesKernel]
  have hanswers : (mount clientForm (.shared 0) .cancel).answersOf 2
      (loadedKernels ++ [.render ⟨some .system, true⟩]) = [.ok twoKernels] := rfl
  have hfirst := hshows.chosen twoKernels (by decide) hsince
  refine ⟨v, hv, ?_, hshows.open_iff.mpr fun e => by simp [hanswers], ?_⟩
  · rw [hshows.options twoKernels (mem_answersOf hsince)]
    rfl
  · rw [hfirst.label (by decide)]
    rfl

end Session

end LivePatching
