import Mathlib.Data.List.Nodup
import LivePatching.Proofs.Coherence
import LivePatching.Proofs.Record

/-!
# Where the kernels come from

* `Recorded`: a record of derivations and writes is in order for a session: keys only grow, the
  current inputs are those of the last key, and a load that can still answer has not led to a write.
* `recorded_run`: **the record of every run is in order.**
* `ready_since`: kernels that are listed were taken over from the one load with the current key, and
  nothing was derived or forgotten since.
* `provenance`: **all that is listed or written comes from the current derivation, and only once.**
-/

namespace LivePatching.Session

/-- What the derivations and the writes of a run have to do with the session it leads to: keys
increase, the current one is among them, and each writes once at most. -/
structure Recorded (s : Session) (ds : List Derivation) (ws : List KernelWrite) : Prop where
  keys : ds.Pairwise fun d d' => d.key.generation < d'.key.generation
  bound : ∀ d ∈ ds, d.key.generation ≤ s.controller.generation
  current : ∀ i, s.controller.inputs = some i → ⟨⟨s.controller.generation, i.scope⟩, i⟩ ∈ ds
  written : ∀ w ∈ ws, ∃ d ∈ ds, d.key = w.key ∧ d.inputs.context.writes = some w.model
  once : (ws.map KernelWrite.key).Nodup
  unwritten : ∀ n key x, Live s.loads n (.kernels key x) → ∀ w ∈ ws, w.key ≠ key

variable {s s' : Session} {ds : List Derivation} {ws : List KernelWrite} {a : Action} {i : Inputs}
  {place load : Nat} {key : RequestKey} {x : Scope}

/-- A sub-form just mounted has nothing on record. -/
theorem recorded_mount (form : Form) (context : Context) (policy : StalePolicy) :
    Recorded (.mount form context policy) [] [] where
  keys := .nil
  bound _ hd := absurd hd List.not_mem_nil
  current i hi := by cases hi
  written _ hw := absurd hw List.not_mem_nil
  once := .nil
  unwritten _ _ _ _ _ hw := absurd hw List.not_mem_nil

/-- No write has a later key than the present one. -/
theorem Recorded.written_bound (h : Recorded s ds ws) {w : KernelWrite} (hw : w ∈ ws) :
    w.key.generation ≤ s.controller.generation := by
  obtain ⟨d, hd, hk, -⟩ := h.written w hw
  rw [← hk]
  exact h.bound d hd

/-- Steps that derive nothing and write nothing keep the record. -/
theorem Recorded.kept (h : Recorded s ds ws)
    (hg : s.controller.generation ≤ s'.controller.generation)
    (hi : ∀ i, s'.controller.inputs = some i →
      s.controller.inputs = some i ∧ s'.controller.generation = s.controller.generation)
    (hl : ∀ n key x, Live s'.loads n (.kernels key x) → Live s.loads n (.kernels key x)) :
    Recorded s' ds ws where
  keys := h.keys
  bound d hd := Nat.le_trans (h.bound d hd) hg
  current i hs := by
    obtain ⟨hs, he⟩ := hi i hs
    rw [he]
    exact h.current i hs
  written := h.written
  once := h.once
  unwritten n key x hn := h.unwritten n key x (hl n key x hn)

/-- A derivation goes on record. -/
theorem Recorded.derived (h : Recorded s ds ws) (hd : Derived s s' i place) :
    Recorded s' (ds ++ [⟨⟨s.controller.generation + 1, i.scope⟩, i⟩]) ws where
  keys := by
    refine List.pairwise_append.mpr ⟨h.keys, List.pairwise_singleton _ _, fun d hm d' hm' => ?_⟩
    rw [List.mem_singleton.mp hm']
    exact Nat.lt_succ_of_le (h.bound d hm)
  bound d hm := by
    rw [hd.generation]
    rcases List.mem_append.mp hm with hm | hm
    · exact Nat.le_succ_of_le (h.bound d hm)
    · exact Nat.le_of_eq (by rw [List.mem_singleton.mp hm])
  current j hj := by
    rw [hd.inputs] at hj
    cases hj
    rw [hd.generation]
    exact List.mem_append_right _ (List.mem_singleton.mpr rfl)
  written w hw := by
    obtain ⟨d, hm, hk⟩ := h.written w hw
    exact ⟨d, List.mem_append_left _ hm, hk⟩
  once := h.once
  unwritten n key x hl w hw := by
    rcases hd.live n key x hl with hl | ⟨-, rfl, -⟩
    · exact h.unwritten n key x hl w hw
    · -- the key of the new load is beyond those on record
      intro hk
      have := h.written_bound hw
      rw [hk] at this
      exact Nat.not_succ_le_self _ this

/-- A write for a derivation that has not written, and that no load can write for any more. -/
theorem Recorded.put (h : Recorded s ds ws) {o : Option KernelWrite}
    (hd : ∀ w, o = some w → ∃ d ∈ ds, d.key = w.key ∧ d.inputs.context.writes = some w.model)
    (hnew : ∀ w, o = some w → ∀ v ∈ ws, v.key ≠ w.key)
    (hlive : ∀ w, o = some w → ∀ n x, ¬ Live s.loads n (.kernels w.key x)) :
    Recorded s ds (ws ++ o.toList) := by
  cases o with
  | none => simpa using h
  | some w =>
    exact {
      keys := h.keys, bound := h.bound, current := h.current
      written := fun v hv => by
        rcases List.mem_append.mp hv with hv | hv
        · exact h.written v hv
        · rw [List.mem_singleton.mp hv]
          exact hd w rfl
      once := by
        rw [List.map_append, List.nodup_append]
        refine ⟨h.once, List.pairwise_singleton _ _, fun k hk k' hk' => ?_⟩
        obtain ⟨v, hv, rfl⟩ := List.mem_map.mp hk
        rw [List.mem_singleton.mp hk']
        exact hnew w rfl v hv
      unwritten := fun n key x hl v hv => by
        rcases List.mem_append.mp hv with hv | hv
        · -- a live load has not been written for, by what is on record or by what is added
          exact h.unwritten n key x hl v hv
        · rw [List.mem_singleton.mp hv]
          rintro rfl
          exact hlive w rfl n x hl }

/-- A step that is neither on record as a derivation nor as a write keeps the record. -/
theorem Recorded.silent (h : Recorded s ds ws) (hd : s.derivation? a = none)
    (hw : s.kernelWrite? a = none)
    (hg : s.controller.generation ≤ (s.step a).controller.generation)
    (hi : ∀ i, (s.step a).controller.inputs = some i →
      s.controller.inputs = some i ∧ (s.step a).controller.generation = s.controller.generation)
    (hl : ∀ n key x, Live (s.step a).loads n (.kernels key x) → Live s.loads n (.kernels key x)) :
    Recorded (s.step a) (ds ++ (s.derivation? a).toList) (ws ++ (s.kernelWrite? a).toList) := by
  rw [hd, hw, Option.toList_none, Option.toList_none, List.append_nil, List.append_nil]
  exact h.kept hg hi hl

/-- The answer of the load with the current key may be written. -/
theorem Recorded.answered (h : Recorded s ds ws) (hc : Coherent s)
    (ha : Answered s s' load key x) (hk : s.controller.current = some key)
    (hi : s.controller.inputs = some i) {o : Option KernelWrite}
    (ho : ∀ w, o = some w → w.key = key ∧ i.context.writes = some w.model) :
    Recorded s' ds (ws ++ o.toList) := by
  have hrun : Live s.loads load (.kernels key x) := ⟨_, ha.running, rfl⟩
  have hkept : Recorded s' ds ws := by
    refine h.kept (Nat.le_of_eq ha.generation.symm) (fun j hj => ?_) fun n k y hl =>
      ((ha.live _ _).mp hl).1
    exact ⟨ha.inputs ▸ hj, ha.generation⟩
  -- the write is for the last derivation, and no other load has the key to write again
  refine hkept.put (fun w hw => ?_) (fun w hw => ?_) fun w hw n y hl => ?_
  · obtain ⟨-, j, hj, rfl⟩ := hc.inputs_of_current hk
    rw [hi] at hj
    cases hj
    exact ⟨_, h.current i hi, (ho w hw).1.symm, (ho w hw).2⟩
  · rw [(ho w hw).1]
    exact h.unwritten load key x hrun
  · rw [(ho w hw).1] at hl
    obtain ⟨hl, hn⟩ := (ha.live _ _).mp hl
    exact hn (hc.unique n load key y x hl.asks hrun.asks)

/-- A step keeps the record. -/
theorem recorded_step (h : Recorded s ds ws) (hc : Coherent s) (a : Action) :
    Recorded (s.step a) (ds ++ (s.derivation? a).toList) (ws ++ (s.kernelWrite? a).toList) := by
  cases step_kernels s a with
  | quiet hu hq _ =>
    have hnone := (unrecorded hq.generation).1
    exact h.silent hnone (kernelWrite_unasked hnone hu) (Nat.le_of_eq hq.generation.symm)
      (fun j hj => ⟨hq.inputs ▸ hj, hq.generation⟩) fun n k y hl => (hq.live _ _ _).mp hl
  | derived i place ht hd =>
    rw [derivation_derived ht hd, kernelWrite_derived ht hd]
    -- a derivation without a scope writes, with a key that is new
    have hwrite : ∀ w, (if i.scope = none then i.context.writes.map fun model =>
        KernelWrite.mk ⟨s.controller.generation + 1, i.scope⟩ model none else none) = some w →
        i.scope = none ∧ w.key = ⟨s.controller.generation + 1, i.scope⟩ ∧
          i.context.writes = some w.model := by
      intro w hw
      split at hw
      · rename_i hscope
        exact ⟨hscope, Context.write_eq_some hw⟩
      · cases hw
    refine (h.derived hd).put (fun w hw => ?_) (fun w hw v hv hk => ?_) fun w hw n y hl => ?_
    · obtain ⟨-, hk, hm⟩ := hwrite w hw
      exact ⟨_, List.mem_append_right _ (List.mem_singleton.mpr rfl), hk.symm, hm⟩
    · have := h.written_bound hv
      rw [hk, (hwrite w hw).2.1] at this
      exact Nat.not_succ_le_self _ this
    · obtain ⟨hscope, hk, -⟩ := hwrite w hw
      rw [hk] at hl
      rcases hd.live _ _ _ hl with hl | ⟨-, -, hy⟩
      · exact hc.fresh hl.asks
      · rw [hscope] at hy; cases hy
  | suspended ht hs =>
    have hnone := (suspension_suspended ht hs).1
    exact h.silent hnone (kernelWrite_unasked hnone (by simp [ht, Unasked]))
      (by rw [hs.generation]; omega) (fun j hj => by rw [hs.inputs] at hj; cases hj)
      fun n k y hl => hs.ages.live _ _ hl
  | tornDown ht hd =>
    have hnone := (unrecorded hd.generation).1
    exact h.silent hnone (kernelWrite_unasked hnone (by simp [ht, Unasked]))
      (Nat.le_of_eq hd.generation.symm) (fun j hj => ⟨hd.inputs ▸ hj, hd.generation⟩)
      fun n k y hl => hd.ages.live _ _ hl
  | stale load answer key x ht ha hs hctl _ =>
    exact h.silent (unrecorded ha.generation).1 (kernelWrite_stale ht ha hs)
      (Nat.le_of_eq ha.generation.symm) (fun j hj => ⟨ha.inputs ▸ hj, ha.generation⟩)
      fun n k y hl => ((ha.live _ _).mp hl).1
  | forgotten load answer key x ht ha _ hk hi => exact absurd hi (hc.inputs_ne_none hk)
  | installed load kernels key x i ht ha hup hk hi =>
    -- the load that has answered was the only one to write with its key
    rw [kernelWrite_installed ht ha hup hk hi, (unrecorded ha.generation).1, Option.toList_none,
      List.append_nil]
    exact h.answered hc ha hk hi fun w hw => Context.write_eq_some hw
  | refused load e key x i ht ha hup hk hi =>
    rw [kernelWrite_refused ht ha hup hk hi, (unrecorded ha.generation).1, Option.toList_none,
      List.append_nil]
    refine h.answered hc ha hk hi fun w hw => ?_
    split at hw
    · exact Context.write_eq_some hw
    · cases hw

/-- **The record of every run is in order.** -/
theorem recorded_run (form : Form) (context : Context) (policy : StalePolicy) (as : List Action) :
    Recorded ((mount form context policy).run as)
      ((mount form context policy).derivations as)
      ((mount form context policy).kernelWrites as) := by
  induction as using List.reverseRecOn with
  | nil => exact recorded_mount form context policy
  | append_singleton as a ih =>
    rw [run_concat, derivations, kernelWrites, collect_concat, collect_concat]
    exact recorded_step ih (coherent_run (coherent_mount form context policy) as) a

/-- No two derivations have the same key. -/
theorem Recorded.distinct (h : Recorded s ds ws) : (ds.map Derivation.key).Nodup := by
  refine List.pairwise_map.mpr (h.keys.imp fun hlt he => ?_)
  rw [he] at hlt
  exact Nat.lt_irrefl _ hlt

/-- As long as the generations fit a machine word, so do the keys. -/
theorem Recorded.distinct_word (h : Recorded s ds ws) (hs : s.controller.generation < UInt64.size) :
    (ds.map fun d => d.key.word).Nodup := by
  refine List.pairwise_map.mpr (h.keys.imp_of_mem fun {d d'} hd hd' hlt he => ?_)
  have hg : UInt64.ofNat d.key.generation = UInt64.ofNat d'.key.generation := congrArg Prod.fst he
  have hb := Nat.lt_of_le_of_lt (h.bound d hd) hs
  have hb' := Nat.lt_of_le_of_lt (h.bound d' hd') hs
  have := congrArg UInt64.toNat hg
  rw [UInt64.toNat_ofNat_of_lt' hb, UInt64.toNat_ofNat_of_lt' hb'] at this
  omega

/-- A write has one derivation. -/
theorem Recorded.origin (h : Recorded s ds ws) {w : KernelWrite} (hw : w ∈ ws) :
    ∃ d ∈ ds, d.key = w.key ∧ d.inputs.context.writes = some w.model ∧
      ∀ d' ∈ ds, d'.key = w.key → d' = d := by
  obtain ⟨d, hd, hk, hm⟩ := h.written w hw
  refine ⟨d, hd, hk, hm, fun d' hd' hk' => ?_⟩
  exact List.inj_on_of_nodup_map h.distinct hd' hd (hk'.trans hk.symm)

/-! ## Generations -/

/-- Derivations and suspensions are counted. -/
theorem generation_step (s : Session) (a : Action) :
    (s.step a).controller.generation =
      s.controller.generation + (s.derivation? a).toList.length +
        (s.suspension? a).toList.length := by
  -- where the generation stays, nothing is on record
  have hsame : (s.step a).controller.generation = s.controller.generation →
      (s.step a).controller.generation = s.controller.generation +
        (s.derivation? a).toList.length + (s.suspension? a).toList.length := by
    intro hg
    rw [hg, (unrecorded hg).1, (unrecorded hg).2]
    rfl
  cases step_kernels s a with
  | quiet _ hq _ => exact hsame hq.generation
  | derived i place ht hd =>
    rw [derivation_derived ht hd, suspension_derived ht, hd.generation]
    rfl
  | suspended ht hs =>
    rw [(suspension_suspended ht hs).1, (suspension_suspended ht hs).2, hs.generation]
    rfl
  | tornDown _ hd => exact hsame hd.generation
  | stale load answer key x _ ha => exact hsame ha.generation
  | forgotten load answer key x _ ha => exact hsame ha.generation
  | installed load kernels key x i _ ha => exact hsame ha.generation
  | refused load e key x i _ ha => exact hsame ha.generation

/-- A generation is a derivation or a suspension. -/
theorem generation_run (s : Session) (as : List Action) :
    (s.run as).controller.generation =
      s.controller.generation + (s.derivations as).length + s.suspensions as := by
  induction as using List.reverseRecOn with
  | nil => rfl
  | append_singleton as a ih =>
    unfold derivations suspensions at ih ⊢
    rw [run_concat, generation_step, ih, collect_concat, collect_concat, List.length_append,
      List.length_append]
    omega

/-! ## Kernels that are listed -/

/-- The step answers the load with the kernels while its key is current. -/
def Commits (load : Nat) (key : RequestKey) (x : Scope) (kernels : List Kernel) (s : Session)
    (a : Action) : Prop :=
  a = .answerKernels load (.ok kernels) ∧ s.loads[load]? = some ⟨.kernels key x, .running⟩ ∧
    s.controller.tornDown = false ∧ s.controller.current = some key

/-- The step neither derives nor suspends. -/
def Undisturbed (s : Session) (a : Action) : Prop :=
  s.derivation? a = none ∧ s.suspension? a = none

/-- What is listed was taken over from a load, and nothing was derived or forgotten since. -/
theorem ready_since {s₀ : Session} (h₀ : ∀ x, s₀.controller.snapshot.status ≠ .ready x)
    (as : List Action) : ∀ x, (s₀.run as).controller.snapshot.status = .ready x →
      ∃ load key, Asks (s₀.run as).loads load (.kernels key x) ∧
        s₀.Since as (Commits load key x (s₀.run as).controller.snapshot.kernels) Undisturbed := by
  induction as using List.reverseRecOn with
  | nil => exact fun x hx => absurd hx (h₀ x)
  | append_singleton as a ih =>
    rw [run_concat]
    generalize hs : s₀.run as = s at ih
    intro x hx
    -- a step that leaves the list and the generation alone keeps the load that it came from
    have hkept : (s.step a).controller.generation = s.controller.generation →
        (s.step a).controller.snapshot.status = s.controller.snapshot.status →
        (s.step a).controller.snapshot.kernels = s.controller.snapshot.kernels →
        (∀ n key y, Asks (s.step a).loads n (.kernels key y) ↔ Asks s.loads n (.kernels key y)) →
        ∃ load key, Asks (s.step a).loads load (.kernels key x) ∧
          s₀.Since (as ++ [a]) (Commits load key x (s.step a).controller.snapshot.kernels)
            Undisturbed := by
      intro hg hst hk hasks
      obtain ⟨load, key, ha, hsince⟩ := ih x (hst ▸ hx)
      refine ⟨load, key, (hasks _ _ _).mpr ha, since_concat.mpr (.inr ⟨hk ▸ hsince, ?_⟩)⟩
      rw [hs]
      exact unrecorded hg
    cases step_kernels s a with
    | quiet _ hq _ => exact hkept hq.generation hq.status hq.kernels hq.asks
    | derived i place _ hd =>
      rw [hd.status] at hx
      cases hi : i.scope <;> rw [hi] at hx <;> cases hx
    | suspended _ hd => rw [hd.status] at hx; cases hx
    | tornDown _ hd =>
      exact hkept hd.generation (by rw [hd.snapshot]) (by rw [hd.snapshot]) fun _ _ _ =>
        hd.ages.asks _ _
    | stale load answer key y _ ha _ hc _ =>
      exact hkept ha.generation (by rw [hc]) (by rw [hc]) fun _ _ _ => ha.asks _ _
    | forgotten load answer key y _ ha _ _ _ hc _ =>
      exact hkept ha.generation (by rw [hc]) (by rw [hc]) fun _ _ _ => ha.asks _ _
    | installed load kernels key y i ht ha hup hk _ hl hst _ =>
      rw [hst] at hx
      cases hx
      refine ⟨load, key, (ha.asks _ _).mpr (asks_of_getElem? ha.running),
        since_concat.mpr (.inl ?_)⟩
      rw [hs, hl]
      exact ⟨turn_action (by rw [ht]; rfl), ha.running, hup, hk⟩
    | refused load e key y i _ _ _ _ _ _ hst _ => rw [hst] at hx; cases hx

/-! ## Late answers -/

/-- The answer of a load whose key is not current is dropped. -/
theorem stale_answerKernels (h : s.loads[load]? = some ⟨.kernels key x, .running⟩)
    (hs : s.controller.tornDown = true ∨ s.controller.current ≠ some key)
    (answer : Except ProviderError (List Kernel)) :
    (s.answerKernels load answer).controller = s.controller ∧
      (s.answerKernels load answer).form = s.form := by
  have hstep := answerKernels_step s load answer
  generalize s.answerKernels load answer = s' at hstep ⊢
  cases hstep with
  | unasked hno => exact absurd h (hno key x)
  | stale => exact ⟨rfl, rfl⟩
  | forgotten => exact ⟨rfl, rfl⟩
  -- the list would be installed for the current key alone
  | installed key' x' i kernels h' hup hk =>
    rw [h] at h'
    cases h'
    rcases hs with hs | hs
    · rw [hup] at hs; cases hs
    · exact absurd hk hs
  | refused key' x' i e h' hup hk =>
    rw [h] at h'
    cases h'
    rcases hs with hs | hs
    · rw [hup] at hs; cases hs
    · exact absurd hk hs

/-- The answer for a list of the catalog comes too late once the sub-form is torn down. -/
theorem late_answerCatalog {list : Listing} (hs : s.controller.tornDown = true)
    (answer : Except ProviderError (List list.Entry)) :
    (s.answerCatalog list load answer).controller = s.controller ∧
      (s.answerCatalog list load answer).form = s.form := by
  refine ⟨?_, form_answerCatalog s list load answer⟩
  unfold answerCatalog
  split
  · simp [setStage, hs]
  · rfl

/-- A write is made while its derivation is the current one. -/
theorem current_of_kernelWrite {w : KernelWrite} (hw : s.kernelWrite? a = some w) :
    (s.step a).controller.tornDown = false ∧ (s.step a).controller.current = some w.key := by
  cases kernelWrite_cases hw with
  | derived i place model _ hd => exact ⟨hd.tornDown, hd.current⟩
  | installed load kernels key x i model _ ha hup hk =>
    exact ⟨ha.tornDown.trans hup, ha.current.trans hk⟩
  | refused load e key x i model _ ha hup hk =>
    exact ⟨ha.tornDown.trans hup, ha.current.trans hk⟩

/-! ## Provenance -/

/-- In a run from the session on, all that is listed or written comes from a derivation that is
current at that time. -/
structure Provenance (s : Session) (as : List Action) : Prop where
  /-- No two derivations have the same key. -/
  distinct : ((s.derivations as).map Derivation.key).Nodup
  /-- Nor as they are held, while the generations fit a machine word. -/
  distinct_word : (s.derivations as).length + s.suspensions as < UInt64.size →
    ((s.derivations as).map fun d => d.key.word).Nodup
  /-- The kernels listed are the answer to the one load with the key that was current then. -/
  ready : ∀ x, (s.run as).controller.snapshot.status = .ready x → ∃ load key,
    s.Since as (Commits load key x (s.run as).controller.snapshot.kernels) Undisturbed ∧
      ∀ n y, Asks (s.run as).loads n (.kernels key y) ↔ n = load ∧ y = x
  /-- The answer to a load with another key, or after the end, changes nothing. -/
  stale : ∀ load key x answer, (s.run as).loads[load]? = some ⟨.kernels key x, .running⟩ →
    (s.run as).controller.tornDown = true ∨ (s.run as).controller.current ≠ some key →
    ((s.run as).step (.answerKernels load answer)).controller = (s.run as).controller ∧
      ((s.run as).step (.answerKernels load answer)).form = (s.run as).form
  late : (s.run as).controller.tornDown = true → ∀ (list : Listing) load answer,
    ((s.run as).step (list.resolve load answer)).controller = (s.run as).controller ∧
      ((s.run as).step (list.resolve load answer)).form = (s.run as).form
  /-- Nothing is written but by the form and by the writes on record. -/
  models : s.Always as fun t a =>
    (t.step a).form.models = ((t.form.own (t.turn a)).put (t.kernelWrite? a)).models
  current : s.Always as fun t a => ∀ w, t.kernelWrite? a = some w →
    (t.step a).controller.tornDown = false ∧ (t.step a).controller.current = some w.key
  /-- A derivation writes at most once. -/
  once : ((s.kernelWrites as).map KernelWrite.key).Nodup
  /-- A write has one derivation, and goes to the model which that one observed as its own. -/
  origin : ∀ w ∈ s.kernelWrites as, ∃ d ∈ s.derivations as,
    d.key = w.key ∧ d.inputs.context.writes = some w.model ∧
      ∀ d' ∈ s.derivations as, d'.key = w.key → d' = d

/-- **All that is listed or written comes from the current derivation, and only once.** -/
theorem provenance (form : Form) (context : Context) (policy : StalePolicy) (as : List Action) :
    Provenance (mount form context policy) as := by
  have hrec := recorded_run form context policy as
  have hcoh := coherent_run (coherent_mount form context policy)
  exact {
    distinct := hrec.distinct
    distinct_word := fun hsize => by
      refine hrec.distinct_word ?_
      rw [generation_run]
      simpa [mount, Controller.ofPolicy] using hsize
    ready := fun x hx => by
      obtain ⟨load, key, ha, hsince⟩ := ready_since (fun x h => by cases h) as x hx
      refine ⟨load, key, hsince, fun n y => ⟨fun hn => ?_, ?_⟩⟩
      · obtain rfl := (hcoh as).unique n load key y x hn ha
        cases hn.eq ha
        exact ⟨rfl, rfl⟩
      · rintro ⟨rfl, rfl⟩
        exact ha
    stale := fun load key x answer h hs => stale_answerKernels h hs answer
    late := fun ht list load answer => by
      rw [step_resolve]
      exact late_answerCatalog ht answer
    models := fun xs a _ _ => models_step _ a
    current := fun xs a _ _ w hw => current_of_kernelWrite hw
    once := hrec.once
    origin := fun w hw => hrec.origin hw }

end LivePatching.Session
