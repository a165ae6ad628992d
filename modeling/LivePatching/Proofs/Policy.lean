import LivePatching.Proofs.History
import LivePatching.Proofs.Operation

/-!
# The policy for superseded loads does not show

A load that is superseded is aborted, or it runs on and its answer is dropped. What there is to see
of a session is the same either way.

* `Session.seen`: a session without the stages of its loads, the loads that are kept track of, the
  calls that wait, and what is counted of superseded loads.
* `Session.heeded`: the actions of a run that can be seen; not those of superseded loads.
* `seen_unheeded`, `seen_heeded`: **what is not heeded is not seen**, and what is heeded looks the
  same from sessions that look the same.
* `policy_unseen`: **runs that heed the same actions look the same after each of them.**
-/

namespace LivePatching

/-- A load as it is seen: its question, and not how far it is. -/
def Load.seen (l : Load) : Load := ⟨l.question, .queued⟩

/-- Superseded loads count as answers that came too late, and have their duration taken. -/
def Tally.seen (t : Tally) : Tally := { t with staleResults := 0, timedLoads := 0 }

/-- A controller as it is seen, without its policy and the loads it keeps track of. -/
def Controller.seen (c : Controller) : Controller :=
  { c with policy := .cancel, kernelLoad := none, background := [] }

namespace Session

/-- What there is to see of a session. -/
def seen (s : Session) : Session :=
  { s with
    controller := s.controller.seen
    loads := s.loads.map Load.seen
    tally := s.tally.seen
    settlings := [] }

/-- Whether the answer to the question counts: the sub-form is up, and for kernels the key of the
question is the current one. -/
def counts (s : Session) (q : Question) : Bool :=
  !s.controller.tornDown &&
    match q with
    | .kernels key _ => s.controller.current == some key
    | _ => true

/-- The question that a load is about to answer, if the answer counts. -/
def awaited? (s : Session) (load : Nat) : Option Question :=
  match s.loads[load]? with
  | some ⟨q, .running⟩ => if s.counts q then some q else none
  | _ => none

/-- The action, if it can be seen. Waiting for loads cannot, nor that a load asks its provider or
goes away. -/
def heeded? (s : Session) (a : Action) : Option Action :=
  match a with
  | .settle => none
  | .continueSettling _ => none
  | .abandonSettling _ => none
  | .start _ => none
  | .drop _ => none
  | .answerClients load _ =>
    match s.awaited? load with
    | some .clients => some a
    | _ => none
  | .answerProducts load _ =>
    match s.awaited? load with
    | some .products => some a
    | _ => none
  | .answerKernels load _ =>
    match s.awaited? load with
    | some (.kernels _ _) => some a
    | _ => none
  | _ => some a

/-- The actions of a run that are heeded, in order. -/
def heeded (s : Session) (as : List Action) : List Action := s.collect heeded? as

variable {s s' : Session} {a : Action} {load : Nat} {as bs xs ys : List Action}

/-! ## What can be seen of the operations -/

section Fields

variable (s)

@[simp] theorem seen_form : s.seen.form = s.form := rfl

@[simp] theorem seen_drives : s.seen.drives = s.drives := rfl

@[simp] theorem seen_inputs : s.seen.controller.inputs = s.controller.inputs := rfl

end Fields

/-- Of a load only the question is seen. -/
theorem map_seen_eq {loads loads' : List Load} (h : ∀ n q, Asks loads' n q ↔ Asks loads n q) :
    loads'.map Load.seen = loads.map Load.seen := by
  refine List.ext_getElem? fun n => ?_
  have hq : loads'[n]?.map (·.question) = loads[n]?.map (·.question) := by
    refine Option.ext fun q => ?_
    exact h n q
  have hseen : ∀ l : Option Load, l.map Load.seen = (l.map (·.question)).map (⟨·, .queued⟩) := by
    intro l
    cases l <;> rfl
  rw [List.getElem?_map, List.getElem?_map, hseen, hseen, hq]

theorem map_seen_seen (loads : List Load) :
    (loads.map Load.seen).map Load.seen = loads.map Load.seen := by
  rw [List.map_map]
  rfl

/-- Loads that age look as before. -/
theorem map_seen_of_seen {loads : List Load} (h : Ages s.seen.loads loads) :
    loads.map Load.seen = s.loads.map Load.seen :=
  (map_seen_eq h.asks).trans (map_seen_seen s.loads)

theorem seen_seen (s : Session) : s.seen.seen = s.seen := by
  have hloads := map_seen_seen s.loads
  unfold seen
  simp only [hloads]
  rfl

theorem seen_setStage (s : Session) (load : Nat) (stage : Stage) :
    (s.setStage load stage).seen = s.seen := by
  have hloads : (s.loads.modify load fun l => { l with stage }).map Load.seen =
      s.loads.map Load.seen := map_seen_eq fun _ _ => asks_setStage
  unfold seen setStage
  simp only [hloads]

/-- To activate looks the same in sessions that look the same. -/
theorem seen_activate (s : Session) : s.activate.seen = s.seen.activate.seen := by
  by_cases h : (s.controller.activated || s.controller.tornDown) = true
  · have h' : (s.seen.controller.activated || s.seen.controller.tornDown) = true := h
    rw [activate, activate, if_pos h, if_pos h', seen_seen]
  · have h' : ¬ (s.seen.controller.activated || s.seen.controller.tornDown) = true := h
    rw [activate, activate, if_neg h, if_neg h']
    have hloads := map_seen_seen s.loads
    simp only [seen, issue, List.map_append, hloads]
    rfl

/-- A derivation looks the same in sessions that look the same. -/
theorem seen_derive (s : Session) (i : Inputs) : (s.derive i).seen = (s.seen.derive i).seen := by
  cases hi : i.scope with
  | none =>
    obtain ⟨loads, _, hages, he⟩ := derive_none s hi
    obtain ⟨loads', _, hages', he'⟩ := derive_none s.seen hi
    have hloads := map_seen_eq hages.asks
    have hloads' := map_seen_of_seen hages'
    rw [he, he']
    simp only [seen, hloads, hloads']
    rfl
  | some x =>
    obtain ⟨loads, _, hages, he⟩ := derive_some s hi
    obtain ⟨loads', _, hages', he'⟩ := derive_some s.seen hi
    have hloads := map_seen_eq hages.asks
    have hloads' := map_seen_of_seen hages'
    rw [he, he']
    simp only [seen, List.map_append, hloads, hloads']
    rfl

/-- An observation looks the same in sessions that look the same. -/
theorem seen_observe (s : Session) (i : Inputs) :
    (s.observe i).seen = (s.seen.observe i).seen := by
  have hunmoved : s.seen.unmoved i = s.unmoved i := rfl
  rw [observe_eq, observe_eq, hunmoved]
  by_cases h : s.unmoved i = true
  · rw [if_pos h, if_pos h, seen_seen]
  · rw [if_neg h, if_neg h, seen_derive]

/-- A suspension looks the same in sessions that look the same. -/
theorem seen_suspend (s : Session) : s.suspend.seen = s.seen.suspend.seen := by
  rcases suspend_cases s with ⟨he, hnone⟩ | ⟨hup, hi, loads, _, hages, he⟩
  · have he' : s.seen.suspend = s.seen := by
      rcases suspend_cases s.seen with ⟨he', -⟩ | ⟨hup, hi, -⟩
      · exact he'
      · rcases hnone with htorn | hnone
        · exact absurd (htorn.symm.trans hup) (by simp)
        · exact absurd hnone hi
    rw [he, he', seen_seen]
  · rcases suspend_cases s.seen with ⟨-, htorn | hnone⟩ | ⟨-, -, loads', _, hages', he'⟩
    · exact absurd (htorn.symm.trans hup) (by simp)
    · exact absurd hnone hi
    · have hloads := map_seen_eq hages.asks
      have hloads' := map_seen_of_seen hages'
      rw [he, he']
      simp only [seen, hloads, hloads']
      rfl

/-- A tear-down looks the same in sessions that look the same. -/
theorem seen_tearDown (s : Session) : s.tearDown.seen = s.seen.tearDown.seen := by
  rcases tearDown_cases s with ⟨he, htorn⟩ | ⟨hup, loads, hages, he⟩
  · have he' : s.seen.tearDown = s.seen := tearDown_of_tornDown htorn
    rw [he, he', seen_seen]
  · rcases tearDown_cases s.seen with ⟨-, htorn⟩ | ⟨-, loads', hages', he'⟩
    · exact absurd (htorn.symm.trans hup) (by simp)
    · have hloads := map_seen_eq hages.asks
      have hloads' := map_seen_of_seen hages'
      rw [he, he']
      simp only [seen, hloads, hloads']
      rfl

theorem seen_render (s : Session) (p : Props) :
    (s.render p).1.seen = (s.seen.render p).1.seen := by
  have hturn : s.seen.renderTurn p = s.renderTurn p := rfl
  rw [render_eq_take, render_eq_take, hturn]
  rcases renderTurn_cases s p with h | ⟨t, h⟩
  · rw [h]
    exact seen_suspend s
  · rw [h]
    simp only [take]
    rw [seen_observe, seen_activate, ← seen_observe]

/-- A release looks the same in sessions that look the same. -/
theorem seen_release (s : Session) : s.release.seen = s.seen.release.seen := by
  by_cases h : s.holders - 1 = 0
  · have hrelease : s.release = { s with holders := s.holders - 1 }.tearDown := if_pos h
    have hrelease' : s.seen.release = { s.seen with holders := s.holders - 1 }.tearDown := if_pos h
    rw [hrelease, hrelease', seen_tearDown]
    rfl
  · have hrelease : s.release = { s with holders := s.holders - 1 } := if_neg h
    have hrelease' : s.seen.release = { s with holders := s.holders - 1 }.seen := if_neg h
    rw [hrelease, hrelease', seen_seen]

/-- What does not look at the loads goes the same way on what is seen. -/
theorem seen_of_comm {f : Session → Session} (hf : ∀ s, (f s).seen = f s.seen) (s : Session) :
    (f s).seen = (f s.seen).seen := by
  rw [hf s, hf s.seen, seen_seen]

/-- From what looks the same comes what looks the same. -/
theorem seen_congr {f : Session → Session} (hf : ∀ s, (f s).seen = (f s.seen).seen)
    (h : s.seen = s'.seen) : (f s).seen = (f s').seen := by
  rw [hf s, hf s', h]

theorem seen_setDrive (s : Session) (loop : Nat) (d : Drive) :
    (s.setDrive loop d).seen = (s.seen.setDrive loop d).seen :=
  seen_of_comm (f := (setDrive · loop d)) (fun _ => rfl) s

theorem seen_endDrive (s : Session) (loop : Nat) (d : Drive) :
    (s.endDrive loop d).seen = (s.seen.endDrive loop d).seen := by
  -- it has returned, and its subscription has ended, before it lets go
  have hended := seen_of_comm (f := fun s =>
    { s.setDrive loop { d with stage := .returned } with
      form := { s.form with bus := s.form.bus.unsubscribe } }) (fun _ => rfl) s
  exact seen_congr (f := release) seen_release hended

theorem seen_renderInDrive (s : Session) (loop : Nat) (d : Drive) :
    (s.renderInDrive loop d).seen = (s.seen.renderInDrive loop d).seen := by
  have hrender := seen_render s d.props
  have htorn : (s.seen.render d.props).1.controller.tornDown =
      (s.render d.props).1.controller.tornDown :=
    (congrArg (·.controller.tornDown) hrender).symm
  unfold renderInDrive
  simp only [htorn]
  cases (s.render d.props).1.controller.tornDown with
  | true => exact seen_congr (f := (endDrive · loop d)) (seen_endDrive · loop d) hrender
  | false =>
    exact seen_congr (f := (setDrive · loop { d with stage := .waiting }))
      (seen_setDrive · loop _) hrender

/-- A step of a loop looks the same in sessions that look the same. -/
theorem seen_continueDrive (s : Session) (loop : Nat) (eventFirst : Bool) :
    (s.continueDrive loop eventFirst).seen = (s.seen.continueDrive loop eventFirst).seen := by
  have htorn : s.seen.controller.tornDown = s.controller.tornDown := rfl
  unfold continueDrive
  simp only [seen_drives, seen_form, htorn]
  -- the loop looks at the form, at its own books and at whether the sub-form is up, all of which
  -- is seen
  cases s.drives[loop]? with
  | none => exact (seen_seen s).symm
  | some d =>
    obtain ⟨props, subscription, stage⟩ := d
    cases stage with
    | returned => exact (seen_seen s).symm
    | starting => exact seen_renderInDrive s loop _
    | waiting =>
      simp only
      cases s.controller.tornDown && !eventFirst with
      | true => exact seen_endDrive s loop _
      | false =>
        cases (subscription.poll s.form.bus).1 with
        | event e => exact seen_renderInDrive s loop _
        | lagged missed => exact seen_renderInDrive s loop _
        | closed => exact seen_endDrive s loop _
        | pending =>
          cases s.controller.tornDown with
          | true => exact seen_endDrive s loop _
          | false => exact seen_setDrive s loop _

/-! ## What can be seen of an answer -/

/-- An answer for a list of the catalog that counts. -/
def takeCatalog (s : Session) (list : Listing) : Except ProviderError (List list.Entry) → Session
  | .ok entries =>
    { s with
      controller :=
        { s.controller with snapshot := list.install entries s.controller.snapshot } }
  | .error _ => { s with tally := list.countFailure s.tally }

/-- An answer with the kernels of a scope that counts. -/
def takeKernels (s : Session) (x : Scope) (answer : Except ProviderError (List Kernel)) : Session :=
  match s.controller.inputs with
  | none => s
  | some i =>
    match answer with
    | .ok kernels => s.install i x kernels
    | .error _ => s.refuse i x

theorem seen_takeCatalog (list : Listing) (s : Session)
    (answer : Except ProviderError (List list.Entry)) :
    (s.takeCatalog list answer).seen = (s.seen.takeCatalog list answer).seen := by
  cases answer with
  | ok entries => exact seen_of_comm (f := (takeCatalog · list (.ok entries))) (fun _ => rfl) s
  | error e =>
    refine seen_of_comm (f := (takeCatalog · list (.error e))) (fun s => ?_) s
    cases list <;> rfl

theorem seen_takeKernels (s : Session) (x : Scope) (answer : Except ProviderError (List Kernel)) :
    (s.takeKernels x answer).seen = (s.seen.takeKernels x answer).seen := by
  unfold takeKernels
  simp only [seen_inputs]
  cases s.controller.inputs with
  | none => exact (seen_seen s).symm
  | some i =>
    cases answer with
    | ok kernels => exact seen_of_comm (f := (install · i x kernels)) (fun _ => rfl) s
    | error e => exact seen_of_comm (f := (refuse · i x)) (fun _ => rfl) s

/-- A load is awaited when it is running and its answer counts. -/
theorem awaited?_eq_some {q : Question} : s.awaited? load = some q ↔
    s.loads[load]? = some ⟨q, .running⟩ ∧ s.counts q = true := by
  unfold awaited?
  split
  · rename_i q' hl
    rw [hl]
    by_cases h : s.counts q' = true
    · rw [if_pos h]
      constructor
      · rintro ⟨⟩
        exact ⟨rfl, h⟩
      · rintro ⟨⟨⟩, -⟩
        rfl
    · rw [if_neg h]
      constructor
      · rintro ⟨⟩
      · rintro ⟨⟨⟩, hq⟩
        exact absurd hq h
  · rename_i hl
    constructor
    · rintro ⟨⟩
    · rintro ⟨hrun, -⟩
      exact absurd hrun (hl q)

/-- No answer counts once the sub-form is torn down. -/
theorem tornDown_of_counts {q : Question} (h : s.counts q = true) :
    s.controller.tornDown = false := by
  unfold counts at h
  simpa using ((Bool.and_eq_true _ _).mp h).1

theorem counts_kernels {key : RequestKey} {x : Scope} : s.counts (.kernels key x) = true ↔
    s.controller.tornDown = false ∧ s.controller.current = some key := by
  simp [counts]

/-- What looks the same awaits the same. -/
theorem awaited?_eq {q q' : Question} (hs : s.seen = s'.seen) (h : s.awaited? load = some q)
    (h' : s'.awaited? load = some q') : q = q' := by
  have hloads : (s.loads[load]?).map Load.seen = (s'.loads[load]?).map Load.seen := by
    rw [← List.getElem?_map, ← List.getElem?_map]
    exact congrArg (·.loads[load]?) hs
  rw [(awaited?_eq_some.mp h).1, (awaited?_eq_some.mp h').1] at hloads
  cases hloads
  rfl

section Catalog

variable (list : Listing)

/-- An answer for a list of the catalog counts while the sub-form is up. -/
theorem counts_question (s : Session) : s.counts list.question = !s.controller.tornDown := by
  cases list <;> exact Bool.and_true _

variable {list}

/-- An awaited answer for a list is taken over. -/
theorem answerCatalog_awaited (h : s.awaited? load = some list.question)
    (answer : Except ProviderError (List list.Entry)) :
    s.answerCatalog list load answer = (s.setStage load .finished).takeCatalog list answer := by
  obtain ⟨hl, hcounts⟩ := awaited?_eq_some.mp h
  have htorn : ¬ (s.setStage load .finished).controller.tornDown = true := by
    simp [setStage, tornDown_of_counts hcounts]
  rw [answerCatalog, if_pos hl]
  simp only
  rw [if_neg htorn]
  cases answer <;> rfl

/-- An answer that does not count finishes its load at most. -/
theorem answerCatalog_unawaited (h : s.awaited? load ≠ some list.question)
    (answer : Except ProviderError (List list.Entry)) :
    s.answerCatalog list load answer = s ∨
      s.answerCatalog list load answer = s.setStage load .finished := by
  unfold answerCatalog
  split
  · rename_i hl
    simp only
    split
    · exact .inr rfl
    · rename_i hup
      refine absurd (awaited?_eq_some.mpr ⟨hl, ?_⟩) h
      rw [counts_question]
      simpa [setStage] using hup
  · exact .inl rfl

theorem seen_answerCatalog (h : s.awaited? load = some list.question)
    (answer : Except ProviderError (List list.Entry)) :
    (s.answerCatalog list load answer).seen = (s.takeCatalog list answer).seen := by
  rw [answerCatalog_awaited h]
  exact seen_congr (f := (takeCatalog · list answer)) (seen_takeCatalog list · answer)
    (seen_setStage s load .finished)

variable (list)

/-- An answer for a list is heeded when it is awaited. -/
theorem heeded?_resolve (s : Session) (load : Nat)
    (answer : Except ProviderError (List list.Entry)) :
    s.heeded? (list.resolve load answer) =
      if s.awaited? load = some list.question then some (list.resolve load answer) else none := by
  cases list <;>
  · rw [Listing.resolve, heeded?, Listing.question]
    split
    · rename_i h
      rw [if_pos h]
    · rename_i h
      rw [if_neg h]

variable {answer : Except ProviderError (List list.Entry)}

/-- An answer for a list that is not heeded is not seen. -/
theorem seen_unheeded_resolve (h : s.heeded? (list.resolve load answer) = none) :
    (s.step (list.resolve load answer)).seen = s.seen := by
  have hunawaited : s.awaited? load ≠ some list.question := by
    intro hawaited
    rw [heeded?_resolve, if_pos hawaited] at h
    cases h
  rw [step_resolve]
  rcases answerCatalog_unawaited hunawaited answer with he | he
  · rw [he]
  · rw [he, seen_setStage]

/-- An answer for a list that is heeded is seen alike where it meets what looks alike. -/
theorem seen_heeded_resolve {b : Action} (hs : s.seen = s'.seen)
    (h : s.heeded? (list.resolve load answer) = some b)
    (h' : s'.heeded? (list.resolve load answer) = some b) :
    (s.step (list.resolve load answer)).seen = (s'.step (list.resolve load answer)).seen := by
  have hawaited : ∀ {s : Session}, s.heeded? (list.resolve load answer) = some b →
      s.awaited? load = some list.question := by
    intro s h
    by_contra hno
    rw [heeded?_resolve, if_neg hno] at h
    cases h
  rw [step_resolve, step_resolve, seen_answerCatalog (hawaited h), seen_answerCatalog (hawaited h')]
  exact seen_congr (f := (takeCatalog · list answer)) (seen_takeCatalog list · answer) hs

end Catalog

theorem seen_answered (s : Session) (load : Nat) : (s.answered load).seen = s.seen := by
  have hloads := congrArg (·.loads) (seen_setStage s load .finished)
  unfold answered
  simp only [seen, setStage] at hloads ⊢
  rw [hloads]
  rfl

theorem seen_answerKernels {key : RequestKey} {x : Scope}
    (h : s.awaited? load = some (.kernels key x)) (answer : Except ProviderError (List Kernel)) :
    (s.answerKernels load answer).seen = (s.takeKernels x answer).seen := by
  obtain ⟨hl, hcounts⟩ := awaited?_eq_some.mp h
  obtain ⟨hup, hcur⟩ := counts_kernels.mp hcounts
  have hanswer : s.answerKernels load answer = (s.answered load).takeKernels x answer := by
    have hcur' : (s.controller.current != some key) = false := by simp [hcur]
    unfold answerKernels
    simp only [hl, setStage, hup, hcur', Bool.or_self]
    rfl
  rw [hanswer]
  exact seen_congr (f := (takeKernels · x answer)) (seen_takeKernels · x answer)
    (seen_answered s load)

/-! ## What is not heeded is not seen -/

/-- What is heeded of a step is the step. -/
theorem heeded?_eq {b : Action} (h : s.heeded? a = some b) : b = a := by
  unfold heeded? at h
  split at h
  all_goals first
    | cases h; done
    | exact (Option.some.inj h).symm
    | split at h
      · exact (Option.some.inj h).symm
      · cases h

/-- A step that is not heeded is not seen. -/
theorem seen_unheeded (h : s.heeded? a = none) : (s.step a).seen = s.seen := by
  cases a with
  | settle => rfl
  | continueSettling call =>
    simp only [step, continueSettling]
    split
    · split
      · rfl
      · rfl
    · rfl
  | abandonSettling call =>
    simp only [step, abandonSettling]
    split
    · rfl
    · rfl
  | start load =>
    rcases start_cases s load with he | ⟨q, -, he⟩
    · rw [step, he]
    · rw [step, he, seen_setStage]
  | drop load =>
    simp only [step, drop]
    split
    · rename_i q asked _
      have hset := seen_setStage s load (.dropped asked)
      split
      · split
        · exact hset
        · exact hset
      · exact hset
    · rfl
  | answerClients load answer => exact seen_unheeded_resolve .clients h
  | answerProducts load answer => exact seen_unheeded_resolve .products h
  | answerKernels load answer =>
    have hawaited : ∀ key x, s.awaited? load ≠ some (.kernels key x) := by
      intro key x hx
      simp only [heeded?, hx] at h
      cases h
    have hstep := answerKernels_step s load answer
    rw [step]
    generalize s.answerKernels load answer = s' at hstep ⊢
    -- an answer that counts would have been heeded
    have hheeded : ∀ key x, s.loads[load]? = some ⟨.kernels key x, .running⟩ →
        s.controller.tornDown = false → s.controller.current = some key → False := by
      intro key x hl hup hcur
      exact hawaited key x (awaited?_eq_some.mpr ⟨hl, counts_kernels.mpr ⟨hup, hcur⟩⟩)
    cases hstep with
    | unasked => rfl
    | stale => exact seen_answered s load
    | forgotten key x hl hup hcur => exact (hheeded key x hl hup hcur).elim
    | installed key x _ _ hl hup hcur => exact (hheeded key x hl hup hcur).elim
    | refused key x _ _ hl hup hcur => exact (hheeded key x hl hup hcur).elim
  | _ => cases h

/-! ## What is heeded looks the same -/

/-- A step that is heeded looks the same in sessions that look the same. -/
theorem seen_heeded {b : Action} (hs : s.seen = s'.seen) (h : s.heeded? a = some b)
    (h' : s'.heeded? a = some b) : (s.step a).seen = (s'.step a).seen := by
  cases a with
  | settle => cases h
  | continueSettling call => cases h
  | abandonSettling call => cases h
  | start load => cases h
  | drop load => cases h
  | answerClients load answer => exact seen_heeded_resolve .clients hs h h'
  | answerProducts load answer => exact seen_heeded_resolve .products hs h h'
  | answerKernels load answer =>
    simp only [heeded?] at h h'
    split at h
    · split at h'
      · rename_i key x hq _ key' x' hq'
        -- both sessions wait for the same question there
        have hx := awaited?_eq hs hq hq'
        cases hx
        rw [step, step, seen_answerKernels hq, seen_answerKernels hq']
        exact seen_congr (f := (takeKernels · x answer)) (seen_takeKernels · x answer) hs
      · cases h'
    · cases h
  | activate => exact seen_congr (f := activate) seen_activate hs
  | suspend => exact seen_congr (f := suspend) seen_suspend hs
  | tearDown => exact seen_congr (f := tearDown) seen_tearDown hs
  | release => exact seen_congr (f := release) seen_release hs
  | render p => exact seen_congr (f := fun s => (s.render p).1) (seen_render · p) hs
  | continueDrive loop eventFirst =>
    exact seen_congr (f := (continueDrive · loop eventFirst))
      (seen_continueDrive · loop eventFirst) hs
  | observe t c =>
    have hf : s.form = s'.form := congrArg (·.form) hs
    rw [step, step, hf]
    exact seen_congr (f := (observe · _)) (seen_observe · _) hs
  | drive p filter =>
    exact seen_congr (f := (drive · p filter)) (seen_of_comm fun _ => rfl) hs
  | write model key value =>
    exact seen_congr (f := (step · (.write model key value))) (seen_of_comm fun _ => rfl) hs
  | publish e => exact seen_congr (f := (step · (.publish e))) (seen_of_comm fun _ => rfl) hs
  | subscribe filter =>
    exact seen_congr (f := (step · (.subscribe filter))) (seen_of_comm fun _ => rfl) hs
  | closeBus => exact seen_congr (f := (step · .closeBus)) (seen_of_comm fun _ => rfl) hs

/-! ## Runs -/

/-- A run of which nothing is heeded shows nothing. -/
theorem seen_run_unheeded (h : s.heeded as = []) : (s.run as).seen = s.seen := by
  induction as generalizing s with
  | nil => rfl
  | cons a as ih =>
    obtain ⟨ha, has⟩ := List.append_eq_nil_iff.mp h
    have hnone : s.heeded? a = none := by simpa using ha
    rw [run_cons, ih has, seen_unheeded hnone]

/-- From sessions that look the same, runs that heed the same actions lead to such sessions. -/
theorem seen_run (hs : s.seen = s'.seen) (h : s.heeded as = s'.heeded bs) :
    (s.run as).seen = (s'.run bs).seen := by
  induction hl : s.heeded as generalizing s s' as bs with
  | nil => rw [seen_run_unheeded hl, seen_run_unheeded (h.symm.trans hl), hs]
  | cons b rest ih =>
    -- each run goes unheeded up to the first action that is heeded
    obtain ⟨us, a, as, rfl, hus, ha, hrest⟩ := collect_eq_cons hl
    obtain ⟨us', a', bs, rfl, hus', ha', hrest'⟩ := collect_eq_cons (h.symm.trans hl)
    have hcommon : (s.run us).seen = (s'.run us').seen := by
      rw [seen_run_unheeded hus, seen_run_unheeded hus', hs]
    obtain rfl := heeded?_eq ha
    obtain rfl := heeded?_eq ha'
    have hstep : ((s.run us).step b).seen = ((s'.run us').step b).seen :=
      seen_heeded hcommon ha ha'
    rw [run_append, run_append, run_cons, run_cons]
    exact ih hstep (hrest.trans hrest'.symm) hrest

/-- **Two runs that heed the same actions look the same after each of them**, whatever the policy
of each does with superseded loads. -/
theorem policy_unseen {form : Form} {context : Context} {policy policy' : StalePolicy}
    (h : (mount form context policy).heeded as = (mount form context policy').heeded bs)
    (hxs : xs <+: as) (hys : ys <+: bs)
    (hn : ((mount form context policy).heeded xs).length =
      ((mount form context policy').heeded ys).length) :
    ((mount form context policy).run xs).seen = ((mount form context policy').run ys).seen := by
  have hprefix : ∀ {s : Session} {xs as : List Action}, xs <+: as →
      s.heeded xs <+: s.heeded as := by
    rintro s xs _ ⟨zs, rfl⟩
    exact ⟨_, collect_append.symm⟩
  -- prefixes of one list that are of the same length are the same
  have hsame : (mount form context policy).heeded xs = (mount form context policy').heeded ys := by
    have hxs' := hprefix (s := mount form context policy) hxs
    have hys' := hprefix (s := mount form context policy') hys
    rw [← h] at hys'
    exact (List.prefix_of_prefix_length_le hxs' hys' (Nat.le_of_eq hn)).eq_of_length hn
  exact seen_run rfl hsame

/-- A form with one model, which announces nothing, for client 1. -/
def silentForm : Form :=
  ⟨[.ofModel (.ofPairs [("clientId", .ofNat 1)]) false], ⟨1, #[], .empty, 0, 1⟩⟩

/-- Client 2 takes the place of client 1, whose load is aborted and goes away. -/
def goneLoad : List Action :=
  [.render ⟨some .system, false⟩, .start 2, .write 0 "clientId" (.ofNat 2),
    .render ⟨some .system, false⟩, .drop 2, .start 3,
    .answerKernels 3 (.ok [⟨⟨7⟩, "6.4.0", false⟩])]

/-- The load of client 1 runs on beside a call that waits for it, and fails. -/
def failedLoad : List Action :=
  [.render ⟨some .system, false⟩, .write 0 "clientId" (.ofNat 2), .render ⟨some .system, false⟩,
    .settle, .start 2, .start 3, .answerKernels 2 (.error (.unavailable "down")),
    .answerKernels 3 (.ok [⟨⟨7⟩, "6.4.0", false⟩])]

/-- Only the one answer that came too late tells the two runs apart. -/
theorem policy_unseen_failedLoad :
    ((mount silentForm (.shared 0) .cancel).run goneLoad).seen =
        ((mount silentForm (.shared 0) .ignore).run failedLoad).seen ∧
      ((mount silentForm (.shared 0) .cancel).run goneLoad).tally.staleResults = 0 ∧
      ((mount silentForm (.shared 0) .ignore).run failedLoad).tally.staleResults = 1 := by
  have hheeded : (mount silentForm (.shared 0) .cancel).heeded goneLoad =
      (mount silentForm (.shared 0) .ignore).heeded failedLoad := by rfl
  have hseen := policy_unseen hheeded (List.prefix_refl _) (List.prefix_refl _)
    (congrArg List.length hheeded)
  exact ⟨hseen, rfl, rfl⟩

end Session

end LivePatching
