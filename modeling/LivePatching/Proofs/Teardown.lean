import LivePatching.Proofs.Authorship
import LivePatching.Proofs.Loop
import LivePatching.Proofs.Provenance
import LivePatching.Proofs.Status

/-!
# Tear-down is final

* `take_torn`: once the sub-form is torn down, a turn shows nothing anew and issues no load.
* `still_run`: nor does a run, and the sub-form writes nothing.
* `returned_of_torn`: a loop that takes a step has returned then.
* `Final`: nothing that the sub-form shows, writes or asks for changes any more.
* `tearDown_final`: **after a tear-down, or the release of the last holder, all is final**,
  whatever comes late.
-/

namespace LivePatching

open Json

namespace Session

/-- What is left once the sub-form is torn down: nothing is shown anew, and no load is issued. -/
structure Still (s s' : Session) : Prop where
  tornDown : s'.controller.tornDown = true
  snapshot : s'.controller.snapshot = s.controller.snapshot
  current : s'.controller.current = s.controller.current
  questions : s'.loads.map (·.question) = s.loads.map (·.question)

variable {s s' s'' : Session} {a : Action} {as : List Action} {load loop : Nat} {d : Drive}
  {eventFirst : Bool}

theorem Still.refl (h : s.controller.tornDown = true) : Still s s := ⟨h, rfl, rfl, rfl⟩

theorem Still.trans (h : Still s s') (h' : Still s' s'') : Still s s'' :=
  ⟨h'.tornDown, h'.snapshot.trans h.snapshot, h'.current.trans h.current,
    h'.questions.trans h.questions⟩

theorem questions_modify (loads : List Load) (n : Nat) {f : Load → Load}
    (hf : ∀ l, (f l).question = l.question) :
    (loads.modify n f).map (·.question) = loads.map (·.question) := by
  refine List.ext_getElem? fun m => ?_
  rw [List.getElem?_map, List.getElem?_map]
  by_cases hm : n = m
  · subst hm
    rw [getElem?_modify_self, Option.map_map]
    exact congrArg (Option.map · _) (funext hf)
  · rw [getElem?_modify_ne hm]

/-- A load that goes on asks what it has asked before. -/
theorem still_setStage (h : s.controller.tornDown = true) {stage : Stage}
    (hc : s'.controller = s.controller) (hl : s'.loads = (s.setStage load stage).loads) :
    Still s s' where
  tornDown := by rw [hc, h]
  snapshot := by rw [hc]
  current := by rw [hc]
  questions := by rw [hl]; exact questions_modify _ _ fun _ => rfl

/-- **Once the sub-form is torn down it does nothing more**, and loads that were asked go on. -/
theorem take_torn (h : s.controller.tornDown = true) (t : Turn) : Still s (s.take t) := by
  -- what owners ask for is refused at once; what comes from loads is caught where it arrives
  have hactivate : s.activate = s := if_pos (by simp [h])
  have hobserve : ∀ i, s.observe i = s := fun i => if_pos h
  have hsuspend : s.suspend = s := if_pos (by simp [h])
  cases t with
  | activate => rw [take, hactivate]; exact .refl h
  | observe i => rw [take, hobserve]; exact .refl h
  | render i => rw [take, hactivate, hobserve]; exact .refl h
  | suspend => rw [take, hsuspend]; exact .refl h
  | tearDown => rw [take, tearDown_of_tornDown h]; exact .refl h
  | start load =>
    rcases start_cases s load with he | ⟨q, -, he⟩
    · rw [take, he]; exact .refl h
    · rw [take, he]; exact still_setStage h rfl rfl
  | answerCatalog list load answer =>
    rcases answerCatalog_cases s list load answer with he | ⟨-, _, _, he⟩
    · rw [take, he]; exact .refl h
    · have hl : (s.answerCatalog list load answer).loads =
          (s.setStage load .finished).loads := by rw [he]
      exact still_setStage h (late_answerCatalog h answer).1 hl
  | answerKernels load answer =>
    have hstep := answerKernels_step s load answer
    rw [take]
    generalize s.answerKernels load answer = s' at hstep ⊢
    cases hstep with
    | unasked => exact .refl h
    | stale => exact still_setStage h rfl rfl
    | forgotten _ _ _ hup => rw [h] at hup; cases hup
    | installed _ _ _ _ _ hup => rw [h] at hup; cases hup
    | refused _ _ _ _ _ hup => rw [h] at hup; cases hup
  | drop load =>
    rcases drop_cases s load with he | ⟨q, asked, tally, -, he⟩
    · rw [take, he]; exact .refl h
    · rw [take, he]; exact still_setStage h rfl rfl
  | _ => exact ⟨h, rfl, rfl, rfl⟩

/-- A step after the tear-down leaves everything still. -/
theorem still_step (h : s.controller.tornDown = true) (a : Action) : Still s (s.step a) := by
  obtain ⟨bus, settlings, drives, holders, he⟩ := step_eq s a
  have htake := take_torn h (s.turn a)
  rw [he]
  exact ⟨htake.tornDown, htake.snapshot, htake.current, htake.questions⟩

/-- A write is made while the sub-form is up. -/
theorem kernelWrite_torn (h : s.controller.tornDown = true) (a : Action) :
    s.kernelWrite? a = none := by
  cases hw : s.kernelWrite? a with
  | none => rfl
  | some w =>
    have hup := (current_of_kernelWrite hw).1
    rw [(still_step h a).tornDown] at hup
    cases hup

/-- **Nothing comes of what happens after a tear-down.** -/
theorem still_run (h : s.controller.tornDown = true) (as : List Action) :
    Still s (s.run as) ∧ s.kernelWrites as = [] := by
  induction as generalizing s with
  | nil => exact ⟨.refl h, rfl⟩
  | cons a as ih =>
    have hstep := still_step h a
    obtain ⟨hrun, hwrites⟩ := ih hstep.tornDown
    refine ⟨hstep.trans hrun, ?_⟩
    unfold kernelWrites at hwrites ⊢
    rw [collect, kernelWrite_torn h a, hwrites]
    rfl

/-! ## Loops -/

/-- The props that a step of the loop renders with. -/
def loopRender? (loop : Nat) (s : Session) : Action → Option Props
  | .continueDrive loop' eventFirst =>
    if loop' = loop then s.nextProps loop eventFirst else none
  | _ => none

/-- The renders of one loop in a run. -/
def loopRenders (s : Session) (loop : Nat) (as : List Action) : List Props :=
  s.collect (loopRender? loop) as

/-- A loop that takes a step has returned then. -/
theorem returned_of_torn (h : s.controller.tornDown = true) (hd : s.drives[loop]? = some d)
    (eventFirst : Bool) : ∃ d', (s.step (.continueDrive loop eventFirst)).drives[loop]? = some d' ∧
      d'.stage = .returned := by
  have hset := drives_set_self hd
  -- a loop that renders finds the sub-form torn down and returns
  have hrender : ∀ d₁ : Drive, ∃ d', (s.renderInDrive loop d₁).drives[loop]? = some d' ∧
      d'.stage = .returned := by
    intro d₁
    have hdrives := (sameBooks_take s (s.renderTurn d₁.props)).drives
    rcases renderInDrive_cases s loop d₁ with ⟨-, he⟩ | ⟨hup, -⟩
    · refine ⟨{ d₁ with stage := .returned }, ?_, rfl⟩
      rw [he]
      exact (congrArg (·[loop]?) (congrArg (List.set · loop _) hdrives)).trans (hset _)
    · rw [tornDown_render, h] at hup; cases hup
  have hend : ∀ d₁ : Drive, ∃ d', (s.endDrive loop d₁).drives[loop]? = some d' ∧
      d'.stage = .returned :=
    fun d₁ => ⟨{ d₁ with stage := .returned }, by rw [drives_endDrive, hset], rfl⟩
  have hstep := continueDrive_step hd eventFirst
  rw [step]
  generalize s.continueDrive loop eventFirst = s' at hstep ⊢
  cases hstep with
  | ended hst => exact ⟨d, hd, hst⟩
  | start => exact hrender _
  | stop => exact hend _
  | event => exact hrender _
  | lagged => exact hrender _
  | closed => exact hend _
  | pending _ _ _ hup => rw [h] at hup; cases hup

theorem nextProps_returned (hd : s.drives[loop]? = some d) (hst : d.stage = .returned)
    (eventFirst : Bool) : s.nextProps loop eventFirst = none := by
  simp only [nextProps, hd, hst]

/-- A loop that has returned stays where it is. -/
theorem returned_step (hd : s.drives[loop]? = some d) (hst : d.stage = .returned) (a : Action) :
    (s.step a).drives[loop]? = some d := by
  by_cases ha : ∃ eventFirst, a = .continueDrive loop eventFirst
  · obtain ⟨eventFirst, rfl⟩ := ha
    simp only [step, continueDrive, hd, hst]
  · rw [drives_step_of_ne (List.getElem?_eq_some_iff.mp hd).1 fun ef he => ha ⟨ef, he⟩, hd]

/-- A loop that has returned renders no more. -/
theorem loopRenders_returned (hd : s.drives[loop]? = some d) (hst : d.stage = .returned)
    (as : List Action) : s.loopRenders loop as = [] := by
  induction as generalizing s with
  | nil => rfl
  | cons a as ih =>
    have hnone : loopRender? loop s a = none := by
      cases a with
      | continueDrive loop' eventFirst =>
        simp only [loopRender?]
        split
        · exact nextProps_returned hd hst eventFirst
        · rfl
      | _ => rfl
    have hrest := ih (returned_step hd hst a)
    unfold loopRenders at hrest ⊢
    rw [collect, hnone, hrest]
    rfl

/-- A loop renders once more at most. -/
theorem loopRenders_torn (h : s.controller.tornDown = true) (loop : Nat) (as : List Action) :
    (s.loopRenders loop as).length ≤ 1 := by
  induction as generalizing s with
  | nil => exact Nat.zero_le _
  | cons a as ih =>
    have hcons : s.loopRenders loop (a :: as) =
        (loopRender? loop s a).toList ++ (s.step a).loopRenders loop as := rfl
    rw [hcons]
    cases ha : loopRender? loop s a with
    | none => exact ih (still_step h a).tornDown
    | some p =>
      -- the loop has rendered, so it has returned
      cases a with
      | continueDrive loop' eventFirst =>
        simp only [loopRender?] at ha
        split at ha
        · rename_i hloop
          subst hloop
          cases hd : s.drives[loop']? with
          | none => rw [nextProps, hd] at ha; cases ha
          | some d =>
            obtain ⟨d', hd', hst⟩ := returned_of_torn h hd eventFirst
            rw [loopRenders_returned hd' hst as]
            exact Nat.le_refl 1
        · cases ha
      | _ => cases ha

/-! ## Finality -/

/-- Nothing that the sub-form shows, writes or asks for changes any more. -/
structure Final (s : Session) (as : List Action) : Prop where
  tornDown : (s.run as).controller.tornDown = true
  /-- Only the form writes. -/
  unwritten : ∀ w ∈ s.written as, w.author = .form
  models : ∀ m : Nat, (s.run as).form.models[m]? = (s.form.models[m]?).map fun sm =>
    ((as.filterMap Action.written?).filter (·.model == m)).foldl SharedModel.take sm
  snapshot : (s.run as).controller.snapshot = s.controller.snapshot
  current : (s.run as).controller.current = none
  /-- The loads are those there were. -/
  questions : (s.run as).loads.map (·.question) = s.loads.map (·.question)
  /-- A loop renders once more at most, and has returned after its next step. -/
  renders : ∀ loop, (s.loopRenders loop as).length ≤ 1
  returns : ∀ loop d eventFirst, (s.run as).drives[loop]? = some d →
    ∃ d', ((s.run as).step (.continueDrive loop eventFirst)).drives[loop]? = some d' ∧
      d'.stage = .returned

/-- After the tear-down nothing more happens. -/
theorem final_of_torn (hc : Coherent s) (h : s.controller.tornDown = true) (as : List Action) :
    Final s as := by
  obtain ⟨hstill, hnone⟩ := still_run h as
  -- the sub-form writes nothing any more
  have hform : s.written as = as.filterMap Action.written? := by
    rw [← written_form s as]
    refine (List.filter_eq_self.mpr fun w hw => ?_).symm
    cases hauthor : w.author with
    | form => rfl
    | subform =>
      obtain ⟨v, hv, -⟩ := kernelWrite_of_subform hw hauthor
      rw [hnone] at hv
      exact absurd hv List.not_mem_nil
  exact {
    tornDown := hstill.tornDown
    unwritten := fun w hw => by
      rw [hform, ← written_form s as] at hw
      simpa using (List.mem_filter.mp hw).2
    models := fun m => by rw [models_written, hform]
    snapshot := hstill.snapshot
    current := hstill.current.trans (hc.torn h)
    questions := hstill.questions
    renders := fun loop => loopRenders_torn h loop as
    returns := fun loop d eventFirst hd => returned_of_torn hstill.tornDown hd eventFirst }

/-- A tear-down takes the sub-form down. -/
theorem tornDown_tearDown (s : Session) : s.tearDown.controller.tornDown = true := by
  rcases tearDown_cases s with ⟨he, h⟩ | ⟨-, loads, -, he⟩
  · rw [he, h]
  · rw [he]

/-- The last holder that lets go tears the sub-form down. -/
theorem tornDown_release (h : s.holders ≤ 1) : s.release.controller.tornDown = true := by
  have hzero : s.holders - 1 = 0 := by omega
  unfold release
  simp only [hzero, if_true]
  exact tornDown_tearDown _

/-- **After a tear-down all is final**: from every state that a mounted sub-form comes to, whatever
its holders, its loops and its loads do then. It makes no difference whether it was torn down, or
its last holder has let go. -/
theorem tearDown_final (form : Form) (context : Context) (policy : StalePolicy)
    (before after : List Action) :
    let s := (mount form context policy).run before
    Final (s.step .tearDown) after ∧ (s.holders ≤ 1 → Final (s.step .release) after) ∧
      (s.controller.tornDown = true → Final s after) := by
  intro s
  have hc : Coherent s := coherent_run (coherent_mount form context policy) before
  refine ⟨?_, fun hholders => ?_, fun h => final_of_torn hc h after⟩
  · exact final_of_torn (coherent_step hc .tearDown) (tornDown_tearDown s) after
  · exact final_of_torn (coherent_step hc .release) (tornDown_release hholders) after

/-- A loop renders for client 1, the load of its kernels is taken by a call that waits, and then
client 2 is chosen, of which the loop has still to hear. -/
def openLoop : List Action :=
  [.drive ⟨some .system, false⟩ .acceptAll, .continueDrive 0 true, .start 2, .settle,
    .write 0 "clientId" (.ofNat 2)]

/-- The loop hears of client 2 after all, the load answers, and somebody renders. -/
def lateSteps : List Action :=
  [.continueDrive 0 true, .answerKernels 2 (.ok [⟨⟨7⟩, "6.4.0", false⟩]), .continueDrive 0 true,
    .render ⟨some .product, false⟩]

theorem tearDown_final_lateSteps :
    let s := (mount oneClient (.shared 0) .cancel).run openLoop
    let s' := (mount oneClient (.shared 0) .cancel).run
      (openLoop ++ [.release, .continueDrive 0 true])
    (s.step .tearDown).loads[2]? = some ⟨.kernels ⟨1, some (.client ⟨1⟩)⟩ (.client ⟨1⟩), .running⟩ ∧
      ((s.step .tearDown).loopRenders 0 lateSteps).length = 1 ∧
      Final (s.step .tearDown) lateSteps ∧
      s'.holders ≤ 1 ∧ Final (s'.step .release) lateSteps ∧
      (s.step .tearDown).controller.tornDown = true ∧ Final (s.step .tearDown) [] := by
  intro s s'
  have h := tearDown_final oneClient (.shared 0) .cancel openLoop lateSteps
  have h' := tearDown_final oneClient (.shared 0) .cancel
    (openLoop ++ [.release, .continueDrive 0 true]) lateSteps
  have h'' := tearDown_final oneClient (.shared 0) .cancel (openLoop ++ [.tearDown]) []
  have hholders : s'.holders ≤ 1 := by decide +kernel
  have htorn : (s.step .tearDown).controller.tornDown = true := by decide +kernel
  exact ⟨by decide +kernel, by decide +kernel, h.1, hholders, h'.2.1 hholders, htorn, h''.2.2 htorn⟩

end Session

end LivePatching
