import LivePatching.Proofs.Effort

/-!
# A loop comes to an end

A loop hears of the kernels that the sub-form writes, renders at each, and a render may lead to the
next write. This feeds on nothing: when the form and the holders of the sub-form stop acting, the
loop and the loads come to rest, whatever the order of their steps.

* `Action.Continues`: the steps of one loop and of loads.
* `effort_step`: **every such step that changes something leaves less to do.**
* `atRest_iff`: a session is at rest when no such step changes it.
* `rests`, `atRest_after`: some schedule leads to rest, and every fair one does.
* `derivations_calm`: **without another template to hear of, at most one derivation is made.**
* `drive_ends`: **every schedule ends, and ends at rest.**
-/

namespace LivePatching

/-- What goes on when the form and the holders of the sub-form stop acting. -/
def Action.Continues (loop : Nat) : Action → Prop
  | .continueDrive loop' _ => loop' = loop
  | a => a.OfLoad

namespace Session

/-- The action does something. -/
def Changes (s : Session) (a : Action) : Prop := s.step a ≠ s

/-- All loads are over, and the loop has returned or waits for what is not there. -/
structure AtRest (s : Session) (loop : Nat) : Prop where
  loads : ∀ l ∈ s.loads, l.stage.isOver = true
  drive : ∀ d, s.drives[loop]? = some d → s.Idle d

variable {s s' : Session} {a : Action} {as : List Action} {loop : Nat} {d d' : Drive}
  {es : List FormEvent}

/-! ## Less and less is left to do -/

theorem continueDrive_none (hd : s.drives[loop]? = none) (eventFirst : Bool) :
    s.continueDrive loop eventFirst = s := by
  unfold continueDrive
  rw [hd]

/-- A run that continues a loop consists of steps of loads and of the loop. -/
theorem continues_cases (h : a.Continues loop) :
    a.OfLoad ∨ ∃ eventFirst, a = .continueDrive loop eventFirst := by
  cases a with
  | continueDrive loop' eventFirst =>
    refine .inr ⟨eventFirst, ?_⟩
    rw [show loop' = loop from h]
  | _ => exact .inl h

/-- **A step that changes something leaves less to do.** -/
theorem effort_step (h : a.Continues loop) (hne : s.Changes a) :
    (s.step a).effort loop < s.effort loop := by
  rcases continues_cases h with hload | ⟨eventFirst, rfl⟩
  · exact (effort_load hload loop).resolve_left hne
  · cases hd : s.drives[loop]? with
    | none => exact absurd (continueDrive_none hd eventFirst) hne
    | some d =>
      rcases effort_driveStep hd (continueDrive_step hd eventFirst) with ⟨-, he⟩ | hlt
      · exact absurd he hne
      · exact hlt

/-- Every step that changes something spends some of the effort. -/
theorem effort_run (h : ∀ a ∈ as, a.Continues loop) (hne : s.Always as Changes) :
    as.length + (s.run as).effort loop ≤ s.effort loop := by
  induction as generalizing s with
  | nil => simp
  | cons a as ih =>
    obtain ⟨ha, has⟩ := always_cons.mp hne
    have hstep := effort_step (h a List.mem_cons_self) ha
    have hrest := ih (fun b hb => h b (List.mem_cons_of_mem _ hb)) has
    rw [run_cons, List.length_cons]
    omega

/-! ## Rest -/

/-- At rest a load has nothing to do. -/
theorem AtRest.load (h : s.AtRest loop) (ha : a.OfLoad) : s.step a = s := by
  -- all loads are over, and no step moves a load that is
  have hover : ∀ {n : Nat} {q : Question} {stage : Stage}, s.loads[n]? = some ⟨q, stage⟩ →
      stage.isOver = true := by
    intro n q stage hl
    exact h.loads _ (List.mem_of_getElem? hl)
  cases a with
  | start load =>
    rcases start_cases s load with he | ⟨q, hl, -⟩
    · exact he
    · cases hover hl
  | drop load =>
    rcases drop_cases s load with he | ⟨q, asked, -, hl, -⟩
    · exact he
    · cases hover hl
  | answerClients load answer | answerProducts load answer =>
    exact if_neg fun hl => by cases hover hl
  | answerKernels load answer =>
    rw [step]
    unfold answerKernels
    split
    · rename_i hl
      cases hover hl
    · rfl
  | _ => exact ha.elim

/-- A loop at rest does not go on. -/
theorem AtRest.continueDrive (h : s.AtRest loop) (eventFirst : Bool) :
    s.continueDrive loop eventFirst = s := by
  cases hd : s.drives[loop]? with
  | none => exact continueDrive_none hd eventFirst
  | some d => exact eq_of_idle hd (h.drive d hd) (continueDrive_step hd eventFirst)

/-- A load that is not over has a step to take. -/
theorem over_of_still (h : ∀ a : Action, a.OfLoad → s.step a = s) :
    ∀ l ∈ s.loads, l.stage.isOver = true := by
  rintro ⟨q, stage⟩ hl
  obtain ⟨n, hn⟩ := List.getElem?_of_mem hl
  -- a load that could take a step would be at another stage after it
  have hstill : ∀ {a : Action} {stage' : Stage}, a.OfLoad →
      (s.step a).loads = (s.setStage n stage').loads → stage' = stage := by
    intro a stage' ha he
    rw [h a ha] at he
    have hmodify := congrArg (·[n]?) he.symm
    simp only [setStage] at hmodify
    rw [getElem?_modify_self, hn] at hmodify
    exact congrArg Load.stage (Option.some.inj hmodify)
  cases stage with
  | finished => rfl
  | dropped _ => rfl
  | queued =>
    have hstart : s.step (.start n) = s.setStage n .running := by simp only [step, start, hn]
    cases hstill (a := .start n) trivial (congrArg (·.loads) hstart)
  | aborted asked =>
    have hdrop : (s.step (.drop n)).loads = (s.setStage n (.dropped asked)).loads := by
      simp only [step, drop, hn]
      split
      · split <;> rfl
      · rfl
    cases hstill (a := .drop n) trivial hdrop
  | running =>
    have hcatalog : ∀ list : Listing, q = list.question →
        (s.answerCatalog list n (.ok [])).loads = (s.setStage n .finished).loads := by
      rintro list rfl
      rw [answerCatalog, if_pos hn]
      simp only
      split <;> rfl
    cases q with
    | clients => cases hstill (a := .answerClients n (.ok [])) trivial (hcatalog .clients rfl)
    | products => cases hstill (a := .answerProducts n (.ok [])) trivial (hcatalog .products rfl)
    | kernels key x =>
      have hanswer : (s.step (.answerKernels n (.ok []))).loads =
          (s.setStage n .finished).loads := by
        have hstep := answerKernels_step s n (.ok [])
        rw [step]
        generalize s.answerKernels n (.ok []) = s' at hstep ⊢
        cases hstep with
        | unasked hno => exact absurd hn (hno key x)
        | _ => rfl
      cases hstill (a := .answerKernels n (.ok [])) trivial hanswer

/-- **A session is at rest when neither its loads nor the loop can change it.** -/
theorem atRest_iff : s.AtRest loop ↔ ∀ a, a.Continues loop → ¬ s.Changes a := by
  constructor
  · intro h a ha hne
    rcases continues_cases ha with hload | ⟨eventFirst, rfl⟩
    · exact hne (h.load hload)
    · exact hne (h.continueDrive eventFirst)
  · intro h
    have hstill : ∀ a, a.Continues loop → s.step a = s := fun a ha => not_not.mp (h a ha)
    refine ⟨over_of_still fun a ha => hstill a ?_, fun d hd => ?_⟩
    · cases a with
      | continueDrive => exact ha.elim
      | _ => exact ha
    · have hloop : s.continueDrive loop false = s := hstill (.continueDrive loop false) rfl
      -- a loop that is not idle has less to do after its step, so it cannot stand still
      rcases effort_driveStep hd (continueDrive_step hd false) with ⟨hidle, -⟩ | hlt
      · exact hidle
      · rw [hloop] at hlt
        exact absurd hlt (Nat.lt_irrefl _)

/-- **From every session a schedule leads to rest.** -/
theorem rests (s : Session) (loop : Nat) : ∃ as, (∀ a ∈ as, a.Continues loop) ∧
    s.Always as Changes ∧ (s.run as).AtRest loop := by
  induction hn : s.effort loop using Nat.strongRecOn generalizing s with
  | ind n ih =>
    -- where there is still a step that changes something, it takes off some of the work
    by_cases hrest : s.AtRest loop
    · exact ⟨[], fun _ ha => absurd ha List.not_mem_nil, always_nil, hrest⟩
    · rw [atRest_iff] at hrest
      obtain ⟨a, ha⟩ := not_forall.mp hrest
      obtain ⟨hcont, hne⟩ := Classical.not_imp.mp ha
      have hchanges : s.Changes a := not_not.mp hne
      have hlt := effort_step hcont hchanges
      rw [hn] at hlt
      obtain ⟨as, has, halways, hend⟩ := ih _ hlt (s.step a) rfl
      refine ⟨a :: as, ?_, always_cons.mpr ⟨hchanges, halways⟩, hend⟩
      intro b hb
      rcases List.mem_cons.mp hb with rfl | hb
      · exact hcont
      · exact has b hb

/-! ## Schedules -/

/-- The session after the first steps of a schedule. -/
def after (s : Session) (schedule : Nat → Action) (n : Nat) : Session :=
  s.run ((List.range n).map schedule)

/-- The schedule does not idle for ever while there is something to do. -/
def Fair (s : Session) (loop : Nat) (schedule : Nat → Action) : Prop :=
  ∀ n, ¬ (s.after schedule n).AtRest loop →
    ∃ m, n ≤ m ∧ (s.after schedule m).Changes (schedule m)

variable {schedule : Nat → Action} {n m : Nat}

theorem after_succ (s : Session) (schedule : Nat → Action) (n : Nat) :
    s.after schedule (n + 1) = (s.after schedule n).step (schedule n) := by
  unfold after
  rw [List.range_succ, List.map_append, run_append]
  rfl

/-- The effort never grows along a schedule. -/
theorem effort_after (h : ∀ n, (schedule n).Continues loop) (hnm : n ≤ m) :
    (s.after schedule m).effort loop ≤ (s.after schedule n).effort loop := by
  induction hnm with
  | refl => exact Nat.le_refl _
  | @step m hnm ih =>
    rw [after_succ]
    by_cases hne : (s.after schedule m).Changes (schedule m)
    · have hlt := effort_step (h m) hne
      omega
    · rw [not_not.mp hne]
      exact ih

/-- Who is at rest stays at rest. -/
theorem AtRest.after (h : ∀ n, (schedule n).Continues loop)
    (hrest : (s.after schedule n).AtRest loop) (hnm : n ≤ m) :
    s.after schedule m = s.after schedule n := by
  induction hnm with
  | refl => rfl
  | @step m hnm ih =>
    have hstill : ¬ (s.after schedule m).Changes (schedule m) := by
      rw [ih]
      exact atRest_iff.mp hrest _ (h m)
    rw [after_succ, not_not.mp hstill, ih]

/-- **A fair schedule comes to rest.** -/
theorem atRest_after (h : ∀ n, (schedule n).Continues loop) (hfair : s.Fair loop schedule) :
    ∃ n, (s.after schedule n).AtRest loop := by
  by_contra hnever
  have hnot := not_exists.mp hnever
  have hless : ∀ n, ∃ m, (s.after schedule m).effort loop < (s.after schedule n).effort loop := by
    intro n
    obtain ⟨m, hnm, hne⟩ := hfair n (hnot n)
    have hlt := effort_step (h m) hne
    rw [← after_succ] at hlt
    exact ⟨m + 1, Nat.lt_of_lt_of_le hlt (effort_after h hnm)⟩
  -- so there is no amount of work that is left at any time
  have hnone : ∀ k n, (s.after schedule n).effort loop ≠ k := by
    intro k
    induction k using Nat.strongRecOn with
    | ind k ih =>
      rintro n rfl
      obtain ⟨m, hlt⟩ := hless n
      exact ih _ hlt m rfl
  exact hnone _ 0 rfl

/-! ## Calm -/

/-- The loop will hear of no other template: there is none among the events that it is to get, and
the frame does not announce one. -/
structure Calm (s : Session) (d : Drive) : Prop where
  events : ∀ e ∈ s.form.bus.since d.subscription.next, d.subscription.filter.accepts e = true →
    e.topic ≠ .template
  frame : ∀ t, s.form.bus.frame.template = some t → t = d.props.template

/-- A calm loop keeps its template at an event. -/
theorem Calm.apply {e : FormEvent} {subscription : Subscription} (h : s.Calm d)
    (hp : d.subscription.Polled s.form.bus (.event e, subscription)) :
    (d.props.apply e).template = d.props.template := by
  cases hp with
  | event skipped _ rest _ hsplit _ he =>
    have hmem : e ∈ s.form.bus.since d.subscription.next := by
      rw [hsplit]
      exact List.mem_append_right _ List.mem_cons_self
    have htopic := h.events e hmem he
    cases e with
    | templateChanged t => exact absurd rfl htopic
    | _ => rfl

/-- A calm loop renders with the template that it has. -/
theorem Calm.nextProps {p : Props} {eventFirst : Bool} (h : s.Calm d)
    (hd : s.drives[loop]? = some d) (hp : s.nextProps loop eventFirst = some p) :
    p.template = d.props.template := by
  have hpolled := d.subscription.poll_polled s.form.bus
  unfold Session.nextProps at hp
  rw [hd] at hp
  simp only at hp
  split at hp
  · cases hp
  · cases hp
    rfl
  · split at hp
    · cases hp
    · -- what it hears next is no other template, and neither is what the frame holds
      rcases hpoll : d.subscription.poll s.form.bus with ⟨delivery, subscription⟩
      rw [hpoll] at hp hpolled
      cases delivery with
      | event e =>
        cases hp
        exact h.apply hpolled
      | lagged missed =>
        cases hp
        exact resync_template (strays_eq_false.mpr h.frame)
      | pending => cases hp
      | closed => cases hp

/-- A calm loop stays calm when it takes an event, and keeps its template. -/
theorem Calm.moves (h : s.Calm d) (hm : Moves s.form.bus d d') :
    s.Calm d' ∧ d'.props.template = d.props.template := by
  have hpolled := d.subscription.poll_polled s.form.bus
  -- the events ahead are some of those that were ahead before
  have hevents : ∀ delivery, d.subscription.poll s.form.bus = (delivery, d'.subscription) →
      ∀ e ∈ s.form.bus.since d'.subscription.next, d'.subscription.filter.accepts e = true →
        e.topic ≠ .template := by
    intro delivery hp e he haccepts
    rw [hp] at hpolled
    obtain ⟨xs, hxs⟩ := s.form.bus.since_drop (Subscription.next_le_of_polled hpolled)
    rw [Subscription.filter_of_polled hpolled] at haccepts
    refine h.events e ?_ haccepts
    rw [hxs]
    exact List.mem_append_right _ he
  have htemplate : d'.props.template = d.props.template := by
    cases hm with
    | stay hp => rw [hp]
    | event e hp hs =>
      rw [hs] at hpolled
      rw [hp, h.apply hpolled]
    | lagged missed hp => rw [hp, resync_template (strays_eq_false.mpr h.frame)]
    | nothing delivery hp => rw [hp]
  refine ⟨⟨?_, by rw [htemplate]; exact h.frame⟩, htemplate⟩
  cases hm with
  | stay _ hs =>
    rw [hs]
    exact h.events
  | event e _ hs => exact hevents _ hs
  | lagged missed _ hs => exact hevents _ hs
  | nothing delivery _ hs => exact hevents _ hs

/-- What the sub-form says does not disturb a calm loop. -/
theorem Calm.beside (h : s.Calm d) (hf : s.form.Beside s'.form es) : s'.Calm d := by
  refine ⟨fun e he haccepts => ?_, ?_⟩
  · rcases List.mem_append.mp ((hf.hears.since_sublist _).subset he) with hold | hnew
    · exact h.events e hold haccepts
    · rw [hf.words e hnew]
      simp
  · rw [hf.hears.frame, foldl_words hf.words]
    exact h.frame

/-- A render of a loop writes at most the kernel. -/
theorem beside_renderInDrive (s : Session) (loop : Nat) (d : Drive) :
    ∃ es, s.form.Beside (s.renderInDrive loop d).form es := by
  obtain ⟨es, hes, -⟩ := spends_render s d.props
  rcases renderInDrive_cases s loop d with ⟨-, h⟩ | ⟨-, h⟩
  · rw [h]
    exact ⟨es, ⟨hes.hears.capacity, hes.hears.log, hes.hears.frame⟩, hes.words, hes.id⟩
  · rw [h]
    exact ⟨es, hes⟩

theorem beside_endDrive (s : Session) (loop : Nat) (d : Drive) :
    s.form.Beside (s.endDrive loop d).form [] := by
  refine ⟨hears_endDrive s loop d, fun _ he => absurd he List.not_mem_nil, fun m g _ => ?_⟩
  unfold endDrive
  rw [form_release]
  rfl

/-- A step of a loop writes at most the kernel. -/
theorem beside_driveStep (h : DriveStep s loop d s') : ∃ es, s.form.Beside s'.form es := by
  cases h with
  | ended => exact ⟨[], .refl _⟩
  | start => exact beside_renderInDrive s loop _
  | stop => exact ⟨[], beside_endDrive s loop _⟩
  | event => exact beside_renderInDrive s loop _
  | lagged => exact beside_renderInDrive s loop _
  | closed => exact ⟨[], beside_endDrive s loop _⟩
  | pending => exact ⟨[], .refl _⟩

/-- Without an observation nothing is derived. -/
theorem derivation_unobserved (h : (s.turn a).observed = none) : s.derivation? a = none := by
  unfold derivation?
  rw [h]

/-- Who renders makes the derivation that is due. -/
theorem derivation_renderTurn {p : Props} (h : s.turn a = s.renderTurn p) :
    (s.derivation? a).toList.length ≤ (s.due p).toNat := by
  cases hp : p.template with
  | none =>
    have hnone : (s.turn a).observed = none := by
      rw [h, renderTurn, hp]
      rfl
    rw [derivation_unobserved hnone]
    exact Nat.zero_le _
  | some t =>
    have hsome : (s.turn a).observed = some (.read s.form t s.context) := by
      rw [h, renderTurn, hp]
      rfl
    rw [due_of_some hp]
    unfold derivation?
    rw [hsome]
    simp only
    -- a derivation is due as long as the inputs are not those of the current one
    cases s.unmoved (.read s.form t s.context) with
    | true => exact Nat.zero_le _
    | false =>
      cases (s.step a).controller.current with
      | none => exact Nat.zero_le _
      | some key => exact Nat.le_refl _

/-- A derivation was due, and then none is. -/
theorem derivation_due {eventFirst : Bool} {p : Props}
    (h : ∀ q, s.nextProps loop eventFirst = some q → q.template = p.template) :
    (s.derivation? (.continueDrive loop eventFirst)).toList.length +
        ((s.step (.continueDrive loop eventFirst)).due p).toNat ≤ (s.due p).toNat := by
  obtain ⟨bus, settlings, drives, holders, he⟩ := step_eq s (.continueDrive loop eventFirst)
  -- whether a derivation is due is not a matter of the books
  have hbooks : (s.step (.continueDrive loop eventFirst)).due p =
      (s.take (s.turn (.continueDrive loop eventFirst))).due p := by
    rw [he]
    rfl
  rw [hbooks]
  rcases continueDrive_turn s loop eventFirst with ⟨q, hq, ht⟩ | ht | ht
  · have htemplate := h q hq
    obtain ⟨-, -, -, hdue⟩ := spends_render s q
    have hderivation := derivation_renderTurn ht
    rw [ht, ← due_template htemplate, hdue, ← due_template htemplate]
    exact hderivation
  · rw [derivation_unobserved (by rw [ht]; rfl), ht, take, (spends_tearDown s).2.2]
    exact Nat.zero_le _
  · rw [derivation_unobserved (by rw [ht]; rfl), ht]
    exact Nat.le_of_eq (Nat.zero_add _)

/-- **A calm loop stays calm, and its steps and those of loads make the derivation that is due.** -/
theorem Calm.step (h : s.Calm d) (hd : s.drives[loop]? = some d) (ha : a.Continues loop) :
    ∃ d', (s.step a).drives[loop]? = some d' ∧ (s.step a).Calm d' ∧
      (s.derivation? a).toList.length + ((s.step a).due d'.props).toNat ≤
        (s.due d.props).toNat := by
  rcases continues_cases ha with hload | ⟨eventFirst, rfl⟩
  · have hnone : s.derivation? a = none := derivation_unobserved (turn_load hload).2
    refine ⟨d, by rw [drives_load hload, hd], ?_⟩
    rw [hnone]
    rcases spends_load (s := s) hload with he | ⟨es, hspent⟩
    · rw [he]
      exact ⟨h, Nat.le_of_eq (Nat.zero_add _)⟩
    · refine ⟨h.beside hspent.form, ?_⟩
      rw [due_congr hspent.form (context_step s a) hspent.tornDown hspent.inputs]
      exact Nat.le_of_eq (Nat.zero_add _)
  · obtain ⟨d', hd', hm⟩ := continueDrive_moves hd eventFirst
    obtain ⟨es, hes⟩ := beside_driveStep (continueDrive_step hd eventFirst)
    obtain ⟨hcalm, htemplate⟩ := h.moves hm
    -- whatever the loop renders with has the template it has now
    have hprops : ∀ q, s.nextProps loop eventFirst = some q → q.template = d'.props.template := by
      intro q hq
      rw [htemplate]
      exact h.nextProps hd hq
    have hdue := derivation_due hprops
    have hsame : s.due d'.props = s.due d.props := due_template htemplate
    rw [hsame] at hdue
    exact ⟨d', hd', hcalm.beside hes, hdue⟩

/-- A calm loop derives only what was due when it began. -/
theorem derivations_calm (h : s.Calm d) (hd : s.drives[loop]? = some d)
    (has : ∀ a ∈ as, a.Continues loop) : (s.derivations as).length ≤ (s.due d.props).toNat := by
  induction as generalizing s d with
  | nil => exact Nat.zero_le _
  | cons a as ih =>
    obtain ⟨d', hd', hcalm, hstep⟩ := h.step hd (has a List.mem_cons_self)
    have hrest := ih hcalm hd' fun b hb => has b (List.mem_cons_of_mem _ hb)
    have hsplit : s.derivations (a :: as) = (s.derivation? a).toList ++ (s.step a).derivations as :=
      rfl
    rw [hsplit, List.length_append]
    omega

/-- What becomes of a session when the form and the holders of the sub-form stop acting. -/
structure Ends (s : Session) (loop : Nat) : Prop where
  /-- Every schedule ends: only so many steps can change something. -/
  bounded : ∀ as, (∀ a ∈ as, a.Continues loop) → s.Always as Changes → as.length ≤ s.effort loop
  /-- It ends at rest, and nowhere else. -/
  rests : ∀ as, (∀ a ∈ as, a.Continues loop) → s.Always as Changes →
    ∃ bs, (∀ b ∈ bs, b.Continues loop) ∧ s.Always (as ++ bs) Changes ∧
      (s.run (as ++ bs)).AtRest loop
  still : ∀ as, (s.run as).AtRest loop ↔ ∀ a, a.Continues loop → ¬ (s.run as).Changes a
  /-- A schedule that goes on for ever comes to rest, unless it idles. -/
  fair : ∀ schedule : Nat → Action, (∀ n, (schedule n).Continues loop) → s.Fair loop schedule →
    ∃ n, (s.after schedule n).AtRest loop ∧ ∀ m, n ≤ m → s.after schedule m = s.after schedule n
  /-- A loop that will hear of no other template brings one derivation about at most. -/
  once : ∀ d as, s.drives[loop]? = some d → s.Calm d → (∀ a ∈ as, a.Continues loop) →
    (s.derivations as).length ≤ 1

/-- **A loop that hears of its own writes does not feed on them**: from any session, whatever the
order of the steps of the loop and of the loads, they come to an end. -/
theorem drive_ends (s : Session) (loop : Nat) : s.Ends loop where
  bounded := fun as has hchanges => by
    have heffort := effort_run has hchanges
    omega
  rests := fun as has hchanges => by
    obtain ⟨bs, hbs, hrest, hend⟩ := rests (s.run as) loop
    refine ⟨bs, hbs, always_append.mpr ⟨hchanges, hrest⟩, ?_⟩
    rw [run_append]
    exact hend
  still := fun as => atRest_iff
  fair := fun schedule h hfair => by
    obtain ⟨n, hrest⟩ := atRest_after h hfair
    exact ⟨n, hrest, fun m hnm => hrest.after h hnm⟩
  once := fun d as hd hcalm has => by
    have hderivations := derivations_calm hcalm hd has
    have hdue := Bool.toNat_le (s.due d.props)
    omega

/-- A loop that will render for client 1, on a bus that hears of each kernel and keeps one event. -/
def clientLoop : Session :=
  (mount ⟨[.ofModel (.ofPairs [("clientId", .ofNat 1)]) true], ⟨1, #[], .empty, 0, 1⟩⟩ (.shared 0)
    .cancel).step (.drive ⟨some .system, false⟩ .acceptAll)

/-- The loop renders, the kernel is loaded and written, and the loop hears of it. -/
def ownWord : List Action :=
  [.continueDrive 0 true, .start 2, .answerKernels 2 (.ok [⟨⟨7⟩, "6.4.0", false⟩]),
    .continueDrive 0 true]

theorem drive_ends_ownWord : (clientLoop.run ownWord).form.bus.log.size = 1 ∧
    (clientLoop.derivations ownWord).length ≤ 1 := by
  have hcalm : clientLoop.Calm ⟨⟨some .system, false⟩, ⟨.acceptAll, 0⟩, .starting⟩ := by
    constructor
    · intro e he
      cases he
    · intro t ht
      cases ht
  have hown : ∀ a ∈ ownWord, a.Continues 0 := by
    simp [ownWord, Action.Continues, Action.OfLoad]
  have hword : (clientLoop.run ownWord).form.bus.log.size = 1 := by decide +kernel
  exact ⟨hword, (drive_ends clientLoop 0).once _ ownWord rfl hcalm hown⟩

end Session

end LivePatching
