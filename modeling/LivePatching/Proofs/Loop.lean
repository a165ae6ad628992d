import LivePatching.Proofs.Record

/-!
# What a step does to the bus and to the loops

* `hears_step`: a step only adds events to the bus.
* `drives_step_of_ne`: a loop is moved by its own steps only.
* `Moves`: what a step of a loop makes of its props and of its place in the bus.
* `continueDrive_moves`: **every step of a loop is one of these.**
* `closed_of_returned`, `continueDrive_waiting`: why a loop has returned, and how it came to wait.
-/

namespace LivePatching

open Json

/-- A write is announced on the bus, or nothing is. -/
theorem Form.hears_write (f : Form) (i : Nat) (key : String) (value : Value) :
    ∃ es, f.bus.Hears es (f.write i key value).bus ∧
      (es = [] ∨ es = [.valueChanged key value]) := by
  unfold write
  split
  · exact ⟨[], .refl _, .inl rfl⟩
  · simp only
    split
    · exact ⟨_, Bus.hears_publish _ _, .inr rfl⟩
    · exact ⟨[], .refl _, .inl rfl⟩

/-- A model that announces tells of what is written to it. -/
theorem Form.hears_announced (f : Form) {i : Nat} {m : SharedModel} (h : f.models[i]? = some m)
    (ha : m.announces = true) (key : String) (value : Value) :
    f.bus.Hears [.valueChanged key value] (f.write i key value).bus := by
  unfold write
  rw [h]
  simp only [ha, if_true]
  exact Bus.hears_publish _ _

/-- A write of the form is heard on the bus. -/
theorem Form.hears_own (f : Form) (t : Turn) : ∃ es, f.bus.Hears es (f.own t).bus := by
  cases t with
  | write i key value =>
    obtain ⟨es, hes, -⟩ := f.hears_write i key value
    exact ⟨es, hes⟩
  | _ => exact ⟨[], .refl _⟩

/-- A write of the sub-form is heard on the bus. -/
theorem Form.hears_put (f : Form) (o : Option KernelWrite) :
    ∃ es, f.bus.Hears es (f.put o).bus := by
  cases o with
  | none => exact ⟨[], .refl _⟩
  | some w =>
    obtain ⟨es, hes, -⟩ := f.hears_write w.model Field.kernelId.key (idValue w.id)
    exact ⟨es, hes⟩

namespace Session

theorem form_release (s : Session) : s.release.form = s.form := by
  unfold release
  simp only
  split
  · exact form_tearDown _
  · rfl

theorem hears_endDrive (s : Session) (loop : Nat) (d : Drive) :
    s.form.bus.Hears [] (s.endDrive loop d).form.bus := by
  unfold endDrive
  rw [form_release]
  exact Bus.hears_nothing

/-- **A step only adds events to the bus.** -/
theorem hears_step (s : Session) (a : Action) : ∃ es, s.form.bus.Hears es (s.step a).form.bus := by
  obtain ⟨bus, _, _, _, hbus, he⟩ := step_books s a
  obtain ⟨es, hes⟩ := s.form.hears_own (s.turn a)
  obtain ⟨es', hes'⟩ := (s.form.own (s.turn a)).hears_put (s.kernelWrite? a)
  rw [form_taken] at hbus
  rw [he]
  exact ⟨_, (hes.trans hes').trans hbus⟩

/-! ## Loops -/

theorem drives_release (s : Session) : s.release.drives = s.drives := by
  unfold release
  simp only
  split
  · exact (sameBooks_take { s with holders := s.holders - 1 } .tearDown).drives
  · rfl

/-- A loop that ends has returned, and no other loop changes. -/
theorem drives_endDrive (s : Session) (loop : Nat) (d : Drive) :
    (s.endDrive loop d).drives = s.drives.set loop { d with stage := .returned } := by
  unfold endDrive
  exact drives_release _

/-- A render in a loop changes the stage of that loop only. -/
theorem drives_renderInDrive (s : Session) (loop : Nat) (d : Drive) :
    ∃ stage, (s.renderInDrive loop d).drives = s.drives.set loop { d with stage } := by
  have hd := (sameBooks_take s (s.renderTurn d.props)).drives
  rcases renderInDrive_cases s loop d with ⟨-, h⟩ | ⟨-, h⟩
  · exact ⟨.returned, by rw [h, ← hd]; rfl⟩
  · exact ⟨.waiting, by rw [h, ← hd]; rfl⟩

/-- A step of a loop moves that loop only. -/
theorem drives_continueDrive (s : Session) (loop : Nat) (eventFirst : Bool) :
    (s.continueDrive loop eventFirst).drives = s.drives ∨
      ∃ d, (s.continueDrive loop eventFirst).drives = s.drives.set loop d := by
  cases hd : s.drives[loop]? with
  | none => exact .inl (by simp only [continueDrive, hd])
  | some d =>
    have h := continueDrive_step hd eventFirst
    generalize s.continueDrive loop eventFirst = s' at h ⊢
    cases h with
    | ended => exact .inl rfl
    | stop => exact .inr ⟨_, drives_endDrive s loop _⟩
    | closed => exact .inr ⟨_, drives_endDrive s loop _⟩
    | pending => exact .inr ⟨_, rfl⟩
    | start => obtain ⟨_, h⟩ := drives_renderInDrive s loop d; exact .inr ⟨_, h⟩
    | event e subscription =>
      obtain ⟨_, h⟩ :=
        drives_renderInDrive s loop { d with props := d.props.apply e, subscription }
      exact .inr ⟨_, h⟩
    | lagged missed subscription =>
      obtain ⟨_, h⟩ := drives_renderInDrive s loop
        { d with props := d.props.resync s.form.bus.frame, subscription }
      exact .inr ⟨_, h⟩

/-- A loop starts behind the last event of the bus. -/
theorem getElem?_drive (s : Session) (p : Props) (filter : Filter) :
    (s.step (.drive p filter)).drives[s.drives.length]? =
      some ⟨p, ⟨filter, s.form.bus.published⟩, .starting⟩ :=
  List.getElem?_concat_length

/-- A loop is moved by its own steps only. -/
theorem drives_step_of_ne {s : Session} {a : Action} {loop : Nat} (hl : loop < s.drives.length)
    (ha : ∀ eventFirst, a ≠ .continueDrive loop eventFirst) :
    (s.step a).drives[loop]? = s.drives[loop]? := by
  have htake := congrArg (·[loop]?) (sameBooks_take s (s.turn a)).drives
  cases a with
  | drive p filter => exact List.getElem?_append_left hl
  | render p => rw [step, render_eq_take]; exact htake
  | release => rw [step, drives_release]
  | continueSettling call =>
    simp only [step, continueSettling]
    split
    · split <;> rfl
    · rfl
  | abandonSettling call =>
    simp only [step, abandonSettling]
    split <;> rfl
  | continueDrive loop' eventFirst =>
    have hne : loop' ≠ loop := by
      rintro rfl
      exact ha eventFirst rfl
    rcases drives_continueDrive s loop' eventFirst with h | ⟨d, h⟩
    · rw [step, h]
    · rw [step, h, List.getElem?_set_ne hne]
  | _ => exact htake

theorem drives_set_self {drives : List Drive} {loop : Nat} {d : Drive}
    (hd : drives[loop]? = some d) (d' : Drive) : (drives.set loop d')[loop]? = some d' := by
  rw [List.getElem?_set_self (List.getElem?_eq_some_iff.mp hd).1]

theorem eq_of_drives_set {drives : List Drive} {loop : Nat} {d d₁ d' : Drive}
    (hd : drives[loop]? = some d) (h : (drives.set loop d₁)[loop]? = some d') : d₁ = d' :=
  Option.some.inj ((drives_set_self hd d₁).symm.trans h)

/-- What a step of a loop makes of its props and of its place in the bus. -/
inductive Moves (b : Bus) (d d' : Drive) : Prop where
  | stay : d'.props = d.props → d'.subscription = d.subscription → Moves b d d'
  | event (e : FormEvent) : d'.props = d.props.apply e →
      d.subscription.poll b = (.event e, d'.subscription) → Moves b d d'
  | lagged (missed : Nat) : d'.props = d.props.resync b.frame →
      d.subscription.poll b = (.lagged missed, d'.subscription) → Moves b d d'
  | nothing (delivery : Delivery) : d'.props = d.props →
      d.subscription.poll b = (delivery, d'.subscription) →
      delivery = .pending ∨ delivery = .closed → Moves b d d'

/-- A loop only goes on in the bus, and not past the end. -/
theorem Moves.place {b : Bus} {d d' : Drive} (hm : Moves b d d')
    (h : d.subscription.next ≤ b.published) :
    d'.subscription.filter = d.subscription.filter ∧
      d.subscription.next ≤ d'.subscription.next ∧ d'.subscription.next ≤ b.published := by
  -- all but standing still is a poll
  have hpolled : ∀ delivery, d.subscription.poll b = (delivery, d'.subscription) →
      d'.subscription.filter = d.subscription.filter ∧
        d.subscription.next ≤ d'.subscription.next ∧ d'.subscription.next ≤ b.published := by
    intro delivery hs
    have hpoll := d.subscription.poll_polled b
    rw [hs] at hpoll
    exact ⟨Subscription.filter_of_polled hpoll, Subscription.next_of_polled hpoll h⟩
  cases hm with
  | stay _ hs => rw [hs]; exact ⟨rfl, Nat.le_refl _, h⟩
  | event e _ hs => exact hpolled _ hs
  | lagged missed _ hs => exact hpolled _ hs
  | nothing delivery _ hs => exact hpolled _ hs

/-- **Every step of a loop is one of these.** -/
theorem continueDrive_moves {s : Session} {loop : Nat} {d : Drive} (hd : s.drives[loop]? = some d)
    (eventFirst : Bool) : ∃ d', (s.continueDrive loop eventFirst).drives[loop]? = some d' ∧
      Moves s.form.bus d d' := by
  have hset := drives_set_self hd
  have hrender : ∀ d₁, Moves s.form.bus d d₁ →
      ∃ d', (s.renderInDrive loop d₁).drives[loop]? = some d' ∧ Moves s.form.bus d d' := by
    intro d₁ hm
    obtain ⟨stage, h⟩ := drives_renderInDrive s loop d₁
    refine ⟨{ d₁ with stage }, by rw [h, hset], ?_⟩
    -- the stage does not count
    cases hm with
    | stay hp hs => exact .stay hp hs
    | event e hp hs => exact .event e hp hs
    | lagged missed hp hs => exact .lagged missed hp hs
    | nothing delivery hp hs hn => exact .nothing delivery hp hs hn
  have h := continueDrive_step hd eventFirst
  generalize s.continueDrive loop eventFirst = s' at h ⊢
  cases h with
  | ended => exact ⟨d, hd, .stay rfl rfl⟩
  | start => exact hrender d (.stay rfl rfl)
  | stop subscription _ _ hsub =>
    refine ⟨_, by rw [drives_endDrive, hset], ?_⟩
    rcases hsub with rfl | hsub
    · exact .stay rfl rfl
    · exact .nothing .pending rfl hsub (.inl rfl)
  | event e subscription _ hp =>
    exact hrender { d with props := d.props.apply e, subscription } (.event e rfl hp)
  | lagged missed subscription _ hp =>
    exact hrender { d with props := d.props.resync s.form.bus.frame, subscription }
      (.lagged missed rfl hp)
  | closed subscription _ hp =>
    refine ⟨_, by rw [drives_endDrive, hset], ?_⟩
    exact .nothing .closed rfl hp (.inr rfl)
  | pending subscription _ hp =>
    exact ⟨{ d with subscription }, hset _, .nothing .pending rfl hp (.inl rfl)⟩

/-- To render does not tear down. -/
theorem tornDown_render (s : Session) (p : Props) :
    (s.take (s.renderTurn p)).controller.tornDown = s.controller.tornDown := by
  -- it only observes or suspends
  have hno : ∀ load answer, s.renderTurn p ≠ .answerKernels load answer ∧
      s.renderTurn p ≠ .tearDown := by
    intro load answer
    rcases renderTurn_cases s p with h | ⟨t, h⟩ <;> rw [h] <;> simp
  cases take_kernels s (s.renderTurn p) with
  | quiet _ hq _ => exact hq.tornDown
  | derived i place _ hd =>
    have := hd.moved
    simp only [unmoved, Bool.or_eq_false_iff] at this
    rw [hd.tornDown, this.1]
  | suspended _ hs => rw [hs.tornDown, hs.up]
  | tornDown ht _ => exact absurd ht (hno 0 (.ok [])).2
  | stale load answer key x ht => exact absurd ht (hno load answer).1
  | forgotten load answer key x ht => exact absurd ht (hno load answer).1
  | installed load kernels key x i ht => exact absurd ht (hno load _).1
  | refused load e key x i ht => exact absurd ht (hno load _).1

/-- A loop that renders while the sub-form is up waits afterwards. -/
theorem renderInDrive_up {s : Session} (hup : s.controller.tornDown = false) (loop : Nat)
    (d : Drive) : s.renderInDrive loop d =
      (s.take (s.renderTurn d.props)).setDrive loop { d with stage := .waiting } := by
  rcases renderInDrive_cases s loop d with ⟨h, -⟩ | ⟨-, h⟩
  · rw [tornDown_render, hup] at h; cases h
  · exact h

/-- A loop that returns while the sub-form is up has found the bus closed. -/
theorem closed_of_returned {s : Session} {loop : Nat} {d d' : Drive} {eventFirst : Bool}
    (hd : s.drives[loop]? = some d) (hrun : d.stage ≠ .returned)
    (hup : s.controller.tornDown = false)
    (hd' : (s.step (.continueDrive loop eventFirst)).drives[loop]? = some d')
    (hret : d'.stage = .returned) :
    d'.props = d.props ∧ d.subscription.Polled s.form.bus (.closed, d'.subscription) := by
  -- a loop that has rendered waits, as the sub-form is up
  have hwait : ∀ d₁ : Drive, (s.renderInDrive loop d₁).drives[loop]? = some d' → False := by
    intro d₁ h
    rw [renderInDrive_up hup, setDrive, (sameBooks_take s _).drives] at h
    rw [← eq_of_drives_set hd h] at hret
    cases hret
  have h := continueDrive_step hd eventFirst
  rw [step] at hd'
  generalize s.continueDrive loop eventFirst = s' at h hd'
  cases h with
  | ended hst => exact absurd hst hrun
  | start => exact (hwait _ hd').elim
  | stop _ _ htorn => rw [hup] at htorn; cases htorn
  | event => exact (hwait _ hd').elim
  | lagged => exact (hwait _ hd').elim
  | closed subscription _ hp =>
    rw [drives_endDrive] at hd'
    have hpoll := d.subscription.poll_polled s.form.bus
    rw [hp] at hpoll
    rw [← eq_of_drives_set hd hd']
    exact ⟨rfl, hpoll⟩
  | pending subscription hst =>
    rw [← eq_of_drives_set hd hd'] at hret
    exact absurd hret (by simp [hst])

/-- A loop that waits has rendered with its props, or it has found nothing to do. -/
theorem continueDrive_waiting {s : Session} {loop : Nat} {d d' : Drive} {eventFirst : Bool}
    (hd : s.drives[loop]? = some d) (hup : s.controller.tornDown = false)
    (hd' : (s.step (.continueDrive loop eventFirst)).drives[loop]? = some d')
    (hwait : d'.stage = .waiting) :
    s.turn (.continueDrive loop eventFirst) = s.renderTurn d'.props ∨
      d.stage = .waiting ∧ d'.props = d.props ∧
        s.step (.continueDrive loop eventFirst) = s.setDrive loop d' ∧
        d.subscription.Polled s.form.bus (.pending, d'.subscription) := by
  -- a render in the loop keeps the props it was made with
  have hrender : ∀ d₁ : Drive, (s.renderInDrive loop d₁).drives[loop]? = some d' →
      d'.props = d₁.props := by
    intro d₁ h
    obtain ⟨stage, h₁⟩ := drives_renderInDrive s loop d₁
    rw [h₁] at h
    rw [← eq_of_drives_set hd h]
  have h := continueDrive_step hd eventFirst
  rw [step] at hd' ⊢
  generalize hs' : s.continueDrive loop eventFirst = s' at h hd' ⊢
  cases h with
  | ended hst =>
    rw [hd] at hd'
    cases hd'
    rw [hst] at hwait
    cases hwait
  | start hst =>
    refine .inl ?_
    rw [hrender _ hd']
    simp [turn, nextProps, hd, hst]
  | stop _ _ htorn => rw [hup] at htorn; cases htorn
  | event e subscription hst hp =>
    refine .inl ?_
    rw [hrender _ hd']
    simp [turn, nextProps, hd, hst, hup, hp]
  | lagged missed subscription hst hp =>
    refine .inl ?_
    rw [hrender _ hd']
    simp [turn, nextProps, hd, hst, hup, hp]
  | closed =>
    rw [drives_endDrive] at hd'
    rw [← eq_of_drives_set hd hd'] at hwait
    cases hwait
  | pending subscription hst hp =>
    have hpoll := d.subscription.poll_polled s.form.bus
    rw [hp] at hpoll
    have he := eq_of_drives_set hd hd'
    exact .inr ⟨hst, by rw [← he], by rw [he], by rw [← he]; exact hpoll⟩

end Session

end LivePatching
