import LivePatching.Proofs.Loop
import LivePatching.Proofs.Record

/-!
# What is left to do

When the owner of the form and the holders of the sub-form do nothing more, a loop and the loads
still have steps to take, and each may bring about others: a render derives, an answer writes a
kernel, and the loop hears of that and renders again.

* `Session.work`: the steps that the loads have left.
* `Session.due`: whether a render with some props would change the controller.
* `Session.ahead`: what the events that a loop has not heard may still bring about.
* `spends_render`, `spends_load`: **a render that was due costs no more than one load, and any other
  costs nothing; a step of a load pays for the event that it brings about.**
* `effort_driveStep`, `effort_load`: a step that changes something leaves less to do.
-/

namespace LivePatching

/-- All that the sub-form does to the form: it writes kernels, and the bus hears of them. -/
structure Form.Beside (f f' : Form) (es : List FormEvent) : Prop where
  hears : f.bus.Hears es f'.bus
  words : ∀ e ∈ es, e.topic = .model
  id : ∀ m g, g ≠ .kernelId → (f'.model m).id g = (f.model m).id g

namespace Form

theorem Beside.refl (f : Form) : f.Beside f [] :=
  ⟨.refl _, fun _ he => absurd he List.not_mem_nil, fun _ _ _ => rfl⟩

/-- The sub-form does not write what it reads. -/
theorem Beside.read {f f' : Form} {es : List FormEvent} (h : f.Beside f' es) (t : Template)
    (c : Context) : Inputs.read f' t c = .read f t c := by
  unfold Inputs.read
  rw [h.id _ .clientId (by simp), h.id _ .productId (by simp)]

/-- The sub-form has one thing to say at most. -/
theorem beside_writeKernelId (f : Form) (c : Context) (id : Option EntityId) :
    ∃ es, f.Beside (f.writeKernelId c id) es ∧ es.length ≤ 1 := by
  unfold writeKernelId
  split
  · exact ⟨[], .refl f, Nat.zero_le _⟩
  · rename_i i _
    -- the kernel is no field that inputs are read from
    have hid : ∀ m g, g ≠ .kernelId →
        ((f.write i Field.kernelId.key (idValue id)).model m).id g = (f.model m).id g := by
      intro m g hg
      exact f.id_write_of_ne (fun h => hg (Field.key_injective h.2).symm) _
    obtain ⟨es, hes, hword⟩ := f.hears_write i Field.kernelId.key (idValue id)
    refine ⟨es, ⟨hes, fun e he => ?_, hid⟩, ?_⟩
    · rcases hword with hword | hword
      · rw [hword] at he
        exact absurd he List.not_mem_nil
      · rw [hword] at he
        rw [List.mem_singleton.mp he]
        rfl
    · rcases hword with hword | hword <;> simp [hword]

end Form

/-- The steps of a loop that is woken for the end only. -/
def DriveStage.work : DriveStage → Nat
  | starting => 2
  | waiting => 1
  | returned => 0

/-- Steps of loads. -/
def Action.OfLoad : Action → Prop
  | .start _ => True
  | .answerClients _ _ => True
  | .answerProducts _ _ => True
  | .answerKernels _ _ => True
  | .drop _ => True
  | _ => False

namespace Session

/-- The steps that the loads have left, with those of the loads that the first render will issue. -/
def work (s : Session) : Nat := totalWork s.loads + 6 * (!s.controller.activated).toNat

/-- Whether a render with the props would derive or suspend. -/
def due (s : Session) (p : Props) : Bool :=
  match p.template with
  | none => !(s.controller.tornDown || s.controller.inputs.isNone)
  | some t => !s.unmoved (.read s.form t s.context)

variable {s s' : Session} {p p' : Props} {a : Action} {load : Nat} {es : List FormEvent}

/-! ## What is spent -/

/-- The loads of the first render were reckoned with. -/
theorem work_activate (s : Session) : s.activate.work = s.work := by
  unfold activate
  split
  · rfl
  · rename_i h
    have hfirst : s.controller.activated = false := by
      rw [Bool.or_eq_true, not_or] at h
      simpa using h.1
    simp only [work, issue, totalWork_append, Stage.work, hfirst]
    simp

/-- A derivation adds at most three to the work and the events together. -/
theorem spends_derive (s : Session) (i : Inputs) :
    ∃ es, s.form.Beside (s.derive i).form es ∧ (s.derive i).work + es.length ≤ s.work + 3 := by
  -- without a scope one word is written at most; with one there are the three steps of a new load
  cases hi : i.scope with
  | none =>
    obtain ⟨loads, _, hages, he⟩ := derive_none s hi
    obtain ⟨es, hes, hlen⟩ := s.form.beside_writeKernelId i.context none
    refine ⟨es, by rw [he]; exact hes, ?_⟩
    have hwork := hages.work
    rw [he]
    simp only [work]
    omega
  | some x =>
    obtain ⟨loads, _, hages, he⟩ := derive_some s hi
    refine ⟨[], by rw [he]; exact .refl _, ?_⟩
    have hwork := hages.work
    have happend := totalWork_append loads
      ⟨.kernels ⟨s.controller.generation + 1, some x⟩ x, .queued⟩
    rw [he]
    simp only [work, happend, Stage.work, List.length_nil]
    omega

/-- A render of a template has a derivation due when it finds other inputs. -/
theorem due_of_some {t : Template} (h : p.template = some t) :
    s.due p = !s.unmoved (.read s.form t s.context) := by
  unfold due
  rw [h]

/-- A render without a template has a suspension due when there is a derivation. -/
theorem due_of_none (h : p.template = none) :
    s.due p = !(s.controller.tornDown || s.controller.inputs.isNone) := by
  unfold due
  rw [h]

/-- **An observation of inputs that have changed costs no more than one load**, and the inputs are
then as they were read. -/
theorem spends_observe (s : Session) (t : Template) (c : Context) :
    ∃ es, s.form.Beside (s.observe (.read s.form t c)).form es ∧
      (s.observe (.read s.form t c)).work + es.length ≤
        s.work + 3 * (!s.unmoved (.read s.form t c)).toNat ∧
      (s.observe (.read s.form t c)).unmoved
        (.read (s.observe (.read s.form t c)).form t c) = true := by
  rw [observe_eq]
  cases h : s.unmoved (.read s.form t c) with
  | true =>
    rw [if_pos rfl]
    exact ⟨[], .refl _, Nat.le_add_right _ _, h⟩
  | false =>
    rw [if_neg (by simp)]
    obtain ⟨es, hes, hspent⟩ := spends_derive s (.read s.form t c)
    obtain ⟨place, hd⟩ := derived_derive h
    refine ⟨es, hes, hspent, ?_⟩
    -- after a derivation the inputs are those that were observed
    have hsame : (Inputs.read s.form t c).same (.read s.form t c) = true := by
      simp [Inputs.same, Context.sameWriter]
    unfold unmoved
    rw [hes.read, hd.inputs, Option.any_some, hsame, Bool.or_true]

/-- A suspension adds no work, and there is none due behind it. -/
theorem spends_suspend (s : Session) : s.suspend.form = s.form ∧ s.suspend.work ≤ s.work ∧
    (s.suspend.controller.tornDown || s.suspend.controller.inputs.isNone) = true := by
  rcases suspend_cases s with ⟨he, hnone⟩ | ⟨-, -, loads, _, hages, he⟩
  · rw [he]
    refine ⟨rfl, Nat.le_refl _, ?_⟩
    rcases hnone with hnone | hnone <;> simp [hnone]
  · have hwork := hages.work
    rw [he]
    refine ⟨rfl, ?_, by simp⟩
    simp only [work]
    omega

/-- **A render costs no more than one load, and nothing when it was not due; then none is due.** -/
theorem spends_render (s : Session) (p : Props) :
    ∃ es, s.form.Beside (s.take (s.renderTurn p)).form es ∧
      (s.take (s.renderTurn p)).work + es.length ≤ s.work + 3 * (s.due p).toNat ∧
      (s.take (s.renderTurn p)).due p = false := by
  cases hp : p.template with
  | none =>
    have hturn : s.take (s.renderTurn p) = s.suspend := by
      unfold renderTurn
      rw [hp]
      rfl
    obtain ⟨hform, hwork, hdone⟩ := spends_suspend s
    rw [hturn, due_of_none (s := s.suspend) hp, hdone]
    refine ⟨[], by rw [hform]; exact .refl _, ?_, rfl⟩
    rw [List.length_nil]
    omega
  | some t =>
    have hturn : s.take (s.renderTurn p) = s.activate.observe (.read s.form t s.context) := by
      unfold renderTurn
      rw [hp]
      rfl
    -- to activate changes nothing that an observation looks at
    have hunmoved : s.activate.unmoved (.read s.form t s.context) =
        s.unmoved (.read s.form t s.context) := (quiet_activate s).unmoved _
    have hcontext : (s.activate.observe (.read s.form t s.context)).context = s.context := by
      rw [(sameBooks_observe _ _).context, (sameBooks_activate s).context]
    have hobserve := spends_observe s.activate t s.context
    rw [form_activate, work_activate, hunmoved] at hobserve
    obtain ⟨es, hes, hspent, hdone⟩ := hobserve
    rw [hturn, due_of_some (s := s) hp]
    refine ⟨es, hes, hspent, ?_⟩
    rw [due_of_some hp, hcontext, hdone]
    rfl

/-- What is due depends on the form and the inputs only. -/
theorem due_congr (hf : s.form.Beside s'.form es) (hcontext : s'.context = s.context)
    (htorn : s'.controller.tornDown = s.controller.tornDown)
    (hinputs : s'.controller.inputs = s.controller.inputs) (p : Props) : s'.due p = s.due p := by
  cases hp : p.template with
  | none => rw [due_of_none hp, due_of_none hp, htorn, hinputs]
  | some t =>
    rw [due_of_some hp, due_of_some hp, hcontext, hf.read]
    unfold unmoved
    rw [htorn, hinputs]

/-- A load that moves on takes its work off. -/
theorem work_setStage {q : Question} {stage : Stage} (h : s.loads[load]? = some ⟨q, stage⟩)
    (stage' : Stage) : (s.setStage load stage').work + stage.work = s.work + stage'.work := by
  have hmodify := totalWork_modify (f := fun l => { l with stage := stage' }) h
  simp only [work, setStage]
  simp only at hmodify
  omega

/-- What a step of a load does, if it does something. -/
structure LoadSpends (s s' : Session) (es : List FormEvent) : Prop where
  form : s.form.Beside s'.form es
  work : s'.work + es.length < s.work
  tornDown : s'.controller.tornDown = s.controller.tornDown
  inputs : s'.controller.inputs = s.controller.inputs

/-- A load that grows older has taken a step. -/
theorem spends_aged {q : Question} {stage stage' : Stage} (h : s.loads[load]? = some ⟨q, stage⟩)
    (hlt : stage'.work < stage.work) (tally : Tally) (snapshot : Snapshot) :
    LoadSpends s
      { s.setStage load stage' with tally, controller := { s.controller with snapshot } } [] where
  form := .refl _
  work := by
    have hset := work_setStage h stage'
    simp only [Session.work, setStage, List.length_nil] at hset ⊢
    omega
  tornDown := rfl
  inputs := rfl

/-- The answer to a kernel load spends work of the load. -/
theorem spends_answerKernels (s : Session) (load : Nat)
    (answer : Except ProviderError (List Kernel)) :
    s.answerKernels load answer = s ∨ ∃ es, LoadSpends s (s.answerKernels load answer) es := by
  have h := answerKernels_step s load answer
  generalize s.answerKernels load answer = s' at h ⊢
  -- the load was running, so it has two steps left
  have hwork : ∀ {key x}, s.loads[load]? = some ⟨.kernels key x, .running⟩ →
      (s.answered load).work + 2 = s.work := by
    intro key x hl
    exact work_setStage hl .finished
  cases h with
  | unasked => exact .inl rfl
  | stale key x hl => exact .inr ⟨[], spends_aged hl (by decide) _ s.controller.snapshot⟩
  | forgotten key x hl => exact .inr ⟨[], spends_aged hl (by decide) _ s.controller.snapshot⟩
  | installed key x i kernels hl =>
    obtain ⟨es, hes, hlen⟩ := s.form.beside_writeKernelId i.context (defaultKernel kernels)
    refine .inr ⟨es, hes, ?_, rfl, rfl⟩
    have hspent := hwork hl
    have hsame : ((s.answered load).install i x kernels).work = (s.answered load).work := rfl
    omega
  | refused key x i e hl =>
    have hspent := hwork hl
    have hsame : ((s.answered load).refuse i x).work = (s.answered load).work := rfl
    by_cases hset : ((s.form.model i.context.reads).id .kernelId).isSome = true
    · obtain ⟨es, hes, hlen⟩ := s.form.beside_writeKernelId i.context none
      refine .inr ⟨es, ?_, ?_, rfl, rfl⟩
      · have hform : ((s.answered load).refuse i x).form = s.form.writeKernelId i.context none :=
          if_pos hset
        rw [hform]
        exact hes
      · omega
    · refine .inr ⟨[], ?_, ?_, rfl, rfl⟩
      · have hform : ((s.answered load).refuse i x).form = s.form := if_neg hset
        rw [hform]
        exact .refl _
      · rw [List.length_nil]
        omega

/-- The answer for a list spends work of the load. -/
theorem spends_answerCatalog (s : Session) (list : Listing) (load : Nat)
    (answer : Except ProviderError (List list.Entry)) :
    s.answerCatalog list load answer = s ∨
      ∃ es, LoadSpends s (s.answerCatalog list load answer) es := by
  rcases answerCatalog_cases s list load answer with he | ⟨hl, entries, tally, he⟩
  · exact .inl he
  · rw [he]
    exact .inr ⟨[], spends_aged hl (by decide) tally _⟩

/-- **A step of a load pays for the event that it brings about.** -/
theorem spends_load (h : a.OfLoad) : s.step a = s ∨ ∃ es, LoadSpends s (s.step a) es := by
  cases a with
  | start load =>
    rcases start_cases s load with he | ⟨q, hl, he⟩
    · exact .inl he
    · rw [step, he]
      exact .inr ⟨[], spends_aged hl (by decide) s.tally s.controller.snapshot⟩
  | drop load =>
    rcases drop_cases s load with he | ⟨q, asked, tally, hl, he⟩
    · exact .inl he
    · rw [step, he]
      exact .inr ⟨[], spends_aged hl (by simp [Stage.work]) tally s.controller.snapshot⟩
  | answerClients load answer => exact spends_answerCatalog s .clients load answer
  | answerProducts load answer => exact spends_answerCatalog s .products load answer
  | answerKernels load answer => exact spends_answerKernels s load answer
  | _ => exact h.elim

/-! ## What lies ahead of a loop -/

/-- Whether the frame announces another template than that of the props. -/
def strays (s : Session) (p : Props) : Bool := s.form.bus.frame.template.any (· != p.template)

/-- What is left to do for the events that a loop has not heard. Each is a step; another template is
a derivation, and it may be one that the frame takes back, which is a derivation again. -/
def ahead (s : Session) (d : Drive) : Nat :=
  (s.form.bus.since d.subscription.next).length +
    6 * (s.form.bus.since d.subscription.next).countP (·.topic == .template) +
    3 * (s.strays d.props).toNat + 3 * (s.due d.props).toNat

/-- Writes to models do not change the frame. -/
theorem foldl_words (h : ∀ e ∈ es, e.topic = .model) (f : Frame) :
    es.foldl Frame.apply f = f := by
  induction es with
  | nil => rfl
  | cons e es ih =>
    have he : f.apply e = f := by
      have htopic := h e List.mem_cons_self
      cases e with
      | valueChanged key value => rfl
      | _ => cases htopic
    rw [List.foldl_cons, he]
    exact ih fun x hx => h x (List.mem_cons_of_mem _ hx)

theorem strays_congr (hf : s.form.Beside s'.form es) (p : Props) : s'.strays p = s.strays p := by
  unfold strays
  rw [hf.hears.frame, foldl_words hf.words]

/-- What the sub-form says lies ahead of the loop, too. -/
theorem ahead_beside (hf : s.form.Beside s'.form es) (d : Drive) :
    s'.ahead d + 3 * (s.due d.props).toNat ≤
      s.ahead d + es.length + 3 * (s'.due d.props).toNat := by
  have hsub := hf.hears.since_sublist d.subscription.next
  have hlen := hsub.length_le
  have hcount := hsub.countP_le (p := (·.topic == .template))
  have hwords : es.countP (·.topic == .template) = 0 := by
    refine List.countP_eq_zero.mpr fun e he => ?_
    simp [hf.words e he]
  rw [List.length_append] at hlen
  rw [List.countP_append, hwords] at hcount
  unfold ahead
  rw [strays_congr hf]
  omega

/-- Of the props only the template counts. -/
theorem due_template (h : p'.template = p.template) : s.due p' = s.due p := by
  unfold due
  rw [h]

theorem strays_template (h : p'.template = p.template) : s.strays p' = s.strays p := by
  unfold strays
  rw [h]

/-- Props do not stray when their template is the one announced last. -/
theorem strays_eq_false :
    s.strays p = false ↔ ∀ t, s.form.bus.frame.template = some t → t = p.template := by
  unfold strays
  cases s.form.bus.frame.template <;> simp

/-- Who does not stray takes no template over from the frame. -/
theorem resync_template (h : s.strays p = false) :
    (p.resync s.form.bus.frame).template = p.template := by
  unfold Props.resync
  cases ht : s.form.bus.frame.template with
  | none => rfl
  | some t => exact strays_eq_false.mp h t ht

variable {d d' : Drive} {subscription : Subscription}

/-- **An event that is delivered lies ahead no more**, and pays for the template that it brings. -/
theorem ahead_event {e : FormEvent}
    (h : d.subscription.Polled s.form.bus (.event e, subscription)) :
    s.ahead { d with props := d.props.apply e, subscription } < s.ahead d := by
  cases h with
  | event skipped _ rest _ hsplit =>
    have hrest := Bus.since_behind hsplit
    unfold ahead
    simp only
    rw [hrest, hsplit, List.length_append, List.length_cons, List.countP_append, List.countP_cons]
    -- a template is worth what it can bring about: that props stray and a derivation is due
    by_cases he : e.topic = .template
    · have hcount : (if (e.topic == .template) = true then 1 else 0) = 1 := by simp [he]
      have hstrays := Bool.toNat_le (s.strays (d.props.apply e))
      have hdue := Bool.toNat_le (s.due (d.props.apply e))
      omega
    · have hsame : (d.props.apply e).template = d.props.template := by
        cases e with
        | templateChanged t => exact absurd rfl he
        | _ => rfl
      rw [due_template hsame, strays_template hsame]
      omega

/-- **A loss lies ahead no more**, and to stray pays for the template that the frame brings. -/
theorem ahead_lagged {missed : Nat}
    (h : d.subscription.Polled s.form.bus (.lagged missed, subscription)) :
    s.ahead { d with props := d.props.resync s.form.bus.frame, subscription } < s.ahead d := by
  cases h with
  | lagged hlt =>
    obtain ⟨xs, hxs⟩ := s.form.bus.since_drop (Nat.le_of_lt hlt)
    have hlen := s.form.bus.length_since d.subscription.next
    have hlen' := s.form.bus.length_since s.form.bus.oldest
    have hold := s.form.bus.oldest_le
    have hcount : (xs ++ s.form.bus.since s.form.bus.oldest).countP (·.topic == .template) =
        xs.countP (·.topic == .template) +
          (s.form.bus.since s.form.bus.oldest).countP (·.topic == .template) :=
      List.countP_append
    rw [← hxs] at hcount
    unfold ahead
    simp only
    -- props taken from the frame agree with it, so they do not stray
    have hagrees : s.strays (d.props.resync s.form.bus.frame) = false := by
      unfold strays Props.resync
      cases s.form.bus.frame.template <;> simp
    rw [hagrees]
    cases hstrays : s.strays d.props with
    | true =>
      have hdue := Bool.toNat_le (s.due (d.props.resync s.form.bus.frame))
      simp only [Bool.toNat_true, Bool.toNat_false]
      omega
    | false =>
      rw [due_template (resync_template hstrays)]
      omega

/-- Who gets nothing has passed over all there was. -/
theorem ahead_nothing {delivery : Delivery}
    (h : d.subscription.Polled s.form.bus (delivery, subscription))
    (hn : delivery = .pending ∨ delivery = .closed) :
    s.ahead { d with subscription } ≤ s.ahead d ∧
      (subscription ≠ d.subscription → s.ahead { d with subscription } < s.ahead d) := by
  obtain ⟨-, hend⟩ := Subscription.nothing_of_polled h hn
  have hahead : s.ahead { d with subscription } + (s.form.bus.since d.subscription.next).length ≤
      s.ahead d := by
    unfold ahead
    simp only
    rw [hend, List.length_nil, List.countP_nil]
    omega
  refine ⟨by omega, fun hne => ?_⟩
  -- a place that moves passes over at least one event
  have hsome : (s.form.bus.since d.subscription.next).length ≠ 0 := by
    intro hzero
    refine hne ?_
    cases h with
    | lagged => rcases hn with hn | hn <;> cases hn
    | event => rcases hn with hn | hn <;> cases hn
    | pending => rw [hzero]; rfl
    | closed => rw [hzero]; rfl
  omega

/-! ## What is left to do -/

/-- The steps that the loads and one loop have left, at most. -/
def effort (s : Session) (loop : Nat) : Nat :=
  s.work +
    match s.drives[loop]? with
    | some d => d.stage.work + s.ahead d
    | none => 0

variable {loop : Nat}

theorem effort_of_drive (hd : s.drives[loop]? = some d) :
    s.effort loop = s.work + (d.stage.work + s.ahead d) := by
  unfold effort
  rw [hd]

theorem setDrive_self (hd : s.drives[loop]? = some d) : s.setDrive loop d = s := by
  have hset : s.drives.set loop d = s.drives := by
    refine List.ext_getElem? fun n => ?_
    by_cases hn : loop = n
    · subst hn
      rw [drives_set_self hd, hd]
    · rw [List.getElem?_set_ne hn]
  unfold setDrive
  rw [hset]

/-- Of the books only the loop and what its bus has heard count. -/
theorem effort_withBooks {bus : Bus} {drives : List Drive} (hbus : s.form.bus.Hears [] bus)
    (hd : drives[loop]? = some d) (settlings : List Settling) (holders : Nat) :
    (s.withBooks bus settlings drives holders).effort loop ≤
      s.work + (d.stage.work + s.ahead d) := by
  have hf : s.form.Beside (s.withBooks bus settlings drives holders).form [] :=
    ⟨hbus, fun _ he => absurd he List.not_mem_nil, fun _ _ _ => rfl⟩
  have hahead := ahead_beside hf d
  have hdue : (s.withBooks bus settlings drives holders).due d.props = s.due d.props :=
    due_congr hf rfl rfl rfl d.props
  have hwork : (s.withBooks bus settlings drives holders).work = s.work := rfl
  rw [effort_of_drive (s := s.withBooks bus settlings drives holders) hd, hwork]
  rw [hdue, List.length_nil] at hahead
  omega

/-- A loop that has rendered has only to return. -/
theorem effort_renderInDrive (hd : s.drives[loop]? = some d) (d₁ : Drive) :
    (s.renderInDrive loop d₁).effort loop ≤ s.work + (1 + s.ahead d₁) := by
  obtain ⟨es, hes, hspent, hdue⟩ := spends_render s d₁.props
  -- what the render publishes adds to the events ahead
  have hahead := ahead_beside hes d₁
  rw [hdue, Bool.toNat_false] at hahead
  have hset : ∀ stage, ((s.take (s.renderTurn d₁.props)).drives.set loop
      { d₁ with stage })[loop]? = some { d₁ with stage } := by
    intro stage
    rw [(sameBooks_take s _).drives]
    exact drives_set_self hd _
  generalize hs₁ : s.take (s.renderTurn d₁.props) = s₁ at hspent hahead hset
  have hsame : ∀ stage, s₁.ahead { d₁ with stage } = s₁.ahead d₁ := fun _ => rfl
  rcases renderInDrive_cases s loop d₁ with ⟨-, h⟩ | ⟨-, h⟩
  · have hbus : s₁.form.bus.Hears [] s₁.form.bus.unsubscribe := Bus.hears_nothing
    have heffort := effort_withBooks hbus (hset .returned) s₁.settlings (s₁.holders - 1)
    rw [h, hs₁]
    rw [hsame] at heffort
    simp only [DriveStage.work] at heffort
    omega
  · have hbooks : s₁.setDrive loop { d₁ with stage := .waiting } = s₁.withBooks s₁.form.bus
        s₁.settlings (s₁.drives.set loop { d₁ with stage := .waiting }) s₁.holders := rfl
    have heffort := effort_withBooks (.refl s₁.form.bus) (hset .waiting) s₁.settlings s₁.holders
    rw [h, hs₁, hbooks]
    rw [hsame] at heffort
    simp only [DriveStage.work] at heffort
    omega

/-- When the sub-form is torn down, nothing is due. -/
theorem spends_tearDown (s : Session) : s.tearDown.work ≤ s.work ∧ s.tearDown.form = s.form ∧
    ∀ p, s.tearDown.due p = false := by
  have hdue : ∀ {s : Session} {p : Props}, s.controller.tornDown = true → s.due p = false := by
    intro s p htorn
    cases hp : p.template with
    | none => rw [due_of_none hp, htorn, Bool.true_or, Bool.not_true]
    | some t =>
      rw [due_of_some hp, unmoved, htorn, Bool.true_or, Bool.not_true]
  rcases tearDown_cases s with ⟨he, htorn⟩ | ⟨-, loads, hages, he⟩
  · rw [he]
    exact ⟨Nat.le_refl _, rfl, fun p => hdue htorn⟩
  · have hwork := hages.work
    rw [he]
    refine ⟨?_, rfl, fun p => hdue rfl⟩
    simp only [work]
    omega

/-- A holder that lets go adds no work. -/
theorem spends_release (s : Session) : (s.take s.releaseTurn).work ≤ s.work ∧
    (s.take s.releaseTurn).form = s.form ∧
      ∀ p, ((s.take s.releaseTurn).due p).toNat ≤ (s.due p).toNat := by
  rcases releaseTurn_cases s with h | h
  · obtain ⟨hwork, hform, hdue⟩ := spends_tearDown s
    rw [h]
    refine ⟨hwork, hform, fun p => ?_⟩
    rw [take, hdue]
    exact Nat.zero_le _
  · rw [h]
    exact ⟨Nat.le_refl _, rfl, fun _ => Nat.le_refl _⟩

/-- A loop that has returned has nothing to do. -/
theorem effort_endDrive (hd : s.drives[loop]? = some d) (d₁ : Drive) :
    (s.endDrive loop d₁).effort loop ≤ s.work + s.ahead d₁ := by
  obtain ⟨hwork, hform, hdue⟩ := spends_release s
  have hf : s.form.Beside (s.take s.releaseTurn).form [] := by
    rw [hform]
    exact .refl _
  have hahead := ahead_beside hf d₁
  have hless := hdue d₁.props
  have hbus : (s.take s.releaseTurn).form.bus.Hears [] s.form.bus.unsubscribe := by
    rw [hform]
    exact Bus.hears_nothing
  have heffort := effort_withBooks hbus (drives_set_self hd { d₁ with stage := .returned })
    s.settlings (s.holders - 1)
  rw [← endDrive_eq] at heffort
  -- the stage of a loop does not count for what is ahead of it
  have hsame : (s.take s.releaseTurn).ahead { d₁ with stage := .returned } =
      (s.take s.releaseTurn).ahead d₁ := rfl
  simp only [DriveStage.work] at heffort
  rw [List.length_nil] at hahead
  omega

/-- The loop has returned, or it waits for what is not there. -/
def Idle (s : Session) (d : Drive) : Prop :=
  d.stage = .returned ∨ d.stage = .waiting ∧ s.controller.tornDown = false ∧
    d.subscription.poll s.form.bus = (.pending, d.subscription)

/-- **The loop is idle, or its next step leaves less to do.** -/
theorem effort_driveStep (hd : s.drives[loop]? = some d) (h : DriveStep s loop d s') :
    s.Idle d ∧ s' = s ∨ s'.effort loop < s.effort loop := by
  have hpolled := d.subscription.poll_polled s.form.bus
  rw [effort_of_drive hd]
  -- each step takes more off the stage or off the events ahead than a render puts on
  cases h with
  | ended hst => exact .inl ⟨.inl hst, rfl⟩
  | start hst =>
    have hrender := effort_renderInDrive hd d
    have hstage : d.stage.work = 2 := by rw [hst]; rfl
    exact .inr (by omega)
  | stop subscription hst _ hsub =>
    have hend := effort_endDrive hd { d with subscription }
    have hahead : s.ahead { d with subscription } ≤ s.ahead d := by
      rcases hsub with rfl | hsub
      · exact Nat.le_refl _
      · rw [hsub] at hpolled
        exact (ahead_nothing hpolled (.inl rfl)).1
    have hstage : d.stage.work = 1 := by rw [hst]; rfl
    exact .inr (by omega)
  | event e subscription hst hp =>
    have hrender := effort_renderInDrive hd { d with props := d.props.apply e, subscription }
    rw [hp] at hpolled
    have hahead := ahead_event hpolled
    have hstage : d.stage.work = 1 := by rw [hst]; rfl
    exact .inr (by omega)
  | lagged missed subscription hst hp =>
    have hrender := effort_renderInDrive hd
      { d with props := d.props.resync s.form.bus.frame, subscription }
    rw [hp] at hpolled
    have hahead := ahead_lagged hpolled
    have hstage : d.stage.work = 1 := by rw [hst]; rfl
    exact .inr (by omega)
  | closed subscription hst hp =>
    have hend := effort_endDrive hd { d with subscription }
    rw [hp] at hpolled
    have hahead := (ahead_nothing hpolled (.inr rfl)).1
    have hstage : d.stage.work = 1 := by rw [hst]; rfl
    exact .inr (by omega)
  | pending subscription hst hp hup =>
    by_cases hsub : subscription = d.subscription
    · subst hsub
      exact .inl ⟨.inr ⟨hst, hup, hp⟩, setDrive_self hd⟩
    · rw [hp] at hpolled
      have hahead := (ahead_nothing hpolled (.inl rfl)).2 hsub
      have hset : (s.setDrive loop { d with subscription }).effort loop ≤
          s.work + (d.stage.work + s.ahead { d with subscription }) :=
        effort_withBooks (.refl s.form.bus) (drives_set_self hd _) s.settlings s.holders
      exact .inr (by omega)

/-- A loop that is idle takes no step. -/
theorem eq_of_idle (hd : s.drives[loop]? = some d) (hidle : s.Idle d)
    (h : DriveStep s loop d s') : s' = s := by
  rcases hidle with hret | ⟨hwait, hup, hnone⟩
  · cases h with
    | ended => rfl
    | start hst | stop _ hst | event _ _ hst | lagged _ _ hst | closed _ hst | pending _ hst =>
      rw [hret] at hst
      cases hst
  · -- a loop that waits, is up and has nothing to hear is left where it is
    cases h with
    | ended => rfl
    | start hst =>
      rw [hwait] at hst
      cases hst
    | stop _ _ htorn => exact absurd (htorn.symm.trans hup) (by simp)
    | event _ _ _ hp | lagged _ _ _ hp | closed _ _ hp =>
      rw [hnone] at hp
      cases hp
    | pending subscription _ hp =>
      rw [hnone] at hp
      cases hp
      exact setDrive_self hd

/-- A step of a load is its turn, and nothing is observed. -/
theorem turn_load (h : a.OfLoad) : s.step a = s.take (s.turn a) ∧ (s.turn a).observed = none := by
  cases a with
  | start load => exact ⟨rfl, rfl⟩
  | answerClients load answer | answerProducts load answer => exact ⟨rfl, rfl⟩
  | answerKernels load answer => exact ⟨rfl, rfl⟩
  | drop load => exact ⟨rfl, rfl⟩
  | _ => exact h.elim

/-- Steps of loads do not touch the loops. -/
theorem drives_load (h : a.OfLoad) : (s.step a).drives = s.drives := by
  rw [(turn_load h).1, (sameBooks_take s _).drives]

/-- **A step of a load that changes something leaves less to do**, whichever the loop. -/
theorem effort_load (h : a.OfLoad) (loop : Nat) :
    s.step a = s ∨ (s.step a).effort loop < s.effort loop := by
  rcases spends_load (s := s) h with he | ⟨es, hspent⟩
  · exact .inl he
  · refine .inr ?_
    have hdrives := drives_load (s := s) h
    have hwork := hspent.work
    cases hd : s.drives[loop]? with
    | none =>
      unfold effort
      rw [hdrives, hd]
      simp only
      omega
    | some d =>
      -- a loop has no more to do than before, except for the events that the load has brought
      have hdue := due_congr hspent.form (context_step s a) hspent.tornDown hspent.inputs d.props
      have hahead := ahead_beside hspent.form d
      rw [hdue] at hahead
      rw [effort_of_drive hd, effort_of_drive (s := s.step a) (hdrives ▸ hd)]
      omega

end Session

end LivePatching
