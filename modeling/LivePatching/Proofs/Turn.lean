import LivePatching.Proofs.Delivery
import LivePatching.Subform.Action

/-!
# What one action does

Whatever an action is called, it does one thing at most to the models, the controller and the
loads: it takes one `Turn`. Beside that it only keeps books of loops, waiting calls, holders and
receivers.

* `Session.turn`: the turn of an action, and `Session.take`, what it does.
* `step_books`, `step_eq`: **a step is its turn**, up to the books; beside its turn it puts on the
  bus what the owner of the bus publishes, and nothing else.
* `DriveStep`: what the next step of a loop can be.
-/

namespace LivePatching

open Json

/-- What an action can do to the models, the controller and the loads. -/
inductive Turn where
  /-- Nothing. -/
  | rest
  | write (model : Nat) (key : String) (value : Value)
  | activate
  | observe (i : Inputs)
  /-- Activates, then observes. -/
  | render (i : Inputs)
  | suspend
  | tearDown
  | start (load : Nat)
  | answerCatalog (list : Listing) (load : Nat) (answer : Except ProviderError (List list.Entry))
  | answerKernels (load : Nat) (answer : Except ProviderError (List Kernel))
  | drop (load : Nat)
  /-- A waiting call takes the loads that are kept track of. -/
  | untrack

/-- The inputs that a turn has the controller observe. -/
def Turn.observed : Turn → Option Inputs
  | .observe i => some i
  | .render i => some i
  | _ => none

/-- What a turn tells the controller of the template: which one is shown, or that none is. -/
def Turn.told : Turn → Option (Option Template)
  | .observe i => some (some i.template)
  | .render i => some (some i.template)
  | .suspend => some none
  | _ => none

/-- The action that brings the answer to a load of the list. -/
def Listing.resolve : (list : Listing) → Nat → Except ProviderError (List list.Entry) → Action
  | clients, load, answer => .answerClients load answer
  | products, load, answer => .answerProducts load answer

/-- The action that takes the turn, if there is only one. -/
def Turn.action? : Turn → Option Action
  | .write model key value => some (.write model key value)
  | .start load => some (.start load)
  | .answerCatalog list load answer => some (list.resolve load answer)
  | .answerKernels load answer => some (.answerKernels load answer)
  | .drop load => some (.drop load)
  | _ => none

/-- What the owner of the bus publishes. -/
def Action.published? : Action → Option FormEvent
  | .publish e => some e
  | _ => none

/-- The form after a write of its own, if the turn is one. -/
def Form.own (f : Form) : Turn → Form
  | .write model key value => f.write model key value
  | _ => f

namespace Session

/-- The props that the next step of a loop renders with, if it renders. -/
def nextProps (s : Session) (loop : Nat) (eventFirst : Bool) : Option Props :=
  match s.drives[loop]? with
  | none => none
  | some d =>
    match d.stage with
    | .returned => none
    | .starting => some d.props
    | .waiting =>
      if s.controller.tornDown && !eventFirst then none
      else
        match (d.subscription.poll s.form.bus).1 with
        | .event e => some (d.props.apply e)
        | .lagged _ => some (d.props.resync s.form.bus.frame)
        | .pending => none
        | .closed => none

/-- Whether a loop finds its bus closed. -/
def findsClosed (s : Session) (loop : Nat) : Bool :=
  match s.drives[loop]? with
  | some d =>
    match d.stage, (d.subscription.poll s.form.bus).1 with
    | .waiting, .closed => true
    | _, _ => false
  | none => false

/-- The turn of a render. -/
def renderTurn (s : Session) (p : Props) : Turn :=
  match p.template with
  | none => .suspend
  | some t => .render (.read s.form t s.context)

/-- The last holder that lets go tears the sub-form down. -/
def releaseTurn (s : Session) : Turn := if s.holders - 1 = 0 then .tearDown else .rest

/-- What an action means to the sub-form in this session. -/
def turn (s : Session) : Action → Turn
  | .write model key value => .write model key value
  | .publish _ => .rest
  | .subscribe _ => .rest
  | .closeBus => .rest
  | .activate => .activate
  | .observe t c => .observe (.read s.form t c)
  | .suspend => .suspend
  | .tearDown => .tearDown
  | .render p => s.renderTurn p
  | .drive _ _ => .rest
  | .settle => .untrack
  | .release => s.releaseTurn
  | .start load => .start load
  | .answerClients load answer => .answerCatalog .clients load answer
  | .answerProducts load answer => .answerCatalog .products load answer
  | .answerKernels load answer => .answerKernels load answer
  | .drop load => .drop load
  | .continueSettling call =>
    match s.settlings[call]? with
    | some (.waiting held) => if held.all s.isOver then .untrack else .rest
    | _ => .rest
  | .abandonSettling _ => .rest
  | .continueDrive loop eventFirst =>
    match s.nextProps loop eventFirst with
    | some p => s.renderTurn p
    | none => if s.findsClosed loop then s.releaseTurn else .rest

/-- The session after a turn of the sub-form. -/
def take (s : Session) : Turn → Session
  | .rest => s
  | .write model key value => { s with form := s.form.write model key value }
  | .activate => s.activate
  | .observe i => s.observe i
  | .render i => s.activate.observe i
  | .suspend => s.suspend
  | .tearDown => s.tearDown
  | .start load => s.start load
  | .answerCatalog list load answer => s.answerCatalog list load answer
  | .answerKernels load answer => s.answerKernels load answer
  | .drop load => s.drop load
  | .untrack => s.untrack

/-- The action of an answer for a list is the answer of the controller. -/
theorem step_resolve (s : Session) (list : Listing) (load : Nat)
    (answer : Except ProviderError (List list.Entry)) :
    s.step (list.resolve load answer) = s.answerCatalog list load answer := by
  cases list <;> rfl

/-- The session with other books. -/
def withBooks (s : Session) (bus : Bus) (settlings : List Settling) (drives : List Drive)
    (holders : Nat) : Session :=
  { s with form := { s.form with bus }, settlings, drives, holders }

section Books

variable (s : Session) (bus : Bus) (settlings : List Settling) (drives : List Drive) (holders : Nat)

@[simp] theorem withBooks_models :
    (s.withBooks bus settlings drives holders).form.models = s.form.models := rfl

@[simp] theorem withBooks_context :
    (s.withBooks bus settlings drives holders).context = s.context := rfl

@[simp] theorem withBooks_controller :
    (s.withBooks bus settlings drives holders).controller = s.controller := rfl

@[simp] theorem withBooks_loads :
    (s.withBooks bus settlings drives holders).loads = s.loads := rfl

@[simp] theorem withBooks_tally :
    (s.withBooks bus settlings drives holders).tally = s.tally := rfl

theorem foldl_abort_withBooks (loads : List Nat) :
    loads.foldl abort (s.withBooks bus settlings drives holders) =
      (loads.foldl abort s).withBooks bus settlings drives holders := by
  induction loads generalizing s with
  | nil => rfl
  | cons n rest ih => exact ih (s.abort n)

/-- A tear-down does not look at the books of calls and loops. -/
theorem tearDown_withBooks :
    (s.withBooks bus settlings drives holders).tearDown =
      s.tearDown.withBooks bus settlings drives holders := by
  by_cases h : s.controller.tornDown = true
  · simp only [tearDown, withBooks_controller, h, if_true]
  · simp only [tearDown, withBooks_controller, h, foldl_abort_withBooks]
    rfl

/-- To let go is the turn of a release, whatever books were kept before. -/
theorem release_withBooks :
    (s.withBooks bus settlings drives holders).release =
      (s.take (if holders - 1 = 0 then .tearDown else .rest)).withBooks bus settlings drives
        (holders - 1) := by
  have h : ({ s.withBooks bus settlings drives holders with holders := holders - 1 } : Session) =
      s.withBooks bus settlings drives (holders - 1) := rfl
  unfold release
  rw [show (s.withBooks bus settlings drives holders).holders = holders from rfl, h]
  by_cases hz : holders - 1 = 0
  · simp only [hz, if_true]
    exact tearDown_withBooks s bus settlings drives 0
  · simp only [hz, if_false]
    exact if_neg hz

end Books

theorem tearDown_of_tornDown {s : Session} (h : s.controller.tornDown = true) : s.tearDown = s := by
  simp [tearDown, h]

/-- A tear-down leaves the form as it is. -/
theorem form_tearDown (s : Session) : s.tearDown.form = s.form := by
  have hfold : ∀ (loads : List Nat) (s : Session), (loads.foldl abort s).form = s.form := by
    intro loads
    induction loads with
    | nil => exact fun s => rfl
    | cons n rest ih => exact fun s => ih (s.abort n)
  unfold tearDown
  split
  · rfl
  · exact hfold _ s

theorem form_releaseTurn (s : Session) : (s.take s.releaseTurn).form = s.form := by
  unfold releaseTurn
  split
  · exact form_tearDown s
  · rfl

/-- A render is its turn. -/
theorem render_eq_take (s : Session) (p : Props) : (s.render p).1 = s.take (s.renderTurn p) := by
  unfold render renderTurn
  cases p.template <;> rfl

theorem endDrive_eq (s : Session) (loop : Nat) (d : Drive) : s.endDrive loop d =
    (s.take s.releaseTurn).withBooks s.form.bus.unsubscribe s.settlings
      (s.drives.set loop { d with stage := .returned }) (s.holders - 1) :=
  release_withBooks s _ _ _ _

/-- When the sub-form is torn down nothing is left to tear down. -/
theorem take_releaseTurn {s : Session} (h : s.controller.tornDown = true) :
    s.take s.releaseTurn = s := by
  unfold releaseTurn
  split
  · exact tearDown_of_tornDown h
  · rfl

/-- A loop that renders waits, unless the sub-form is torn down. -/
theorem renderInDrive_cases (s : Session) (loop : Nat) (d : Drive) :
    (s.take (s.renderTurn d.props)).controller.tornDown = true ∧
        s.renderInDrive loop d = (s.take (s.renderTurn d.props)).withBooks
          (s.take (s.renderTurn d.props)).form.bus.unsubscribe
          (s.take (s.renderTurn d.props)).settlings
          ((s.take (s.renderTurn d.props)).drives.set loop { d with stage := .returned })
          ((s.take (s.renderTurn d.props)).holders - 1) ∨
      (s.take (s.renderTurn d.props)).controller.tornDown = false ∧
        s.renderInDrive loop d =
          (s.take (s.renderTurn d.props)).setDrive loop { d with stage := .waiting } := by
  have hr : s.renderInDrive loop d =
      if ((s.take (s.renderTurn d.props)).controller.tornDown) = true then
        (s.take (s.renderTurn d.props)).endDrive loop d
      else (s.take (s.renderTurn d.props)).setDrive loop { d with stage := .waiting } := by
    rw [← render_eq_take]; rfl
  by_cases h : (s.take (s.renderTurn d.props)).controller.tornDown = true
  · exact .inl ⟨h, by rw [hr, if_pos h, endDrive_eq, take_releaseTurn h]⟩
  · exact .inr ⟨by simpa using h, by rw [hr, if_neg h]⟩

/-- A render in a loop is its turn, apart from the books. -/
theorem renderInDrive_books (s : Session) (loop : Nat) (d : Drive) :
    ∃ bus settlings drives holders, (s.take (s.renderTurn d.props)).form.bus.Hears [] bus ∧
      s.renderInDrive loop d =
        (s.take (s.renderTurn d.props)).withBooks bus settlings drives holders := by
  rcases renderInDrive_cases s loop d with ⟨-, h⟩ | ⟨-, h⟩
  · rw [h]; exact ⟨_, _, _, _, Bus.hears_nothing, rfl⟩
  · rw [h]; exact ⟨_, _, _, _, .refl _, rfl⟩

/-- The end of a loop is a release, apart from the books. -/
theorem endDrive_books (s : Session) (loop : Nat) (d : Drive) :
    ∃ bus settlings drives holders, (s.take s.releaseTurn).form.bus.Hears [] bus ∧
      s.endDrive loop d = (s.take s.releaseTurn).withBooks bus settlings drives holders := by
  rw [form_releaseTurn, endDrive_eq]
  exact ⟨_, _, _, _, Bus.hears_nothing, rfl⟩

/-- What the next step of a loop can be, from the session and the state of the loop. -/
inductive DriveStep (s : Session) (loop : Nat) (d : Drive) : Session → Prop where
  | ended : d.stage = .returned → DriveStep s loop d s
  | start : d.stage = .starting → DriveStep s loop d (s.renderInDrive loop d)
  /-- It notices that the sub-form is torn down. -/
  | stop (subscription : Subscription) : d.stage = .waiting → s.controller.tornDown = true →
      subscription = d.subscription ∨ d.subscription.poll s.form.bus = (.pending, subscription) →
      DriveStep s loop d (s.endDrive loop { d with subscription })
  | event (e : FormEvent) (subscription : Subscription) : d.stage = .waiting →
      d.subscription.poll s.form.bus = (.event e, subscription) →
      DriveStep s loop d
        (s.renderInDrive loop { d with props := d.props.apply e, subscription })
  | lagged (missed : Nat) (subscription : Subscription) : d.stage = .waiting →
      d.subscription.poll s.form.bus = (.lagged missed, subscription) →
      DriveStep s loop d
        (s.renderInDrive loop { d with props := d.props.resync s.form.bus.frame, subscription })
  | closed (subscription : Subscription) : d.stage = .waiting →
      d.subscription.poll s.form.bus = (.closed, subscription) →
      DriveStep s loop d (s.endDrive loop { d with subscription })
  | pending (subscription : Subscription) : d.stage = .waiting →
      d.subscription.poll s.form.bus = (.pending, subscription) → s.controller.tornDown = false →
      DriveStep s loop d (s.setDrive loop { d with subscription })

/-- A step of a loop is one of these. -/
theorem continueDrive_step {s : Session} {loop : Nat} {d : Drive} (hd : s.drives[loop]? = some d)
    (eventFirst : Bool) : DriveStep s loop d (s.continueDrive loop eventFirst) := by
  unfold continueDrive
  simp only [hd]
  cases hs : d.stage with
  | returned => exact .ended hs
  | starting => exact .start hs
  | waiting =>
    simp only
    split
    · rename_i h
      rw [Bool.and_eq_true] at h
      -- the goal has the loop with its stage spelled out, here and below
      have hstop : DriveStep s loop d _ := .stop d.subscription hs h.1 (.inl rfl)
      rwa [hs] at hstop
    · rcases hp : d.subscription.poll s.form.bus with ⟨delivery, subscription⟩
      cases delivery with
      | event e =>
        have hevent : DriveStep s loop d _ := .event e subscription hs hp
        rwa [hs] at hevent
      | lagged missed =>
        have hlagged : DriveStep s loop d _ := .lagged missed subscription hs hp
        rwa [hs] at hlagged
      | closed =>
        have hclosed : DriveStep s loop d _ := .closed subscription hs hp
        rwa [hs] at hclosed
      | pending =>
        simp only
        split
        · rename_i h
          have hstop : DriveStep s loop d _ := .stop subscription hs h (.inr hp)
          rwa [hs] at hstop
        · rename_i h
          have hpending : DriveStep s loop d _ := .pending subscription hs hp (by simpa using h)
          rwa [hs] at hpending

/-- A step of a loop is its turn, apart from the books. -/
theorem continueDrive_books (s : Session) (loop : Nat) (eventFirst : Bool) :
    ∃ bus settlings drives holders,
      (s.take (s.turn (.continueDrive loop eventFirst))).form.bus.Hears [] bus ∧
        s.continueDrive loop eventFirst =
          (s.take (s.turn (.continueDrive loop eventFirst))).withBooks bus settlings drives
            holders := by
  -- a loop that does not move leaves everything as it is
  have hrest : ∃ bus settlings drives holders, (s.take .rest).form.bus.Hears [] bus ∧
      s = (s.take .rest).withBooks bus settlings drives holders := ⟨_, _, _, _, .refl _, rfl⟩
  cases hd : s.drives[loop]? with
  | none =>
    simp only [continueDrive, turn, nextProps, findsClosed, hd]
    exact hrest
  | some d =>
    cases hs : d.stage with
    | returned =>
      simp only [continueDrive, turn, nextProps, findsClosed, hd, hs]
      exact hrest
    | starting =>
      simp only [continueDrive, turn, nextProps, hd, hs]
      exact renderInDrive_books s loop d
    | waiting =>
      by_cases ht : (s.controller.tornDown && !eventFirst) = true
      · -- whether or not the bus is closed, nothing is left to tear down
        have htorn : s.controller.tornDown = true := ((Bool.and_eq_true _ _).mp ht).1
        have hend := endDrive_books s loop d
        simp only [continueDrive, turn, nextProps, hd, hs, ht, if_true]
        split
        · exact hend
        · rw [take_releaseTurn htorn] at hend
          exact hend
      · rcases hp : d.subscription.poll s.form.bus with ⟨delivery, subscription⟩
        simp only [continueDrive, turn, nextProps, findsClosed, hd, hs, ht, hp]
        cases delivery with
        | event e => exact renderInDrive_books s loop ⟨d.props.apply e, subscription, .waiting⟩
        | lagged missed =>
          exact renderInDrive_books s loop
            ⟨d.props.resync s.form.bus.frame, subscription, .waiting⟩
        | closed => exact endDrive_books s loop ⟨d.props, subscription, .waiting⟩
        | pending =>
          simp only [Bool.false_eq_true, if_false]
          split
          · rename_i htorn
            have hend := endDrive_books s loop ⟨d.props, subscription, .waiting⟩
            rw [take_releaseTurn htorn] at hend
            exact hend
          · exact ⟨_, _, _, _, .refl _, rfl⟩

/-- **A step is its turn**, up to the books. Beside its turn it only publishes what the owner of the
bus says. -/
theorem step_books (s : Session) (a : Action) :
    ∃ bus settlings drives holders,
      (s.take (s.turn a)).form.bus.Hears a.published?.toList bus ∧
        s.step a = (s.take (s.turn a)).withBooks bus settlings drives holders := by
  -- most actions are their turn and nothing else
  have hkept : ∀ (s' : Session), ∃ bus settlings drives holders,
      s'.form.bus.Hears [] bus ∧ s' = s'.withBooks bus settlings drives holders :=
    fun s' => ⟨_, _, _, _, .refl _, rfl⟩
  cases a with
  | publish e => exact ⟨_, _, _, _, Bus.hears_publish _ e, rfl⟩
  | subscribe filter => exact ⟨_, _, _, _, Bus.hears_nothing, rfl⟩
  | closeBus => exact ⟨_, _, _, _, Bus.hears_nothing, rfl⟩
  | drive p filter => exact ⟨_, _, _, _, Bus.hears_nothing, rfl⟩
  | render p =>
    rw [step, render_eq_take]
    exact hkept _
  | settle => exact ⟨_, _, _, _, .refl _, rfl⟩
  | release =>
    have h := release_withBooks s s.form.bus s.settlings s.drives s.holders
    rw [turn, form_releaseTurn]
    exact ⟨_, _, _, _, .refl _, h⟩
  | continueSettling call =>
    simp only [step, turn, continueSettling]
    rcases s.settlings[call]? with _ | (held | _ | _)
    · exact hkept s
    · by_cases h : held.all s.isOver = true
      · simp only [h, if_true]
        exact ⟨_, _, _, _, .refl _, rfl⟩
      · simp only [h]
        exact hkept s
    · exact hkept s
    · exact hkept s
  | abandonSettling call =>
    simp only [step, turn, abandonSettling]
    split
    · exact ⟨_, _, _, _, .refl _, rfl⟩
    · exact hkept s
  | continueDrive loop eventFirst => exact continueDrive_books s loop eventFirst
  | _ => exact hkept _

/-- Every action is its turn, apart from the books. -/
theorem step_eq (s : Session) (a : Action) :
    ∃ bus settlings drives holders, s.step a =
      (s.take (s.turn a)).withBooks bus settlings drives holders := by
  obtain ⟨bus, settlings, drives, holders, -, h⟩ := step_books s a
  exact ⟨bus, settlings, drives, holders, h⟩

theorem renderTurn_cases (s : Session) (p : Props) :
    s.renderTurn p = .suspend ∨ ∃ t, s.renderTurn p = .render (.read s.form t s.context) := by
  unfold renderTurn
  cases p.template with
  | none => exact .inl rfl
  | some t => exact .inr ⟨t, rfl⟩

theorem releaseTurn_cases (s : Session) : s.releaseTurn = .tearDown ∨ s.releaseTurn = .rest := by
  unfold releaseTurn
  split
  · exact .inl rfl
  · exact .inr rfl

theorem continueSettling_turn (s : Session) (call : Nat) :
    s.turn (.continueSettling call) = .untrack ∨ s.turn (.continueSettling call) = .rest := by
  simp only [turn]
  split
  · split
    · exact .inl rfl
    · exact .inr rfl
  · exact .inr rfl

/-- A step of a loop renders, or it lets go, or it rests. -/
theorem continueDrive_turn (s : Session) (loop : Nat) (eventFirst : Bool) :
    (∃ p, s.nextProps loop eventFirst = some p ∧
        s.turn (.continueDrive loop eventFirst) = s.renderTurn p) ∨
      s.turn (.continueDrive loop eventFirst) = .tearDown ∨
      s.turn (.continueDrive loop eventFirst) = .rest := by
  simp only [turn]
  cases s.nextProps loop eventFirst with
  | some p => exact .inl ⟨p, rfl, rfl⟩
  | none =>
    simp only
    split
    · exact .inr (releaseTurn_cases s)
    · exact .inr (.inr rfl)

/-- A turn that only one action takes is the turn of that action. -/
theorem turn_action {s : Session} {a b : Action} (h : (s.turn a).action? = some b) : a = b := by
  cases a with
  | render p =>
    rw [turn] at h
    rcases renderTurn_cases s p with ht | ⟨t, ht⟩ <;> rw [ht] at h <;> cases h
  | release =>
    rw [turn] at h
    rcases releaseTurn_cases s with ht | ht <;> rw [ht] at h <;> cases h
  | continueSettling call =>
    rcases continueSettling_turn s call with ht | ht <;> rw [ht] at h <;> cases h
  | continueDrive loop eventFirst =>
    rcases continueDrive_turn s loop eventFirst with ⟨p, -, ht⟩ | ht | ht <;> rw [ht] at h
    · rcases renderTurn_cases s p with ht | ⟨t, ht⟩ <;> rw [ht] at h <;> cases h
    · cases h
    · cases h
  | _ => cases h <;> rfl

/-- An observation reads the form; the context is that of the sub-form unless it is handed over. -/
theorem turn_observed {s : Session} {a : Action} {i : Inputs}
    (h : (s.turn a).observed = some i) :
    ∃ t c, i = .read s.form t c ∧ (c = s.context ∨ a = .observe t c) := by
  have hrender : ∀ p, (s.renderTurn p).observed = some i → ∃ t, i = .read s.form t s.context := by
    intro p hp
    rcases renderTurn_cases s p with ht | ⟨t, ht⟩ <;> rw [ht] at hp <;> cases hp
    exact ⟨t, rfl⟩
  cases a with
  | observe t c => cases h; exact ⟨t, c, rfl, .inr rfl⟩
  | render p =>
    obtain ⟨t, ht⟩ := hrender p h
    exact ⟨t, _, ht, .inl rfl⟩
  | release =>
    rw [turn] at h
    rcases releaseTurn_cases s with ht | ht <;> rw [ht] at h <;> cases h
  | continueSettling call =>
    rcases continueSettling_turn s call with ht | ht <;> rw [ht] at h <;> cases h
  | continueDrive loop eventFirst =>
    rcases continueDrive_turn s loop eventFirst with ⟨p, -, ht⟩ | ht | ht <;> rw [ht] at h
    · obtain ⟨t, ht⟩ := hrender p h
      exact ⟨t, _, ht, .inl rfl⟩
    · cases h
    · cases h
  | _ => cases h

variable (s : Session) (a : Action)

theorem step_context : (s.step a).context = (s.take (s.turn a)).context := by
  obtain ⟨_, _, _, _, h⟩ := step_eq s a
  rw [h, withBooks_context]

theorem step_controller : (s.step a).controller = (s.take (s.turn a)).controller := by
  obtain ⟨_, _, _, _, h⟩ := step_eq s a
  rw [h, withBooks_controller]

end Session

end LivePatching
