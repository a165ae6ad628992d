import LivePatching.Subform.Controller

/-!
# Rendering and driving

* `Session.render`: brings the controller in step with the form and gives the fields to show;
  without a template it suspends the controller and shows nothing.
* `Session.continueDrive`: one step of a loop that renders at every event of a subscription. When
  events were lost, the props are brought up to date from the frame of the bus. The loop ends with
  the sub-form or with the bus.
-/

namespace LivePatching.Session

/-- The identifiers the form holds now. -/
def chosen (s : Session) : Chosen := .read (s.form.model s.context.reads)

/-- Brings the controller in step with the form, and shows what is loaded. -/
def render (s : Session) (p : Props) : Session × Option View :=
  match p.template with
  | none => (s.suspend, none)
  | some t =>
    let s := s.activate.observe (.read s.form t s.context)
    (s, some (.render t p.editing s.chosen s.controller.snapshot))

/-! ## Holders -/

/-- One more holder of the sub-form. -/
def hold (s : Session) : Session := { s with holders := s.holders + 1 }

/-- A holder lets go; the last one tears the sub-form down. -/
def release (s : Session) : Session :=
  let s := { s with holders := s.holders - 1 }
  if s.holders = 0 then s.tearDown else s

/-! ## Driving -/

/-- A loop starts with a new subscription and holds the sub-form while it runs. -/
def drive (s : Session) (p : Props) (filter : Filter) : Session :=
  let (bus, subscription) := s.form.bus.subscribe filter
  let s := { s.hold with form := { s.form with bus } }
  { s with drives := s.drives ++ [⟨p, subscription, .starting⟩] }

/-- Replaces a loop. -/
def setDrive (s : Session) (loop : Nat) (d : Drive) : Session :=
  { s with drives := s.drives.set loop d }

/-- The loop returns: its subscription ends and it lets go of the sub-form. -/
def endDrive (s : Session) (loop : Nat) (d : Drive) : Session :=
  let s := s.setDrive loop { d with stage := .returned }
  release { s with form := { s.form with bus := s.form.bus.unsubscribe } }

/-- Renders, and returns if the sub-form is torn down. -/
def renderInDrive (s : Session) (loop : Nat) (d : Drive) : Session :=
  let s := (s.render d.props).1
  if s.controller.tornDown then s.endDrive loop d else s.setDrive loop { d with stage := .waiting }

/-- One step of a loop. When the sub-form is torn down while an event is there, either may be
noticed first; `eventFirst` says which. -/
def continueDrive (s : Session) (loop : Nat) (eventFirst : Bool) : Session :=
  match s.drives[loop]? with
  | none => s
  | some d =>
    match d.stage with
    | .returned => s
    | .starting => s.renderInDrive loop d
    | .waiting =>
      if s.controller.tornDown && !eventFirst then s.endDrive loop d
      else
        let (delivery, subscription) := d.subscription.poll s.form.bus
        let d := { d with subscription }
        match delivery with
        | .event e => s.renderInDrive loop { d with props := d.props.apply e }
        | .lagged _ => s.renderInDrive loop { d with props := d.props.resync s.form.bus.frame }
        | .closed => s.endDrive loop d
        | .pending => if s.controller.tornDown then s.endDrive loop d else s.setDrive loop d

/-- Whether a loop has something to do but wait. -/
def canContinue (s : Session) (loop : Nat) : Bool :=
  match s.drives[loop]? with
  | none => false
  | some d =>
    match d.stage with
    | .starting => true
    | .returned => false
    | .waiting =>
      s.controller.tornDown ||
        match (d.subscription.poll s.form.bus).1 with
        | .pending => false
        | _ => true

end LivePatching.Session
