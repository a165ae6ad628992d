import LivePatching.Proofs.Loop
import LivePatching.Proofs.Replay

/-!
# Lag does not show in the props

A loop that loses events takes over the frame of the bus and then goes on with older events, so its
props may go back before they come right.

* `Tracks`: what a loop has still to hear leads its props to where all events lead the props it
  began with.
* `tracks_run`: **a loop keeps track, whatever it loses.**
* `drive_props`: a loop that ends with its bus has followed all events.
-/

namespace LivePatching.Session

/-- What the loop has still to hear leads its props to where all events since it began lead those
it began with. Here `d₀` is the loop as it began, and `f` the frame of the bus at that time. -/
structure Tracks (d₀ : Drive) (f : Frame) (b : Bus) (d : Drive) : Prop where
  filter : d.subscription.filter = d₀.subscription.filter
  start : d₀.subscription.next ≤ d.subscription.next
  place : d.subscription.next ≤ b.published
  frame : b.frame = (b.since d₀.subscription.next).foldl Frame.apply f
  props : (b.since d.subscription.next).foldl Props.apply d.props =
    (b.since d₀.subscription.next).foldl Props.apply d₀.props

variable {d₀ d d' : Drive} {f : Frame} {b b' : Bus} {es : List FormEvent} {s : Session}
  {loop : Nat} {p : Props} {filter : Filter}

/-- Events that the filter holds back do not change props. -/
theorem foldl_rejected (ht : ∀ t, filter.accepts (.templateChanged t) = true)
    (he : ∀ e, filter.accepts (.editingChanged e) = true)
    (hes : ∀ e ∈ es, filter.accepts e = false) (p : Props) : es.foldl Props.apply p = p := by
  induction es with
  | nil => rfl
  | cons e es ih =>
    have hp : p.apply e = p := by
      have hno := hes e List.mem_cons_self
      cases e with
      | valueChanged key value => rfl
      | templateChanged t => rw [ht t] at hno; cases hno
      | editingChanged e => rw [he e] at hno; cases hno
    rw [List.foldl_cons, hp]
    exact ih fun e h => hes e (List.mem_cons_of_mem _ h)

/-- A loop keeps track while the bus hears more. -/
theorem Tracks.hears (h : Tracks d₀ f b d) (hb : b.Hears es b') : Tracks d₀ f b' d where
  filter := h.filter
  start := h.start
  place := Nat.le_trans h.place hb.published_le
  frame := by
    rw [hb.frame, h.frame, hb.since (Nat.le_trans h.start h.place), List.foldl_append]
  props := by
    rw [hb.since h.place, hb.since (Nat.le_trans h.start h.place), List.foldl_append,
      List.foldl_append, h.props]

/-- Props that took over the frame are where all events lead. -/
theorem Tracks.resync (h : Tracks d₀ f b d) (hf : d₀.props.resync f = d₀.props) :
    d.props.resync b.frame = (b.since d₀.subscription.next).foldl Props.apply d₀.props := by
  obtain ⟨xs, hxs⟩ := Bus.since_drop (b := b) h.start
  -- the frame is that of what is still to be heard, over that of what was heard
  have hframe : b.frame =
      (Frame.ofEvents (b.since d.subscription.next)).onto ((Frame.ofEvents xs).onto f) := by
    rw [h.frame, Frame.foldl_apply, hxs, Frame.ofEvents_append, Frame.onto_assoc]
  have hall : (b.since d₀.subscription.next).foldl Props.apply d₀.props =
      d₀.props.resync b.frame := by
    rw [Props.foldl_apply, h.frame, Frame.foldl_apply, Props.resync_onto, hf]
  have hprops := h.props
  rw [Props.foldl_apply, hall, hframe] at hprops
  rw [hall, hframe]
  exact Props.resync_agree hprops

/-- Props that are where all events lead stay there when some of these events come again. -/
theorem foldl_again {m n : Nat} (hn : m ≤ n) (p : Props) :
    (b.since n).foldl Props.apply ((b.since m).foldl Props.apply p) =
      (b.since m).foldl Props.apply p := by
  obtain ⟨xs, hxs⟩ := Bus.since_drop (b := b) hn
  rw [Props.foldl_apply p (b.since m), hxs, Frame.ofEvents_append, Props.foldl_apply]
  exact Props.resync_onto_self ..

/-- A step of the loop keeps track. -/
theorem Tracks.moves (h : Tracks d₀ f b d) (hf : d₀.props.resync f = d₀.props)
    (ht : ∀ t, d₀.subscription.filter.accepts (.templateChanged t) = true)
    (he : ∀ e, d₀.subscription.filter.accepts (.editingChanged e) = true)
    (hm : Moves b d d') : Tracks d₀ f b d' := by
  have hrejected : ∀ {es : List FormEvent}, (∀ e ∈ es, d.subscription.filter.accepts e = false) →
      ∀ p : Props, es.foldl Props.apply p = p := by
    intro es hes
    rw [h.filter] at hes
    exact foldl_rejected ht he hes
  have hpoll := d.subscription.poll_polled b
  obtain ⟨hfilter, hle, hplace⟩ := hm.place h.place
  refine ⟨hfilter.trans h.filter, Nat.le_trans h.start hle, hplace, h.frame, ?_⟩
  cases hm with
  | stay hp hs => rw [hp, hs, h.props]
  | event e hp hs =>
    rw [hs] at hpoll
    generalize d'.subscription = sub at hpoll ⊢
    cases hpoll with
    | event skipped _ rest _ hsplit hskipped =>
      -- what was passed over was held back by the filter, and does not change props
      have hrest := Bus.since_behind hsplit
      rw [List.append_cons] at hsplit
      rw [← h.props, hsplit, List.foldl_append, List.foldl_append, hrejected hskipped, hp, hrest]
      rfl
  | lagged missed hp _ =>
    -- the frame has all events in it, also those that are still to be heard
    rw [hp, h.resync hf, foldl_again (Nat.le_trans h.start hle)]
  | nothing delivery hp hs hn =>
    rw [hs] at hpoll
    obtain ⟨hno, hnext⟩ := Subscription.nothing_of_polled hpoll hn
    rw [hnext, ← h.props, hrejected hno, hp]
    rfl

/-- A step of the loop keeps track. -/
theorem Tracks.step (h : Tracks d₀ f s.form.bus d) (hd : s.drives[loop]? = some d)
    (hf : d₀.props.resync f = d₀.props)
    (ht : ∀ t, d₀.subscription.filter.accepts (.templateChanged t) = true)
    (he : ∀ e, d₀.subscription.filter.accepts (.editingChanged e) = true) (a : Action) :
    ∃ d', (s.step a).drives[loop]? = some d' ∧ Tracks d₀ f (s.step a).form.bus d' := by
  obtain ⟨es, hes⟩ := hears_step s a
  by_cases ha : ∃ eventFirst, a = .continueDrive loop eventFirst
  · obtain ⟨eventFirst, rfl⟩ := ha
    obtain ⟨d', hd', hm⟩ := continueDrive_moves hd eventFirst
    exact ⟨d', hd', (h.moves hf ht he hm).hears hes⟩
  · refine ⟨d, ?_, h.hears hes⟩
    rw [drives_step_of_ne (List.getElem?_eq_some_iff.mp hd).1 fun ef hef => ha ⟨ef, hef⟩, hd]

/-- **A loop keeps track, whatever it loses.** -/
theorem tracks_run (h : Tracks d₀ f s.form.bus d) (hd : s.drives[loop]? = some d)
    (hf : d₀.props.resync f = d₀.props)
    (ht : ∀ t, d₀.subscription.filter.accepts (.templateChanged t) = true)
    (he : ∀ e, d₀.subscription.filter.accepts (.editingChanged e) = true) (as : List Action) :
    ∃ d', (s.run as).drives[loop]? = some d' ∧ Tracks d₀ f (s.run as).form.bus d' := by
  induction as generalizing s d with
  | nil => exact ⟨d, hd, h⟩
  | cons a as ih =>
    obtain ⟨d', hd', h'⟩ := h.step hd hf ht he a
    exact ih h' hd'

/-- A loop begins with all that is to come before it. -/
theorem tracks_drive (s : Session) (p : Props) (filter : Filter) :
    Tracks ⟨p, ⟨filter, s.form.bus.published⟩, .starting⟩ s.form.bus.frame
      (s.step (.drive p filter)).form.bus ⟨p, ⟨filter, s.form.bus.published⟩, .starting⟩ where
  filter := rfl
  start := Nat.le_refl _
  place := Nat.le_refl _
  frame := by
    have hnone : (s.step (.drive p filter)).form.bus.since s.form.bus.published = [] :=
      Bus.since_of_published_le (Nat.le_refl _)
    exact (congrArg (List.foldl Frame.apply s.form.bus.frame) hnone).symm
  props := rfl

/-- **A loop that ends with its bus has followed all events**: however often it lost some, its
props are those it began with after all events since, and show what was announced last. -/
theorem drive_props (s : Session) (p : Props) (filter : Filter) (as : List Action)
    (eventFirst : Bool) (ht : ∀ t, filter.accepts (.templateChanged t) = true)
    (he : ∀ e, filter.accepts (.editingChanged e) = true)
    (hft : s.form.bus.frame.template = none ∨ s.form.bus.frame.template = some p.template)
    (hfe : s.form.bus.frame.editing = none ∨ s.form.bus.frame.editing = some p.editing) :
    let loop := s.drives.length
    let s' := s.run (.drive p filter :: as)
    let es := s'.form.bus.since s.form.bus.published
    ∀ d d', s'.drives[loop]? = some d → d.stage ≠ .returned → s'.controller.tornDown = false →
    (s'.step (.continueDrive loop eventFirst)).drives[loop]? = some d' → d'.stage = .returned →
    d'.props = es.foldl Props.apply p ∧
      d'.props.template = (es.filterMap FormEvent.template?).getLast?.getD p.template ∧
      d'.props.editing = (es.filterMap FormEvent.editing?).getLast?.getD p.editing := by
  intro loop s' es d d' hd hrun hup hd' hret
  have hf : p.resync s.form.bus.frame = p := by
    unfold Props.resync
    rcases hft with hft | hft <;> rcases hfe with hfe | hfe <;> rw [hft, hfe] <;> rfl
  obtain ⟨d₁, hd₁, htracks⟩ : ∃ d₁, s'.drives[loop]? = some d₁ ∧
      Tracks ⟨p, ⟨filter, s.form.bus.published⟩, .starting⟩ s.form.bus.frame s'.form.bus d₁ :=
    tracks_run (tracks_drive s p filter) (getElem?_drive s p filter) hf ht he as
  obtain rfl := Option.some.inj (hd₁.symm.trans hd)
  obtain ⟨hprops, hpoll⟩ := closed_of_returned hd hrun hup hd' hret
  have hall : d'.props = es.foldl Props.apply p := by
    -- the loop had nothing more to hear when it found the bus closed
    have hnone := (Subscription.nothing_of_polled hpoll (.inr rfl)).1
    rw [htracks.filter] at hnone
    rw [hprops, ← foldl_rejected ht he hnone d₁.props]
    exact htracks.props
  refine ⟨hall, ?_, ?_⟩
  · rw [hall, Props.foldl_apply, Frame.ofEvents_eq]; rfl
  · rw [hall, Props.foldl_apply, Frame.ofEvents_eq]; rfl

/-- A form without models, on a bus that keeps two events. -/
def smallBus : Session := mount ⟨[], ⟨2, #[], .empty, 0, 1⟩⟩ (.shared 0) .cancel

/-- Three events come before the loop looks. It takes over the frame, goes back to no template with
the first event that was kept, and comes right with the second. -/
def backlog : List Action :=
  [.continueDrive 0 true, .publish (.editingChanged true), .publish (.templateChanged none),
    .publish (.templateChanged (some .product)), .closeBus, .continueDrive 0 true,
    .continueDrive 0 true, .continueDrive 0 true]

theorem drive_props_backlog : ∃ d, ((smallBus.run (.drive ⟨some .system, false⟩ .acceptAll ::
      backlog)).step (.continueDrive 0 true)).drives[0]? = some d ∧ d.stage = .returned ∧
    d.props = ⟨some .product, true⟩ := by
  obtain ⟨d, hd, hstage⟩ : ∃ d, (smallBus.run (.drive ⟨some .system, false⟩ .acceptAll ::
      backlog)).drives[0]? = some d ∧ d.stage = .waiting :=
    Option.map_eq_some_iff.mp (by decide +kernel)
  obtain ⟨d', hd', hstage'⟩ : ∃ d', ((smallBus.run (.drive ⟨some .system, false⟩ .acceptAll ::
      backlog)).step (.continueDrive 0 true)).drives[0]? = some d' ∧ d'.stage = .returned :=
    Option.map_eq_some_iff.mp (by decide +kernel)
  have h := drive_props smallBus ⟨some .system, false⟩ .acceptAll backlog true (fun _ => rfl)
    (fun _ => rfl) (.inl rfl) (.inl rfl) d d' hd (by rw [hstage]; decide) (by decide +kernel) hd'
    hstage'
  exact ⟨d', hd', hstage', h.1.trans (by decide +kernel)⟩

end LivePatching.Session
