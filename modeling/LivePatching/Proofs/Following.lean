import LivePatching.Proofs.Coherence
import LivePatching.Proofs.History
import LivePatching.Proofs.Loop
import LivePatching.Proofs.Reading

/-!
# A loop misses no change

* `Tells`: an event that tells of the identifiers a scope may come from.
* `hears_changed`: a model that announces changes them only with such an event.
* `Follows`: the controller has read what there is, or the loop has still to hear of it.
* `follows_run`: **a loop that renders alone follows the form**, however often it lags.
* `drive_follows`: once it has nothing to hear, the inputs are those of its template and the form.
-/

namespace LivePatching

open Json

/-- The event tells that the client or the product was written. -/
def Tells (e : FormEvent) : Prop :=
  ∃ value, e = .valueChanged Field.clientId.key value ∨ e = .valueChanged Field.productId.key value

namespace Session

/-- What may be done beside a loop: all but to observe, render or suspend, also by other loops. -/
def Beside (loop : Nat) : Action → Prop
  | .observe _ _ => False
  | .render _ => False
  | .suspend => False
  | .continueDrive loop' _ => loop' = loop
  | _ => True

variable {s : Session} {a : Action} {m loop : Nat} {d d' : Drive} {t : Template}
  {filter : Filter} {p : Props}

/-- A model that announces changes its identifiers only with an event that tells of it. -/
theorem hears_changed (hm : s.form.Announces m) (a : Action) :
    ∃ es, s.form.bus.Hears es (s.step a).form.bus ∧
      (((s.step a).form.model m).id .clientId = (s.form.model m).id .clientId ∧
          ((s.step a).form.model m).id .productId = (s.form.model m).id .productId ∨
        ∃ e ∈ es, Tells e) := by
  -- only the form writes to the identifiers, and the sub-form at most to the kernel
  by_cases ha : ∃ g value, g ≠ Field.kernelId ∧ a = .write m g.key value
  · obtain ⟨g, value, hg, rfl⟩ := ha
    obtain ⟨sm, hsm, hann⟩ := hm
    refine ⟨_, s.form.hears_announced hsm hann g.key value,
      .inr ⟨_, List.mem_singleton.mpr rfl, ?_⟩⟩
    cases g with
    | clientId => exact ⟨value, .inl rfl⟩
    | productId => exact ⟨value, .inr rfl⟩
    | kernelId => exact absurd rfl hg
  · obtain ⟨es, hes⟩ := hears_step s a
    have hsame : ∀ {g : Field}, g ≠ .kernelId →
        ((s.step a).form.model m).id g = (s.form.model m).id g := by
      intro g hg
      exact id_step_unwritten hg fun value hwrite => ha ⟨g, value, hg, hwrite⟩
    exact ⟨es, hes, .inl ⟨hsame (by decide), hsame (by decide)⟩⟩

/-- Beside a loop nobody tells the controller of a template. -/
theorem told_beside (ha : Beside loop a) (hne : ∀ eventFirst, a ≠ .continueDrive loop eventFirst) :
    (s.turn a).told = none := by
  cases a with
  | observe => exact ha.elim
  | render => exact ha.elim
  | suspend => exact ha.elim
  | continueDrive loop' eventFirst =>
    exact absurd (by rw [show loop' = loop from ha]) (hne eventFirst)
  | release => rcases releaseTurn_cases s with h | h <;> rw [turn, h] <;> rfl
  | continueSettling call => rcases continueSettling_turn s call with h | h <;> rw [h] <;> rfl
  | _ => rfl

/-- The controller has read what there is, or the loop has still to hear of it. -/
structure Follows (m : Nat) (s : Session) (d : Drive) : Prop where
  filter : ∀ e, Tells e → d.subscription.filter.accepts e = true
  place : d.subscription.next ≤ s.form.bus.published
  shown : s.controller.tornDown = false → d.stage = .waiting → ∀ t, d.props.template = some t →
    s.Reads t m ∨ ∃ e ∈ s.form.bus.since d.subscription.next, Tells e
  hidden : s.controller.tornDown = false → d.stage = .waiting → d.props.template = none →
    s.controller.inputs = none

/-- What happens beside the loop either leaves alone what it shows, or tells it. -/
theorem Follows.beside (h : Follows m s d) (hm : s.form.Announces m)
    (ht : (s.turn a).told = none) : Follows m (s.step a) d := by
  obtain ⟨es, hes, hids⟩ := hears_changed hm a
  have hsince := hes.since h.place
  refine ⟨h.filter, Nat.le_trans h.place hes.published_le, fun hup hwait t htemplate => ?_,
    fun hup hwait htemplate => ?_⟩
  · rw [hsince]
    rcases h.shown (up_of_step hup) hwait t htemplate with hr | ⟨e, he, htells⟩
    · rcases hids with ⟨hc, hp⟩ | ⟨e, he, htells⟩
      · exact .inl (hr.kept (inputs_untold ht) hc hp)
      · exact .inr ⟨e, List.mem_append_right _ he, htells⟩
    · exact .inr ⟨e, List.mem_append_left _ he, htells⟩
  · rw [inputs_untold ht]
    exact h.hidden (up_of_step hup) hwait htemplate

/-- A step of the loop renders, or there was nothing to hear. -/
theorem Follows.continued (h : Follows m s d) (hd : s.drives[loop]? = some d)
    (hc : s.context = .shared m) (eventFirst : Bool) :
    ∃ d', (s.step (.continueDrive loop eventFirst)).drives[loop]? = some d' ∧
      Follows m (s.step (.continueDrive loop eventFirst)) d' := by
  obtain ⟨d', hd', hmoves⟩ := continueDrive_moves hd eventFirst
  obtain ⟨es, hes⟩ := hears_step s (.continueDrive loop eventFirst)
  obtain ⟨hfilter, hle, hplace⟩ := hmoves.place h.place
  -- filter and place go on with the loop; what it shows depends on whether it has rendered
  refine ⟨d', hd', fun e he => by rw [hfilter]; exact h.filter e he,
    Nat.le_trans hplace hes.published_le, fun hup hwait t htemplate => ?_,
    fun hup hwait htemplate => ?_⟩
  · rcases continueDrive_waiting hd (up_of_step hup) hd' hwait with hturn | ⟨hst, hp, hs, hpoll⟩
    · have hobserved : (s.turn (.continueDrive loop eventFirst)).observed =
          some (.read s.form t s.context) := by
        rw [hturn, renderTurn, htemplate]; rfl
      have hread := reads_observed hobserved hup
      rw [hc] at hread
      exact .inl hread
    · -- what it has passed over told nothing, so it had read what there is before
      have hnone := (Subscription.nothing_of_polled hpoll (.inl rfl)).1
      rw [hs]
      rcases h.shown (up_of_step hup) hst t (hp ▸ htemplate) with hr | ⟨e, he, htells⟩
      · exact .inl hr
      · have := hnone e he
        rw [h.filter e htells] at this
        cases this
  · rcases continueDrive_waiting hd (up_of_step hup) hd' hwait with hturn | ⟨hst, hp, hs, -⟩
    · exact inputs_suspended (by rw [hturn, renderTurn, htemplate]) hup
    · rw [hs]
      exact h.hidden (up_of_step hup) hst (hp ▸ htemplate)

/-- **A loop that renders alone follows the form.** -/
theorem follows_run (h : Follows m s d) (hd : s.drives[loop]? = some d)
    (hm : s.form.Announces m) (hc : s.context = .shared m) {as : List Action}
    (has : ∀ a ∈ as, Beside loop a) :
    ∃ d', (s.run as).drives[loop]? = some d' ∧ Follows m (s.run as) d' := by
  induction as generalizing s d with
  | nil => exact ⟨d, hd, h⟩
  | cons a as ih =>
    have hstep : ∃ d', (s.step a).drives[loop]? = some d' ∧ Follows m (s.step a) d' := by
      -- a step of the loop renders what there is; any other is told to the loop if it matters
      by_cases ha : ∃ eventFirst, a = .continueDrive loop eventFirst
      · obtain ⟨eventFirst, rfl⟩ := ha
        exact h.continued hd hc eventFirst
      · have hne : ∀ eventFirst, a ≠ .continueDrive loop eventFirst := fun ef he => ha ⟨ef, he⟩
        refine ⟨d, ?_, h.beside hm (told_beside (has a List.mem_cons_self) hne)⟩
        rw [drives_step_of_ne (List.getElem?_eq_some_iff.mp hd).1 hne, hd]
    obtain ⟨d', hd', h'⟩ := hstep
    exact ih h' hd' (announces_step hm a) (by rw [context_step, hc])
      fun a ha => has a (List.mem_cons_of_mem _ ha)

/-- A loop that has only been begun has nothing to keep up with. -/
theorem follows_drive (hfilter : ∀ e, Tells e → filter.accepts e = true) :
    Follows m (s.step (.drive p filter)) ⟨p, ⟨filter, s.form.bus.published⟩, .starting⟩ where
  filter := hfilter
  place := Nat.le_refl _
  shown _ hwait := by cases hwait
  hidden _ hwait := by cases hwait

/-- **A loop that has nothing to hear has missed nothing**: with a template, the inputs are the
template and the identifiers in the form, and the key has their scope; without one, the controller
is suspended. -/
theorem drive_follows (form : Form) (m : Nat) (policy : StalePolicy) (before after : List Action)
    (p : Props) (filter : Filter) (hm : form.Announces m)
    (hfilter : ∀ e, Tells e → filter.accepts e = true) :
    let s₀ := (mount form (.shared m) policy).run before
    let s := s₀.run (.drive p filter :: after)
    (∀ a ∈ after, Beside s₀.drives.length a) →
    ∀ d, s.drives[s₀.drives.length]? = some d → d.stage = .waiting →
    s.controller.tornDown = false →
    (∀ e ∈ s.form.bus.since d.subscription.next, d.subscription.filter.accepts e = false) →
    match d.props.template with
    | some t => ∃ i key, s.controller.inputs = some i ∧ i.template = t ∧
        i.clientId = (s.form.model m).id .clientId ∧
        i.productId = (s.form.model m).id .productId ∧ s.controller.current = some key ∧
        key.scope = activeScope t ((s.form.model m).id .clientId) ((s.form.model m).id .productId)
    | none => s.controller.current = none ∧ s.controller.snapshot.status = .idle ∧
        s.controller.snapshot.kernels = [] := by
  intro s₀ s hafter d hd hwait hup hheard
  have hm₀ : s₀.form.Announces m := announces_run hm before
  have hc₀ : s₀.context = .shared m := context_run _ before
  have hcoh : Coherent s :=
    coherent_run (coherent_run (coherent_mount form (.shared m) policy) before) _
  -- from the step that begins the loop on, its props follow the form or are told of the change
  obtain ⟨d', hd', hfollows⟩ : ∃ d', s.drives[s₀.drives.length]? = some d' ∧ Follows m s d' :=
    follows_run (follows_drive hfilter) (getElem?_drive s₀ p filter) (announces_step hm₀ _)
      ((context_step _ _).trans hc₀) hafter
  obtain rfl := Option.some.inj (hd'.symm.trans hd)
  have hcurrent := hcoh.current hup
  cases htemplate : d'.props.template with
  | some t =>
    rcases hfollows.shown hup hwait t htemplate with ⟨i, hi, rfl, hc, hp⟩ | ⟨e, he, htells⟩
    · rw [hi] at hcurrent
      exact ⟨i, _, hi, rfl, hc, hp, hcurrent, by rw [← hc, ← hp]; rfl⟩
    · -- an event that tells of a change is not ahead of a loop that has heard everything
      have := hheard e he
      rw [hfollows.filter e htells] at this
      cases this
  | none =>
    have hi := hfollows.hidden hup hwait htemplate
    have hstatus := hcoh.status
    rw [hi] at hcurrent hstatus
    have hidle : s.controller.snapshot.status = .idle := by
      cases hst : s.controller.snapshot.status with
      | idle => rfl
      | _ => rw [hst] at hstatus; cases hstatus
    exact ⟨hcurrent, hidle, hcoh.kernels (by rw [hidle]; simp)⟩

/-- A form with one model on a bus that keeps one event. -/
def oneEvent : Form := ⟨[.ofModel .empty true], ⟨1, #[], .empty, 0, 1⟩⟩

/-- The word that client 1 was chosen is lost, and what the loop gets instead it does not want. -/
def lostWord : List Action :=
  [.continueDrive 0 true, .write 0 "clientId" (.ofNat 1), .write 0 "title" .null,
    .continueDrive 0 true, .continueDrive 0 true]

theorem drive_follows_lostWord :
    ∃ i key, ((mount oneEvent (.shared 0) .cancel).run (.drive ⟨some .system, false⟩
        (Filter.acceptAll.withFields [.clientId, .productId]) :: lostWord)).controller.inputs =
        some i ∧ i.template = .system ∧ i.clientId = some ⟨1⟩ ∧ i.productId = none ∧
      ((mount oneEvent (.shared 0) .cancel).run (.drive ⟨some .system, false⟩
        (Filter.acceptAll.withFields [.clientId, .productId]) :: lostWord)).controller.current =
        some key ∧ key.scope = some (.client ⟨1⟩) := by
  have hfilter : ∀ e, Tells e →
      (Filter.acceptAll.withFields [.clientId, .productId]).accepts e = true := by
    rintro _ ⟨value, rfl | rfl⟩ <;> rfl
  have hbeside : ∀ a ∈ lostWord, Beside 0 a := by simp [lostWord, Beside]
  -- the loop has lost an event, and it waits where the bus ends
  obtain ⟨d, hd, hat⟩ : ∃ d, ((mount oneEvent (.shared 0) .cancel).run
      (.drive ⟨some .system, false⟩ (Filter.acceptAll.withFields [.clientId, .productId]) ::
        lostWord)).drives[0]? = some d ∧
      (d.stage, d.props.template, d.subscription.next) = (.waiting, some .system, 3) :=
    Option.map_eq_some_iff.mp (by decide +kernel)
  obtain ⟨hwait, htemplate, hnext⟩ : d.stage = .waiting ∧ d.props.template = some .system ∧
      d.subscription.next = 3 := by simpa using hat
  have h := drive_follows oneEvent 0 .cancel [] lostWord ⟨some .system, false⟩ _
    ⟨_, rfl, rfl⟩ hfilter hbeside d hd hwait (by decide +kernel) (fun e he => by
      rw [hnext, Bus.since_of_published_le (by decide +kernel)] at he
      cases he)
  rw [htemplate] at h
  obtain ⟨i, key, hi, ht, hc, hp, hk, hscope⟩ := h
  exact ⟨i, key, hi, ht, hc.trans (by decide +kernel), hp.trans (by decide +kernel), hk,
    hscope.trans (by decide +kernel)⟩

end Session

end LivePatching
