import LivePatching.Proofs.Account
import LivePatching.Proofs.Isolation
import LivePatching.Proofs.Loop

/-!
# Model, log and events tell the same story

A model that announces its writes shows them three times: in its values, in its log of the last
writes, and on the bus.

* `SharedModel.log_foldl_take`: the log is the last writes, as many as are kept.
* `Session.posted`: what a run puts on the bus, and who posts it; `hears_run`: that is all the bus
  hears of.
* `Watch`: a session with somebody who listens to everything.
* `received_eq`: who has lost nothing and waits for nothing has received all of it.
* `Chronicled`, `chronicled`: **all three are the writes of the form and of the sub-form, in
  order.**
-/

namespace LivePatching

open Json

namespace Written

/-- The write as it stands in a log. -/
def entry (w : Written) : String × Value := (w.key, w.value)

/-- The write as it is announced. -/
def event (w : Written) : FormEvent := .valueChanged w.key w.value

end Written

/-! ## The log of a model -/

namespace SharedModel

variable {m : SharedModel}

/-- A log that holds the last entries holds the last entries with one more. -/
theorem record_drop (es : List (String × Value)) (e : String × Value) :
    record (es.drop (es.length - logCapacity)) e =
      (es ++ [e]).drop ((es ++ [e]).length - logCapacity) := by
  have hlength : (es.drop (es.length - logCapacity)).length = min es.length logCapacity := by
    rw [List.length_drop]
    omega
  unfold record
  rw [hlength, List.length_append, List.length_singleton]
  -- once the log is full, an entry drops for each that comes
  by_cases hfull : logCapacity ≤ es.length
  · have hle : es.length - logCapacity + 1 ≤ es.length := by
      unfold logCapacity at hfull ⊢
      omega
    rw [if_pos (Nat.min_eq_right hfull), List.tail_drop, Nat.sub_add_comm hfull,
      List.drop_append_of_le_length hle]
  · have hnone : es.length - logCapacity = 0 := by omega
    have hnone' : es.length + 1 - logCapacity = 0 := by omega
    rw [if_neg (by omega), hnone, hnone', List.drop_zero, List.drop_zero]

/-- The log is the last writes, as many as are kept. -/
theorem log_foldl_take (m₀ : FormModel) (announces : Bool) (ws : List Written) :
    (ws.foldl take (ofModel m₀ announces)).log =
      (ws.map Written.entry).drop (ws.length - logCapacity) := by
  -- a log grows at its end and loses at its front
  induction ws using List.reverseRecOn with
  | nil => rfl
  | append_singleton ws w ih =>
    have hstep : ((ws ++ [w]).foldl take (ofModel m₀ announces)).log =
        record (ws.foldl take (ofModel m₀ announces)).log w.entry := by
      rw [List.foldl_append]
      rfl
    have hrecord := record_drop (ws.map Written.entry) w.entry
    rw [List.length_map] at hrecord
    rw [hstep, ih, hrecord]
    simp

theorem announces_foldl_take (m : SharedModel) (ws : List Written) :
    (ws.foldl take m).announces = m.announces := by
  induction ws generalizing m with
  | nil => rfl
  | cons w ws ih => exact ih (m.take w)

end SharedModel

/-! ## What is put on the bus -/

/-- An event that is put on the bus: by a model that announces a write, or by the owner of the bus
in no model's name. -/
structure Post where
  model : Option Nat
  event : FormEvent

/-- What is put on the bus for a write. -/
def Written.post? (f : Form) (w : Written) : Option Post :=
  if (f.models[w.model]?).any (·.announces) then some ⟨some w.model, w.event⟩ else none

namespace Form

variable {f : Form} {m : Nat}

/-- A model announces its writes as it was told when it was shared. -/
theorem announces_iff : f.Announces m ↔ (f.models[m]?).any (·.announces) = true := by
  cases h : f.models[m]? with
  | none => simp [Announces, h]
  | some sm => simp [Announces, h]

/-- A write is announced, if it is one to a model that does so, when it is done. -/
theorem enter_announced {w : Written} (h : f.Announces w.model) :
    ∃ f₁ : Form, f₁.bus = f.bus ∧ (f₁.model w.model).get? w.key = some w.value ∧
      f.enter (some w) = f₁.publish w.event := by
  obtain ⟨sm, hm, ha⟩ := h
  have hlt := (List.getElem?_eq_some_iff.mp hm).1
  refine ⟨{ f with models := f.models.set w.model (sm.write w.key w.value) }, rfl, ?_, ?_⟩
  · unfold model
    rw [List.getElem?_set_self hlt]
    exact (FormModel.get?_set ..).trans (if_pos rfl)
  · simp only [enter, write, hm, ha, if_true]
    rfl

/-- A write is heard on the bus if its model announces it. -/
theorem hears_enter (f : Form) (o : Option Written) :
    f.bus.Hears ((o.bind (Written.post? f)).toList.map Post.event) (f.enter o).bus := by
  cases o with
  | none => exact .refl _
  | some w =>
    rw [Option.bind_some, Written.post?]
    by_cases h : f.Announces w.model
    · obtain ⟨f₁, hbus, -, he⟩ := enter_announced h
      rw [if_pos (announces_iff.mp h), he, ← hbus]
      exact Bus.hears_publish f₁.bus w.event
    · rw [if_neg fun ha => h (announces_iff.mpr ha)]
      -- a model that does not announce leaves the bus alone
      have hbus : (f.enter (some w)).bus = f.bus := by
        simp only [enter, write]
        cases hm : f.models[w.model]? with
        | none => rfl
        | some sm =>
          have ha : sm.announces ≠ true := fun ha => h ⟨sm, hm, ha⟩
          simp [ha]
      rw [hbus]
      exact .refl _

end Form

namespace Session

/-- What a step puts on the bus. -/
def posted? (s : Session) (a : Action) : Option Post :=
  (a.published?.map (Post.mk none)).or ((s.written? a).bind (Written.post? s.form))

/-- The posts of a run, in order. -/
def posted (s : Session) (as : List Action) : List Post := s.collect posted? as

/-- The writes to one model. -/
def writesTo (s : Session) (as : List Action) (m : Nat) : List Written :=
  (s.written as).filter (·.model == m)

variable {s : Session} {a : Action} {as : List Action} {m j : Nat} {m₀ : FormModel}

/-- Who publishes an event writes nothing by that. -/
theorem written_published {e : FormEvent} (h : a.published? = some e) : s.written? a = none := by
  cases a with
  | publish e' => rfl
  | _ => cases h

/-- **A step puts on the bus what it posts, and nothing else.** -/
theorem hears_posted (s : Session) (a : Action) :
    s.form.bus.Hears ((s.posted? a).toList.map Post.event) (s.step a).form.bus := by
  obtain ⟨bus, _, _, _, hbus, he⟩ := step_books s a
  rw [form_written] at hbus
  have hboth : s.form.bus.Hears
      (((s.written? a).bind (Written.post? s.form)).toList.map Post.event ++ a.published?.toList)
      (s.step a).form.bus := by
    rw [he]
    exact (s.form.hears_enter (s.written? a)).trans hbus
  unfold posted?
  cases hp : a.published? with
  | none => simpa [hp] using hboth
  | some e => simpa [hp, written_published hp] using hboth

/-- The bus hears the posts of a run, in order. -/
theorem hears_run (s : Session) (as : List Action) :
    s.form.bus.Hears ((s.posted as).map Post.event) (s.run as).form.bus := by
  induction as generalizing s with
  | nil => exact .refl _
  | cons a as ih =>
    have hall := (hears_posted s a).trans (ih (s.step a))
    rw [← List.map_append] at hall
    exact hall

/-- What a model announces does not change, nor does any begin to. -/
theorem announces_run_iff (s : Session) (as : List Action) :
    (s.run as).form.Announces j ↔ s.form.Announces j := by
  rw [Form.announces_iff, Form.announces_iff, models_written]
  cases s.form.models[j]? with
  | none => rfl
  | some sm => simp [SharedModel.announces_foldl_take]

/-- A post comes from the owner of the bus, or from a write to the model that announces it. -/
theorem posted_cases {p : Post} (h : s.posted? a = some p) :
    (∃ e, a = .publish e ∧ p = ⟨none, e⟩) ∨
      ∃ w, s.written? a = some w ∧ s.form.Announces w.model ∧ p = ⟨some w.model, w.event⟩ := by
  unfold posted? at h
  -- an event is published by itself, or by a write to a model that announces
  cases hp : a.published? with
  | some e =>
    rw [hp] at h
    cases a with
    | publish e' => cases hp; cases h; exact .inl ⟨e, rfl, rfl⟩
    | _ => cases hp
  | none =>
    rw [hp, Option.map_none, Option.none_or] at h
    obtain ⟨w, hw, hpost⟩ := Option.bind_eq_some_iff.mp h
    unfold Written.post? at hpost
    split at hpost
    · rename_i ha
      cases hpost
      exact .inr ⟨w, hw, Form.announces_iff.mpr ha, rfl⟩
    · cases hpost

/-- A model that announces posts its writes, in order. -/
theorem posted_model (h : s.form.Announces m) (as : List Action) :
    ((s.posted as).filter (·.model == some m)).map Post.event =
      (s.writesTo as m).map Written.event := by
  induction as generalizing s with
  | nil => rfl
  | cons a as ih =>
    have hannounces : (s.step a).form.Announces m := (announces_run_iff s [a]).mpr h
    have hrest := ih hannounces
    -- the step writes to the model and it is announced, or it does neither
    have hhead : ((s.posted? a).toList.filter (·.model == some m)).map Post.event =
        ((s.written? a).toList.filter (·.model == m)).map Written.event := by
      unfold posted?
      cases hp : a.published? with
      | some e => simp [written_published hp]
      | none =>
        cases hw : s.written? a with
        | none => rfl
        | some w =>
          by_cases hm : w.model = m
          · subst hm
            simp [Written.post?, Form.announces_iff.mp h]
          · have hpost : ∀ p, Written.post? s.form w = some p → p.model ≠ some m := by
              intro p hpost
              unfold Written.post? at hpost
              split at hpost
              · cases hpost; simpa using hm
              · cases hpost
            cases hpost' : Written.post? s.form w with
            | none => simp [hpost', hm]
            | some p => simp [hpost', hm, hpost p hpost']
    unfold posted writesTo written at hrest ⊢
    rw [collect, collect, List.filter_append, List.map_append, List.filter_append, List.map_append,
      hhead, hrest]

/-! ## A model that is alone on the bus -/

/-- Nobody but the model tells of writes: no other one announces, and the owner of the bus does not
do so himself. -/
structure Sole (s : Session) (m : Nat) (as : List Action) : Prop where
  model : ∀ j, s.form.Announces j → j = m
  owner : ∀ key value, .publish (.valueChanged key value) ∉ as

/-- Where nobody else tells of writes, those of the model are all that are told of. -/
theorem posted_sole (h : s.Sole m as) : ∀ p ∈ s.posted as,
    (p.event.topic == .model) = (p.model == some m) := by
  intro p hp
  obtain ⟨us, a, vs, rfl, hpost⟩ := mem_collect.mp hp
  rcases posted_cases hpost with ⟨e, rfl, rfl⟩ | ⟨w, -, hannounces, rfl⟩
  · cases e with
    | valueChanged key value =>
      exact absurd (List.mem_append_right _ List.mem_cons_self) (h.owner key value)
    | _ => rfl
  · rw [h.model w.model ((announces_run_iff s us).mp hannounces)]
    simp [Written.event, FormEvent.topic]

/-- The events of one model's owner are the writes to that model. -/
theorem events_sole (hm : s.form.Announces m) (h : s.Sole m as) :
    ((s.posted as).map Post.event).filter (·.topic == .model) =
      (s.writesTo as m).map Written.event := by
  rw [List.filter_map, ← posted_model hm]
  exact congrArg _ (List.filter_congr (posted_sole h))

end Session

/-! ## Replaying what was heard -/

/-- A model after an event: events other than writes do not change it. -/
def FormModel.hear (m : FormModel) : FormEvent → FormModel
  | .valueChanged key value => m.set key value
  | _ => m

/-- Only the writes count. -/
theorem FormModel.foldl_hear_filter (m : FormModel) (es : List FormEvent) :
    (es.filter (·.topic == .model)).foldl hear m = es.foldl hear m := by
  induction es generalizing m with
  | nil => rfl
  | cons e es ih =>
    cases e with
    | valueChanged key value => exact ih (m.set key value)
    | _ => exact ih m

/-- To hear of writes is to make them. -/
theorem FormModel.foldl_hear_events (m : FormModel) (ws : List Written) :
    (ws.map Written.event).foldl hear m = ws.foldl take m := by
  rw [List.foldl_map]
  rfl

theorem Filter.accepts_acceptAll (e : FormEvent) : acceptAll.accepts e = true := by
  cases e <;> rfl

/-- The event that an answer brings. -/
def Delivery.event? : Delivery → Option FormEvent
  | event e => some e
  | _ => none

/-- Who accepts all events and has lost none has received all that are not still to be heard. -/
theorem received_eq {all : List FormEvent} {fates : List Fate} {r : Reception}
    (h : Ledger .acceptAll all fates r) (hlost : ∀ d ∈ r.answers, d.isLagged = false) :
    all = r.answers.filterMap Delivery.event? ++ r.outstanding := by
  have hspeaks : (r.answers.filter Delivery.speaks).filterMap Delivery.event? =
      r.answers.filterMap Delivery.event? := by
    rw [List.filterMap_filter]
    refine List.filterMap_congr fun d _ => ?_
    cases d <;> rfl
  -- nothing is skipped by who accepts all, and a loss would be among the answers
  have hfates : ∀ fate ∈ fates, fate.events = (fate.report?.bind Delivery.event?).toList := by
    intro fate hfate
    cases fate with
    | returned e => rfl
    | skipped e =>
      have hno : Filter.acceptAll.accepts e = false := h.fits _ hfate
      rw [Filter.accepts_acceptAll] at hno
      cases hno
    | lost es =>
      have hmem : Delivery.lagged es.length ∈ r.answers := by
        have hreport : Delivery.lagged es.length ∈ fates.filterMap Fate.report? :=
          List.mem_filterMap.mpr ⟨_, hfate, rfl⟩
        rw [← h.answers] at hreport
        exact (List.mem_filter.mp hreport).1
      exact absurd (hlost _ hmem) (by simp [Delivery.isLagged])
  have hpassed : fates.flatMap Fate.events = r.answers.filterMap Delivery.event? :=
    calc fates.flatMap Fate.events
        = fates.flatMap fun fate => (fate.report?.bind Delivery.event?).toList :=
          List.flatMap_congr hfates
      _ = fates.filterMap fun fate => fate.report?.bind Delivery.event? :=
          (List.filterMap_eq_flatMap_toList _ fates).symm
      _ = (fates.filterMap Fate.report?).filterMap Delivery.event? :=
          List.filterMap_filterMap.symm
      _ = r.answers.filterMap Delivery.event? := by rw [← h.answers, hspeaks]
  rw [h.events, hpassed]

/-! ## Watching a session -/

/-- A session, and somebody who listens to everything on its bus, with what he was answered. -/
structure Watch where
  session : Session
  subscription : Subscription
  answers : List Delivery

namespace Watch

/-- The watcher has just subscribed. -/
def begin (s : Session) : Watch :=
  ⟨s.step (.subscribe .acceptAll), (s.form.bus.subscribe .acceptAll).2, []⟩

/-- The session takes a step, or the watcher polls. -/
def step (w : Watch) : Option Action → Watch
  | some a => { w with session := w.session.step a }
  | none =>
    let (answer, subscription) := w.subscription.poll w.session.form.bus
    { w with subscription, answers := w.answers ++ [answer] }

/-- The watch after steps and polls. -/
def run (w : Watch) (ts : List (Option Action)) : Watch := ts.foldl step w

/-- The events that the watcher has received. -/
def received (w : Watch) : List FormEvent := w.answers.filterMap Delivery.event?

/-- The watcher was told that it lost events. -/
def Lagged (w : Watch) : Prop := ∃ d ∈ w.answers, d.isLagged = true

/-- There is nothing more to receive, for now or for good. -/
def Drained (w : Watch) : Prop :=
  (w.subscription.poll w.session.form.bus).1 = .pending ∨
    (w.subscription.poll w.session.form.bus).1 = .closed

/-- The bus and the watcher's place on it. -/
def reception (w : Watch) : Reception := ⟨w.session.form.bus, w.subscription, w.answers⟩

variable {s : Session} {w : Watch} {ts : List (Option Action)}

/-- Polls leave the session as it is. -/
theorem session_run (w : Watch) (ts : List (Option Action)) :
    (w.run ts).session = w.session.run ts.reduceOption := by
  induction ts generalizing w with
  | nil => rfl
  | cons t ts ih =>
    cases t with
    | none => exact ih (w.step none)
    | some a => exact ih (w.step (some a))

/-- The watcher has an account of all that is posted. -/
theorem ledger_run {filter : Filter} {all : List FormEvent} {fates : List Fate}
    (h : Ledger filter all fates w.reception) (ts : List (Option Action)) :
    ∃ more, Ledger filter (all ++ (w.session.posted ts.reduceOption).map Post.event)
      (fates ++ more) (w.run ts).reception := by
  induction ts generalizing w all fates with
  | nil =>
    refine ⟨[], ?_⟩
    rw [List.append_nil]
    exact (List.append_nil all).symm ▸ h
  | cons t ts ih =>
    -- a poll settles what becomes of some events, a step posts more
    cases t with
    | none =>
      obtain ⟨more, hpolled⟩ := h.polled
      obtain ⟨rest, hrest⟩ := ih (w := w.step none) hpolled
      exact ⟨more ++ rest, by rw [← List.append_assoc]; exact hrest⟩
    | some a =>
      have hears := h.hears (w.session.hears_posted a)
      obtain ⟨rest, hrest⟩ := ih (w := w.step (some a)) hears
      refine ⟨rest, ?_⟩
      rw [List.append_assoc, ← List.map_append] at hrest
      exact hrest

/-- A watcher that has nothing more to receive has missed nothing. -/
theorem outstanding_eq_nil (h : w.Drained) (hf : w.subscription.filter = .acceptAll) :
    w.reception.outstanding = [] := by
  have hpoll := w.subscription.poll_polled w.session.form.bus
  rcases hanswer : w.subscription.poll w.session.form.bus with ⟨delivery, s'⟩
  rw [hanswer] at hpoll
  unfold Drained at h
  rw [hanswer] at h
  have hno := (Subscription.nothing_of_polled hpoll h).1
  refine List.eq_nil_iff_forall_not_mem.mpr fun e he => ?_
  have hrejected := hno e he
  rw [hf, Filter.accepts_acceptAll] at hrejected
  cases hrejected

/-- **Who has lost nothing and waits for nothing has received all that was posted.** -/
theorem received_run (s : Session) (ts : List (Option Action))
    (hlag : ¬ ((begin s).run ts).Lagged) (hdrained : ((begin s).run ts).Drained) :
    ((begin s).run ts).received =
      ((begin s).session.posted ts.reduceOption).map Post.event := by
  have hbegin : Ledger .acceptAll [] [] (begin s).reception :=
    ledger_begin s.form.bus .acceptAll
  obtain ⟨fates, hledger⟩ := ledger_run hbegin ts
  have hlost : ∀ d ∈ ((begin s).run ts).answers, d.isLagged = false := fun d hd =>
    Bool.eq_false_iff.mpr fun h => hlag ⟨d, hd, h⟩
  have hall := received_eq hledger hlost
  rw [outstanding_eq_nil hdrained hledger.filter, List.append_nil, List.nil_append] at hall
  exact hall.symm

end Watch

/-! ## Three times the same -/

namespace Session

/-- What shows of the writes to a model that started with the values `m₀` and announces them: those
of the form, and those of the sub-form between them. -/
structure Chronicled (s : Session) (m : Nat) (m₀ : FormModel) (as : List Action) : Prop where
  form : (s.writesTo as m).filter (·.author == .form) =
    (as.filterMap Action.written?).filter (·.model == m)
  subform : (s.writesTo as m).filter (·.author == .subform) =
    ((s.kernelWrites as).map KernelWrite.written).filter (·.model == m)
  model : (s.run as).form.model m = (s.writesTo as m).foldl FormModel.take m₀
  /-- The log has the last writes, and counts them by their key. -/
  log : ∃ sm, (s.run as).form.models[m]? = some sm ∧
    sm.log = ((s.writesTo as m).map Written.entry).drop
      ((s.writesTo as m).length - SharedModel.logCapacity) ∧
    sm.log.length = min (s.writesTo as m).length SharedModel.logCapacity ∧
    ∀ key, sm.writesTo key =
      ((s.writesTo as m).drop ((s.writesTo as m).length - SharedModel.logCapacity)).countP
        (·.key == key)
  /-- Nothing is on the bus but what is posted, and the model posts its writes. -/
  events : (s.run as).form.bus.log.toList =
    s.form.bus.log.toList ++ (s.posted as).map Post.event
  posts : ((s.posted as).filter (·.model == some m)).map Post.event =
    (s.writesTo as m).map Written.event
  sole : s.Sole m as → ((s.posted as).map Post.event).filter (·.topic == .model) =
    (s.writesTo as m).map Written.event
  /-- A write is published when the model holds it, and before anything else is done. -/
  held : ∀ us a vs w, as = us ++ a :: vs → (s.run us).written? a = some w → w.model = m →
    ∃ f : Form, f.bus = (s.run us).form.bus ∧ f.models = ((s.run us).step a).form.models ∧
      (f.model m).get? w.key = some w.value ∧
      ((s.run us).take ((s.run us).turn a)).form = f.publish w.event
  /-- A watcher from the start that has lost nothing, and waits for nothing, can tell the model from
  what he has received. -/
  replayed : ∀ ts : List (Option Action), ts.reduceOption = as → s.Sole m as →
    ¬ ((Watch.begin s).run ts).Lagged → ((Watch.begin s).run ts).Drained →
    ((Watch.begin s).run ts).received.foldl FormModel.hear m₀ =
      ((Watch.begin s).run ts).session.form.model m

variable {s : Session} {m : Nat} {m₀ : FormModel}

theorem model_fresh (h : s.form.models[m]? = some (.ofModel m₀ true)) : s.form.model m = m₀ := by
  simp [Form.model, h, SharedModel.ofModel]

theorem announces_fresh (h : s.form.models[m]? = some (.ofModel m₀ true)) : s.form.Announces m :=
  ⟨_, h, rfl⟩

/-- A model is its first state with all its writes. -/
theorem model_writesTo (h : s.form.models[m]? = some (.ofModel m₀ true)) (as : List Action) :
    (s.run as).form.model m = (s.writesTo as m).foldl FormModel.take m₀ := by
  rw [model_written (List.getElem?_eq_some_iff.mp h).1, model_fresh h]
  rfl

/-- The log of a model holds its last writes, up to its capacity. -/
theorem log_writesTo (h : s.form.models[m]? = some (.ofModel m₀ true)) (as : List Action) :
    ∃ sm, (s.run as).form.models[m]? = some sm ∧
      sm.log = ((s.writesTo as m).map Written.entry).drop
        ((s.writesTo as m).length - SharedModel.logCapacity) := by
  refine ⟨(s.writesTo as m).foldl SharedModel.take (.ofModel m₀ true), ?_,
    SharedModel.log_foldl_take m₀ true _⟩
  rw [models_written, h]
  rfl

/-- When a write is published the model already holds the value. -/
theorem held_write (h : s.form.Announces m) {a : Action} {w : Written}
    (hw : s.written? a = some w) (hm : w.model = m) :
    ∃ f : Form, f.bus = s.form.bus ∧ f.models = (s.step a).form.models ∧
      (f.model m).get? w.key = some w.value ∧
      (s.take (s.turn a)).form = f.publish w.event := by
  subst hm
  obtain ⟨f, hbus, hget, he⟩ := Form.enter_announced h
  refine ⟨f, hbus, ?_, hget, ?_⟩
  · rw [models_enter, hw, he]
    rfl
  · rw [form_written, hw, he]

/-- A watcher that lost nothing rebuilds the model from what it received. -/
theorem replayed_run (h : s.form.models[m]? = some (.ofModel m₀ true)) {ts : List (Option Action)}
    (hsole : s.Sole m ts.reduceOption) (hlag : ¬ ((Watch.begin s).run ts).Lagged)
    (hdrained : ((Watch.begin s).run ts).Drained) :
    ((Watch.begin s).run ts).received.foldl FormModel.hear m₀ =
      ((Watch.begin s).run ts).session.form.model m := by
  -- to subscribe is a step that leaves the models alone
  set s' := (Watch.begin s).session with hs'
  have hfresh : s'.form.models[m]? = some (.ofModel m₀ true) := h
  have hsole' : s'.Sole m ts.reduceOption := ⟨hsole.model, hsole.owner⟩
  rw [Watch.received_run s ts hlag hdrained, Watch.session_run, ← hs',
    ← FormModel.foldl_hear_filter, events_sole (announces_fresh hfresh) hsole',
    FormModel.foldl_hear_events, model_writesTo hfresh]

/-- **Models, logs, events and watchers agree on the writes of a run.** -/
theorem chronicled_run (h : s.form.models[m]? = some (.ofModel m₀ true)) (as : List Action) :
    s.Chronicled m m₀ as where
  form := by rw [writesTo, List.filter_comm, written_form]
  subform := by rw [writesTo, List.filter_comm, written_subform]
  model := model_writesTo h as
  log := by
    obtain ⟨sm, hm, hlog⟩ := log_writesTo h as
    refine ⟨sm, hm, hlog, ?_, fun key => ?_⟩
    · rw [hlog, List.length_drop, List.length_map]
      omega
    · rw [SharedModel.writesTo, hlog, ← List.map_drop, List.countP_map]
      rfl
  events := (hears_run s as).log
  posts := posted_model (announces_fresh h) as
  sole := events_sole (announces_fresh h)
  held us a vs w _ hw hm := held_write ((announces_run_iff s us).mpr (announces_fresh h)) hw hm
  replayed ts hts hsole hlag hdrained := by
    subst hts
    exact replayed_run h hsole hlag hdrained

/-- **Values, log and events are the writes of the form and of the sub-form, in order**, whatever
else is in the form, and whatever happens to the sub-form. -/
theorem chronicled (before after : List SharedModel) (m₀ : FormModel) (bus : Bus)
    (context : Context) (policy : StalePolicy) (as : List Action) :
    Chronicled (.mount ⟨before ++ .ofModel m₀ true :: after, bus⟩ context policy) before.length m₀
      as :=
  chronicled_run (by simp [mount]) as

end Session

end LivePatching
