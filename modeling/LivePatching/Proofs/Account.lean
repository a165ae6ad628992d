import Mathlib.Tactic.Common
import LivePatching.Proofs.Delivery

/-!
# All events are accounted for

Around a receiver events are published, other receivers come and go, and the bus may be closed; the
receiver calls for events, with word of those it lost or without.

* `Traffic`, `Reception.run`: what happens, in any order, and what the receiver is answered.
* `Fate`: an event is returned or skipped; a block of events is lost and reported once.
* `Ledger`: the fates so far, and the events still to be heard, are all events since the receiver
  subscribed.
* `ledger_run`: **the ledger is kept, whatever is lost.**
* `spelled_run`: calls without word of losses are calls with it, of which nobody hears the losses.
* `accounted`: **no event is lost without a report, none is returned twice or out of order.**
-/

namespace LivePatching

/-- What happens around a receiver. -/
inductive Traffic where
  | publish (e : FormEvent)
  /-- Somebody else listens. -/
  | subscribe (filter : Filter)
  /-- Somebody else stops to listen. -/
  | unsubscribe
  | hold
  /-- A holder of the bus lets go of it. -/
  | release
  -- What the receiver calls.
  | poll
  | receive
  | receiveWithin (limit : Duration)

namespace Traffic

/-- The event that is published. -/
def event? : Traffic → Option FormEvent
  | publish e => some e
  | _ => none

/-- Whether the subscriber asks for a delivery. -/
def isCall : Traffic → Bool
  | poll => true
  | receive => true
  | receiveWithin _ => true
  | _ => false

/-- A call that passes over lost events without a word. -/
def isSilent : Traffic → Bool
  | receive => true
  | receiveWithin _ => true
  | _ => false

end Traffic

namespace Delivery

/-- What a call with a limit comes to: when the time is over, nothing was there. -/
def ofExcept : Except SubscriptionError FormEvent → Delivery
  | .ok e => .event e
  | .error .closed => .closed
  | .error (.timeout _) => .pending
  | .error (.lagged missed) => .lagged missed

/-- Whether the answer speaks of events. -/
def speaks : Delivery → Bool
  | event _ => true
  | lagged _ => true
  | _ => false

/-- Whether a delivery reports lost events. -/
def isLagged : Delivery → Bool
  | lagged _ => true
  | _ => false

end Delivery

/-- A bus, one receiver, and what it was answered so far. -/
structure Reception where
  bus : Bus
  subscription : Subscription
  answers : List Delivery

namespace Reception

/-- The receiver has just subscribed. -/
def begin (b : Bus) (filter : Filter) : Reception :=
  ⟨(b.subscribe filter).1, (b.subscribe filter).2, []⟩

/-- The subscriber takes an answer. -/
def answer (r : Reception) (a : Delivery × Subscription) : Reception :=
  { r with subscription := a.2, answers := r.answers ++ [a.1] }

/-- What one piece of traffic does to the bus and the subscriber. -/
def step (r : Reception) : Traffic → Reception
  | .publish e => { r with bus := r.bus.publish e }
  | .subscribe filter => { r with bus := (r.bus.subscribe filter).1 }
  | .unsubscribe => { r with bus := r.bus.unsubscribe }
  | .hold => { r with bus := r.bus.hold }
  | .release => { r with bus := r.bus.release }
  | .poll => r.answer (r.subscription.poll r.bus)
  | .receive => r.answer (r.subscription.receive r.bus)
  | .receiveWithin limit =>
    r.answer ((r.subscription.receiveWithin r.bus limit).map Delivery.ofExcept id)

/-- The reception after traffic, from the first to the last. -/
def run (r : Reception) (ts : List Traffic) : Reception := ts.foldl step r

/-- The events that are still to be heard. -/
def outstanding (r : Reception) : List FormEvent := r.bus.since r.subscription.next

theorem run_append (r : Reception) (ts us : List Traffic) :
    r.run (ts ++ us) = (r.run ts).run us := List.foldl_append

end Reception

/-- What became of events that a receiver has passed. -/
inductive Fate where
  | returned (e : FormEvent)
  | skipped (e : FormEvent)
  | lost (es : List FormEvent)

namespace Fate

/-- The events that met this fate. -/
def events : Fate → List FormEvent
  | returned e => [e]
  | skipped e => [e]
  | lost es => es

/-- What the receiver is answered: an event, or how many it lost. -/
def report? : Fate → Option Delivery
  | returned e => some (.event e)
  | skipped _ => none
  | lost es => some (.lagged es.length)

/-- Just the events that the filter accepts are returned, and no empty block is reported. -/
def Fits (filter : Filter) : Fate → Prop
  | returned e => filter.accepts e = true
  | skipped e => filter.accepts e = false
  | lost es => es ≠ []

theorem flatMap_skipped (es : List FormEvent) : (es.map skipped).flatMap events = es := by
  induction es with
  | nil => rfl
  | cons e es ih => rw [List.map_cons, List.flatMap_cons, ih]; rfl

theorem filterMap_skipped (es : List FormEvent) : (es.map skipped).filterMap report? = [] := by
  induction es with
  | nil => rfl
  | cons e es ih => rw [List.map_cons, List.filterMap_cons, ih]; rfl

/-- Events that the filter does not accept are rightly skipped. -/
theorem fits_skipped {filter : Filter} {es : List FormEvent}
    (h : ∀ e ∈ es, filter.accepts e = false) : ∀ f ∈ es.map skipped, f.Fits filter := by
  intro f hf
  obtain ⟨e, he, rfl⟩ := List.mem_map.mp hf
  exact h e he

end Fate

/-! ## The ledger -/

/-- The fates of the events passed so far; with the events still to be heard they are all events. -/
structure Ledger (f : Filter) (all : List FormEvent) (fates : List Fate) (r : Reception) :
    Prop where
  filter : r.subscription.filter = f
  place : r.subscription.next ≤ r.bus.published
  events : all = fates.flatMap Fate.events ++ r.outstanding
  fits : ∀ fate ∈ fates, fate.Fits f
  answers : r.answers.filter Delivery.speaks = fates.filterMap Fate.report?

variable {filter : Filter} {all : List FormEvent} {fates : List Fate} {r r' : Reception}
  {s s' : Subscription} {b : Bus} {delivery : Delivery}

/-- A subscription begins with empty books. -/
theorem ledger_begin (b : Bus) (filter : Filter) :
    Ledger filter [] [] (Reception.begin b filter) where
  filter := rfl
  place := Nat.le_refl _
  events := (Bus.since_of_published_le (b := (b.subscribe filter).1) (Nat.le_refl _)).symm
  fits _ hf := absurd hf List.not_mem_nil
  answers := rfl

/-- What a poll passes has a fate, and the answer is what is reported of it. -/
theorem fates_of_polled (h : s.Polled b (delivery, s')) :
    ∃ fates : List Fate, b.since s.next = fates.flatMap Fate.events ++ b.since s'.next ∧
      (∀ f ∈ fates, f.Fits s.filter) ∧
      [delivery].filter Delivery.speaks = fates.filterMap Fate.report? := by
  -- where nothing is returned, all that was left has been skipped
  have hnothing : ∀ d : Delivery, d.speaks = false →
      (∀ e ∈ b.since s.next, s.filter.accepts e = false) →
      ∃ fates : List Fate, b.since s.next =
          fates.flatMap Fate.events ++ b.since (s.next + (b.since s.next).length) ∧
        (∀ f ∈ fates, f.Fits s.filter) ∧
        [d].filter Delivery.speaks = fates.filterMap Fate.report? := by
    intro d hd hno
    have hend : b.since (s.next + (b.since s.next).length) = [] :=
      Bus.since_split (List.append_nil _).symm
    refine ⟨(b.since s.next).map .skipped, ?_, Fate.fits_skipped hno, ?_⟩
    · rw [Fate.flatMap_skipped, hend, List.append_nil]
    · rw [Fate.filterMap_skipped, List.filter_cons_of_neg (by simp [hd]), List.filter_nil]
  cases h with
  | lagged hlt =>
    obtain ⟨es, hes⟩ := Bus.since_drop (b := b) (Nat.le_of_lt hlt)
    have hlen : es.length = b.oldest - s.next := by
      have hall := congrArg List.length hes
      have hle := b.oldest_le
      rw [List.length_append, Bus.length_since, Bus.length_since] at hall
      omega
    refine ⟨[.lost es], by simpa [Fate.events] using hes, ?_, ?_⟩
    · intro f hf
      rw [List.mem_singleton.mp hf]
      rintro rfl
      rw [List.length_nil] at hlen
      omega
    · simp [Delivery.speaks, Fate.report?, hlen]
  | event skipped e rest _ hsplit hskipped he =>
    have hrest := Bus.since_behind hsplit
    refine ⟨skipped.map .skipped ++ [.returned e], ?_, ?_, ?_⟩
    · rw [List.flatMap_append, Fate.flatMap_skipped, hsplit, hrest]
      simp [Fate.events]
    · intro f hf
      rcases List.mem_append.mp hf with hf | hf
      · exact Fate.fits_skipped hskipped f hf
      · rw [List.mem_singleton.mp hf]
        exact he
    · rw [List.filterMap_append, Fate.filterMap_skipped]
      simp [Delivery.speaks, Fate.report?]
  | pending _ hno => exact hnothing .pending rfl hno
  | closed _ hno => exact hnothing .closed rfl hno

namespace Reception

/-- Around the calls only events are added to the bus. -/
theorem hears_step (r : Reception) (t : Traffic) :
    r.bus.Hears t.event?.toList (r.step t).bus := by
  cases t with
  | publish e => exact Bus.hears_publish r.bus e
  | _ => exact Bus.hears_nothing

/-- Traffic that is no call does not touch the subscriber. -/
theorem step_of_not_call {t : Traffic} (h : t.isCall = false) :
    (r.step t).subscription = r.subscription ∧ (r.step t).answers = r.answers := by
  cases t with
  | poll => cases h
  | receive => cases h
  | receiveWithin => cases h
  | _ => exact ⟨rfl, rfl⟩

end Reception

/-- A poll continues the books. -/
theorem Ledger.polled (h : Ledger filter all fates r) :
    ∃ more, Ledger filter all (fates ++ more) (r.step .poll) := by
  have hpoll := r.subscription.poll_polled r.bus
  rcases hanswer : r.subscription.poll r.bus with ⟨delivery, s'⟩
  rw [hanswer] at hpoll
  have hstep : r.step .poll = ⟨r.bus, s', r.answers ++ [delivery]⟩ := by
    simp only [Reception.step, Reception.answer, hanswer]
  -- the events that the poll passes over get their fates
  obtain ⟨more, hevents, hfits, hreport⟩ := fates_of_polled hpoll
  rw [hstep]
  refine ⟨more, ?_, ?_, ?_, ?_, ?_⟩
  · exact (Subscription.filter_of_polled hpoll).trans h.filter
  · exact (Subscription.next_of_polled hpoll h.place).2
  · rw [h.events, Reception.outstanding, hevents, List.flatMap_append, List.append_assoc]
    rfl
  · intro fate hfate
    rcases List.mem_append.mp hfate with hold | hnew
    · exact h.fits fate hold
    · exact h.filter ▸ hfits fate hnew
  · rw [List.filter_append, h.answers, hreport, List.filterMap_append]

/-- Events that are added to the bus are still to be heard. -/
theorem Ledger.hears (h : Ledger filter all fates r) {es : List FormEvent}
    (hears : r.bus.Hears es b) :
    Ledger filter (all ++ es) fates { r with bus := b } where
  filter := h.filter
  place := Nat.le_trans h.place hears.published_le
  events := by
    have hsince : Reception.outstanding { r with bus := b } = r.outstanding ++ es :=
      hears.since h.place
    rw [h.events, hsince, List.append_assoc]
  fits := h.fits
  answers := h.answers

/-- Other receivers and the owner of the bus do not touch the ledger. -/
theorem Ledger.beside (h : Ledger filter all fates r) {t : Traffic} (ht : t.isCall = false) :
    Ledger filter (all ++ t.event?.toList) fates (r.step t) := by
  obtain ⟨hsubscription, hanswers⟩ := Reception.step_of_not_call (r := r) ht
  have hstep : r.step t = { r with bus := (r.step t).bus } := by
    rw [← hsubscription, ← hanswers]
  rw [hstep]
  exact h.hears (r.hears_step t)

/-- **The ledger is kept, whatever is lost**: the events published are added to all events. -/
theorem ledger_run (h : Ledger filter all fates r) {ts : List Traffic}
    (hts : ∀ t ∈ ts, t.isSilent = false) :
    ∃ more, Ledger filter (all ++ ts.filterMap Traffic.event?) (fates ++ more) (r.run ts) := by
  induction ts generalizing r all fates with
  | nil => exact ⟨[], by simpa [Reception.run] using h⟩
  | cons t ts ih =>
    -- a poll adds to the books of the subscriber, anything else to the events
    have hstep : ∃ more, Ledger filter (all ++ t.event?.toList) (fates ++ more) (r.step t) := by
      cases hcall : t.isCall with
      | false => exact ⟨[], by simpa using h.beside hcall⟩
      | true =>
        have hspoken := hts t List.mem_cons_self
        cases t with
        | poll => simpa [Traffic.event?] using h.polled
        | receive => cases hspoken
        | receiveWithin => cases hspoken
        | _ => cases hcall
    obtain ⟨more, hledger⟩ := hstep
    obtain ⟨rest, hrest⟩ := ih hledger fun u hu => hts u (List.mem_cons_of_mem t hu)
    refine ⟨more ++ rest, ?_⟩
    have hall : (all ++ t.event?.toList) ++ ts.filterMap Traffic.event? =
        all ++ (t :: ts).filterMap Traffic.event? := by
      rw [List.append_assoc, List.filterMap_cons]
      cases t.event? <;> rfl
    rw [hall, List.append_assoc] at hrest
    exact hrest

/-! ## Calls without word of losses -/

namespace Subscription

/-- Right after a loss nothing is lost. -/
theorem poll_after_lagged {missed : Nat} (h : s.poll b = (.lagged missed, s')) :
    (s'.poll b).1.isLagged = false := by
  have hpoll := s.poll_polled b
  rw [h] at hpoll
  have hnext : s'.next = b.oldest := by cases hpoll; rfl
  have hagain := s'.poll_polled b
  generalize s'.poll b = answer at hagain ⊢
  cases hagain with
  | lagged hlt => rw [hnext] at hlt; exact absurd hlt (Nat.lt_irrefl _)
  | _ => rfl

/-- A call that passes over losses polls once, or once more after a loss. -/
theorem receive_cases (s : Subscription) (b : Bus) :
    ((s.poll b).1.isLagged = false ∧ s.receive b = s.poll b) ∨
      ∃ missed s', s.poll b = (.lagged missed, s') ∧ s.receive b = s'.poll b := by
  rcases h : s.poll b with ⟨delivery, s'⟩
  cases delivery with
  | lagged missed => exact .inr ⟨missed, s', rfl, by simp only [receive, h]⟩
  | _ => exact .inl ⟨rfl, by simp only [receive, h]⟩

/-- A waiting call never ends with a report of lost events. -/
theorem receive_not_lagged (s : Subscription) (b : Bus) : (s.receive b).1.isLagged = false := by
  rcases s.receive_cases b with ⟨hnot, h⟩ | ⟨missed, s', hlag, h⟩
  · rw [h]; exact hnot
  · rw [h]; exact poll_after_lagged hlag

/-- A call with a limit is one without, up to the words. -/
theorem receiveWithin_eq (s : Subscription) (b : Bus) (limit : Duration) :
    (s.receiveWithin b limit).map Delivery.ofExcept id = s.receive b := by
  have hnot := s.receive_not_lagged b
  unfold receiveWithin
  rcases hanswer : s.receive b with ⟨delivery, s'⟩
  rw [hanswer] at hnot
  cases delivery with
  | lagged missed => cases hnot
  | _ => rfl

end Subscription

/-- The same bus and place, and the same answers but for word of losses. -/
structure SameButLosses (r r' : Reception) : Prop where
  bus : r'.bus = r.bus
  subscription : r'.subscription = r.subscription
  answers : r'.answers.filter (!·.isLagged) = r.answers.filter (!·.isLagged)

/-- A silent call is one poll, or two of which the first reports a loss. -/
theorem SameButLosses.silent (h : SameButLosses r r') :
    ∃ us, (∀ u ∈ us, u = .poll) ∧
      SameButLosses (r.answer (r.subscription.receive r.bus)) (r'.run us) := by
  obtain ⟨bus, subscription, answers⟩ := r'
  obtain ⟨rfl, rfl, hanswers⟩ := h
  have hans : ∀ d : Delivery, (answers ++ [d]).filter (!·.isLagged) =
      (r.answers ++ [d]).filter (!·.isLagged) := by
    intro d
    rw [List.filter_append, List.filter_append, hanswers]
  -- a silent call is one poll, or two when the first one reports a loss
  rcases r.subscription.receive_cases r.bus with ⟨-, heq⟩ | ⟨missed, s', hlag, heq⟩
  · refine ⟨[.poll], by simp, ?_⟩
    rw [heq]
    exact ⟨rfl, rfl, hans _⟩
  · refine ⟨[.poll, .poll], by simp, ?_⟩
    rw [heq]
    have hfirst : (Reception.mk r.bus r.subscription answers).step .poll =
        ⟨r.bus, s', answers ++ [.lagged missed]⟩ := by
      simp only [Reception.step, Reception.answer, hlag]
    have hrun : (Reception.mk r.bus r.subscription answers).run [.poll, .poll] =
        (⟨r.bus, s', answers ++ [.lagged missed]⟩ : Reception).step .poll := by
      rw [← hfirst]; rfl
    rw [hrun]
    refine ⟨rfl, rfl, ?_⟩
    show ((answers ++ [Delivery.lagged missed]) ++ [_]).filter _ = (r.answers ++ [_]).filter _
    rw [List.filter_append, List.filter_append, List.filter_append, hanswers]
    simp [Delivery.isLagged]

/-- All traffic but the silent calls keeps two such receptions alike. -/
theorem SameButLosses.spoken (h : SameButLosses r r') {t : Traffic} (ht : t.isSilent = false) :
    SameButLosses (r.step t) (r'.step t) := by
  obtain ⟨bus, subscription, answers⟩ := r'
  obtain ⟨rfl, rfl, hanswers⟩ := h
  cases t with
  | poll =>
    refine ⟨rfl, rfl, ?_⟩
    show (answers ++ [_]).filter _ = (r.answers ++ [_]).filter _
    rw [List.filter_append, List.filter_append, hanswers]
  | receive => cases ht
  | receiveWithin => cases ht
  | _ => exact ⟨rfl, rfl, hanswers⟩

/-- **Calls without word of losses are calls with it**, of which nobody hears the losses. What goes
on around them is the same. -/
theorem spelled_run (h : SameButLosses r r') (ts : List Traffic) :
    ∃ us, (∀ u ∈ us, u.isSilent = false) ∧
      us.filter (!·.isCall) = ts.filter (!·.isCall) ∧ SameButLosses (r.run ts) (r'.run us) := by
  induction ts generalizing r r' with
  | nil => exact ⟨[], by simp, rfl, h⟩
  | cons t ts ih =>
    -- a silent call is spelled out as polls, all other traffic as itself
    have hstep : ∃ us, (∀ u ∈ us, u.isSilent = false) ∧
        us.filter (!·.isCall) = [t].filter (!·.isCall) ∧
        SameButLosses (r.step t) (r'.run us) := by
      have hsilent : ∃ us, (∀ u ∈ us, u.isSilent = false) ∧
          us.filter (!·.isCall) = [] ∧
          SameButLosses (r.answer (r.subscription.receive r.bus)) (r'.run us) := by
        obtain ⟨us, hus, hsame⟩ := h.silent
        refine ⟨us, fun u hu => by rw [hus u hu]; rfl, ?_, hsame⟩
        exact List.filter_eq_nil_iff.mpr fun u hu => by rw [hus u hu]; simp [Traffic.isCall]
      cases ht : t.isSilent with
      | false => exact ⟨[t], by simpa using ht, rfl, h.spoken ht⟩
      | true =>
        cases t with
        | receive => exact hsilent
        | receiveWithin limit =>
          obtain ⟨us, hus, hnone, hsame⟩ := hsilent
          refine ⟨us, hus, hnone, ?_⟩
          rwa [Reception.step, r.subscription.receiveWithin_eq r.bus limit]
        | _ => cases ht
    obtain ⟨us, hus, haround, hsame⟩ := hstep
    obtain ⟨vs, hvs, haround', hsame'⟩ := ih hsame
    refine ⟨us ++ vs, ?_, ?_, ?_⟩
    · intro u hu
      rcases List.mem_append.mp hu with hu | hu
      · exact hus u hu
      · exact hvs u hu
    · rw [List.filter_append, haround, haround', ← List.filter_append]
      rfl
    · rw [Reception.run_append]
      exact hsame'

/-! ## All events -/

/-- At the new place nothing is outstanding, and none of the events that were kept was wanted. -/
structure Reception.Exhausted (r : Reception) (filter : Filter) (s' : Subscription) : Prop where
  outstanding : r.bus.since s'.next = []
  unwanted : ∀ e ∈ r.bus.since (max r.subscription.next r.bus.oldest), filter.accepts e = false

namespace Subscription

/-- Who gets nothing had nothing lost, and learns whether more may come. -/
theorem nothing_polled (h : s.Polled b (delivery, s'))
    (hn : delivery = .pending ∨ delivery = .closed) :
    b.oldest ≤ s.next ∧ (delivery = .closed ↔ b.isClosed = true) := by
  cases h with
  | lagged => rcases hn with hn | hn <;> cases hn
  | event => rcases hn with hn | hn <;> cases hn
  | pending hold _ hopen => exact ⟨hold, by simp [hopen]⟩
  | closed hold _ hclosed => exact ⟨hold, by simp [hclosed]⟩

/-- A loss is reported just when more events are outstanding than are kept. -/
theorem lagged_iff {missed : Nat} : (s.poll b).1 = .lagged missed ↔
    b.ringSize < (b.since s.next).length ∧ missed + b.ringSize = (b.since s.next).length := by
  have hlen := b.length_since s.next
  have hold : b.oldest = b.published - b.ringSize := rfl
  constructor
  · intro h
    have hpoll := s.poll_polled b
    generalize s.poll b = answer at h hpoll
    cases hpoll with
    | lagged hlt =>
      have hmissed : b.oldest - s.next = missed := by simpa using h
      omega
    | event => cases h
    | pending => cases h
    | closed => cases h
  · rintro ⟨hlt, hmissed⟩
    have hnext : s.next < b.oldest := by omega
    have hcount : b.oldest - s.next = missed := by omega
    rw [poll, if_pos hnext, hcount]

end Subscription

namespace Reception

/-- A subscriber without a next event has none ahead, and it is told the end exactly when the bus is
closed. -/
theorem exhausted_polled (hf : r.subscription.filter = filter)
    (h : r.subscription.Polled r.bus (delivery, s'))
    (hn : delivery = .pending ∨ delivery = .closed) :
    r.Exhausted filter s' ∧ (delivery = .closed ↔ r.bus.isClosed = true) := by
  obtain ⟨hold, hclosed⟩ := Subscription.nothing_polled h hn
  obtain ⟨hunwanted, hend⟩ := Subscription.nothing_of_polled h hn
  refine ⟨⟨hend, ?_⟩, hclosed⟩
  rw [Nat.max_eq_left hold, ← hf]
  exact hunwanted

/-- Who passes over a loss and then gets nothing has lost all that was wanted. -/
theorem exhausted_received (hf : r.subscription.filter = filter)
    (h : r.subscription.receive r.bus = (delivery, s'))
    (hn : delivery = .pending ∨ delivery = .closed) :
    r.Exhausted filter s' ∧ (delivery = .closed ↔ r.bus.isClosed = true) := by
  rcases r.subscription.receive_cases r.bus with ⟨-, heq⟩ | ⟨missed, s₁, hlag, heq⟩
  · have hpoll := r.subscription.poll_polled r.bus
    rw [← heq, h] at hpoll
    exact exhausted_polled hf hpoll hn
  · -- the second poll is that of a receiver at the oldest event there is
    have hfirst := r.subscription.poll_polled r.bus
    rw [hlag] at hfirst
    have hsecond := s₁.poll_polled r.bus
    rw [← heq, h] at hsecond
    have hplace : s₁ = { r.subscription with next := r.bus.oldest } ∧
        r.subscription.next < r.bus.oldest := by
      cases hfirst with
      | lagged hlt => exact ⟨rfl, hlt⟩
    obtain ⟨rfl, hlt⟩ := hplace
    obtain ⟨hexhausted, hclosed⟩ :=
      exhausted_polled (r := ⟨r.bus, { r.subscription with next := r.bus.oldest }, []⟩) hf hsecond
        hn
    refine ⟨⟨hexhausted.outstanding, ?_⟩, hclosed⟩
    rw [Nat.max_eq_right (Nat.le_of_lt hlt)]
    simpa using hexhausted.unwanted

end Reception

/-- In the reception that the traffic leads to, the answers account for all events since the
receiver subscribed. -/
structure Accounted (b : Bus) (filter : Filter) (ts : List Traffic) (r : Reception) : Prop where
  /-- With word of losses, the events that are not outstanding were returned, skipped or lost, one
  after another, and the answers are what is reported of them. -/
  account : (∀ t ∈ ts, t.isSilent = false) → ∃ fates : List Fate,
    ts.filterMap Traffic.event? = fates.flatMap Fate.events ++ r.outstanding ∧
      (∀ fate ∈ fates, fate.Fits filter) ∧
      r.answers.filter Delivery.speaks = fates.filterMap Fate.report?
  /-- Other calls give the same answers on the same bus, but for word of losses. -/
  silent : ∃ us, (∀ u ∈ us, u.isSilent = false) ∧
    us.filter (!·.isCall) = ts.filter (!·.isCall) ∧
      SameButLosses r ((Reception.begin b filter).run us)
  lagged : ∀ missed, (r.subscription.poll r.bus).1 = .lagged missed ↔
    r.bus.ringSize < r.outstanding.length ∧ missed + r.bus.ringSize = r.outstanding.length
  /-- Nothing is there only when all events are accounted for, and nothing more will come only when
  the bus is closed as well. -/
  nothing : ∀ delivery s', delivery = .pending ∨ delivery = .closed →
    r.subscription.poll r.bus = (delivery, s') ∨ r.subscription.receive r.bus = (delivery, s') →
      r.Exhausted filter s' ∧ (delivery = .closed ↔ r.bus.isClosed = true)
  /-- A call with a limit is one without, and runs out of time only when nothing is there. -/
  within : ∀ limit, (r.subscription.receiveWithin r.bus limit).map Delivery.ofExcept id =
    r.subscription.receive r.bus
  timeout : ∀ limit limit' s', r.subscription.receiveWithin r.bus limit =
    (.error (.timeout limit'), s') → limit' = limit ∧ r.Exhausted filter s'

/-- A call that times out names its own limit. -/
theorem Subscription.limit_of_timeout {limit limit' : Duration}
    (h : s.receiveWithin b limit = (.error (.timeout limit'), s')) : limit' = limit := by
  unfold receiveWithin at h
  split at h <;> cases h <;> rfl

/-- **No event is lost without a report, none is returned twice or out of order**: whatever is
published and whoever comes and goes between the calls of a receiver, its answers account for all
events since it subscribed. -/
theorem accounted (b : Bus) (filter : Filter) (ts : List Traffic) :
    Accounted b filter ts ((Reception.begin b filter).run ts) := by
  -- silent calls are spelled out first, for the ledger knows polls only
  obtain ⟨us, hus, haround, hsame⟩ := spelled_run (r := .begin b filter) ⟨rfl, rfl, rfl⟩ ts
  obtain ⟨_, hledger⟩ := ledger_run (ledger_begin b filter) hus
  have hf : ((Reception.begin b filter).run ts).subscription.filter = filter := by
    rw [← hsame.subscription]
    exact hledger.filter
  generalize hr : (Reception.begin b filter).run ts = r at hsame hf
  exact {
    account := fun hts => by
      obtain ⟨fates, h⟩ := ledger_run (ledger_begin b filter) hts
      rw [hr] at h
      exact ⟨fates, h.events, h.fits, h.answers⟩
    silent := ⟨us, hus, haround, hsame⟩
    lagged := fun missed => Subscription.lagged_iff
    nothing := by
      rintro delivery s' hn (hpoll | hreceive)
      · have hpolled := r.subscription.poll_polled r.bus
        rw [hpoll] at hpolled
        exact Reception.exhausted_polled hf hpolled hn
      · exact Reception.exhausted_received hf hreceive hn
    within := fun limit => r.subscription.receiveWithin_eq r.bus limit
    timeout := fun limit limit' s' h => by
      have heq := r.subscription.receiveWithin_eq r.bus limit
      rw [h] at heq
      exact ⟨Subscription.limit_of_timeout h,
        (Reception.exhausted_received hf heq.symm (.inl rfl)).1⟩ }

/-- A receiver that wants templates only, on a bus that keeps two of the four events. -/
def overrun : List Traffic :=
  [.publish (.templateChanged none), .publish (.templateChanged (some .system)),
    .publish (.editingChanged true), .publish (.templateChanged (some .product)), .poll, .poll,
    .poll, .release, .poll]

/-- Both templates that were lost count as one loss, and edit mode is passed over without a word. -/
theorem accounted_overrun : ∃ fates : List Fate,
    [.templateChanged none, .templateChanged (some .system), .editingChanged true,
        .templateChanged (some .product)] = fates.flatMap Fate.events ∧
      (∀ fate ∈ fates, fate.Fits ⟨[.template], []⟩) ∧
      [.lagged 2, .event (.templateChanged (some .product))] =
        fates.filterMap Fate.report? := by
  have hspoken : ∀ t ∈ overrun, t.isSilent = false := by simp [overrun, Traffic.isSilent]
  obtain ⟨fates, hall, hfits, hanswers⟩ :=
    (accounted ⟨2, #[], .empty, 0, 1⟩ ⟨[.template], []⟩ overrun).account hspoken
  have hnone : ((Reception.begin ⟨2, #[], .empty, 0, 1⟩ ⟨[.template], []⟩).run
      overrun).outstanding = [] := List.isEmpty_iff.mp (by decide +kernel)
  have htold : ((Reception.begin ⟨2, #[], .empty, 0, 1⟩ ⟨[.template], []⟩).run overrun).answers =
      [.lagged 2, .event (.templateChanged (some .product)), .pending, .closed] := by
    have hring : Nat.nextPowerOfTwo 2 = 2 := by decide +kernel
    simp [overrun, Reception.begin, Reception.run, Reception.step, Reception.answer,
      Subscription.poll, Subscription.seek, Bus.publish, Bus.subscribe, Bus.release, Bus.oldest,
      Bus.ringSize, Bus.published, Bus.since, Bus.isClosed, hring, Filter.accepts,
      Filter.acceptsTopic, Filter.acceptsKey, FormEvent.topic, FormEvent.key?]
  rw [hnone, List.append_nil] at hall
  rw [htold] at hanswers
  exact ⟨fates, hall, hfits, hanswers⟩

end LivePatching
