import Mathlib.Tactic.Common
import LivePatching.Bus.Channel

/-!
# What a receiver gets

* `Bus.Hears`: a bus that was handed events.
* `Subscription.Polled`: a receiver that has lost events hears of it and goes on with the oldest
  event there is; else it gets the next event that its filter accepts, or there is none.
* `poll_polled`: **every poll is one of these.**
-/

namespace LivePatching

/-- The bus after the events were published, whoever came or went meanwhile. -/
structure Bus.Hears (b : Bus) (es : List FormEvent) (b' : Bus) : Prop where
  capacity : b'.capacity = b.capacity
  log : b'.log.toList = b.log.toList ++ es
  frame : b'.frame = es.foldl Frame.apply b.frame

namespace Bus

variable {b b' : Bus} {es : List FormEvent} {n : Nat}

theorem Hears.refl (b : Bus) : b.Hears [] b := ⟨rfl, (List.append_nil _).symm, rfl⟩

theorem Hears.trans {b'' : Bus} {fs : List FormEvent} (h : b.Hears es b') (h' : b'.Hears fs b'') :
    b.Hears (es ++ fs) b'' :=
  ⟨h'.capacity.trans h.capacity, by rw [h'.log, h.log, List.append_assoc],
    by rw [h'.frame, h.frame, List.foldl_append]⟩

/-- The bus hears what is published. -/
theorem hears_publish (b : Bus) (e : FormEvent) : b.Hears [e] (b.publish e) :=
  ⟨rfl, by simp [publish], rfl⟩

/-- Who comes or goes publishes nothing. -/
theorem hears_nothing {receivers holders : Nat} :
    b.Hears [] { b with receivers, holders } := ⟨rfl, (List.append_nil _).symm, rfl⟩

theorem published_eq (b : Bus) : b.published = b.log.toList.length := Array.length_toList.symm

/-- The events from a place on. -/
theorem since_eq (b : Bus) (n : Nat) : b.since n = b.log.toList.drop n := by
  rw [since, Array.toList_extract, List.extract_eq_take_drop]
  exact List.take_of_length_le (by simp)

/-- The number of events from a place on. -/
theorem length_since (b : Bus) (n : Nat) : (b.since n).length = b.published - n := by
  rw [since_eq, List.length_drop, published_eq]

theorem oldest_le (b : Bus) : b.oldest ≤ b.published := Nat.sub_le _ _

theorem since_of_published_le (h : b.published ≤ n) : b.since n = [] := by
  rw [since_eq]
  exact List.drop_eq_nil_of_le (by rwa [← published_eq])

/-- The bus forgets no event that was published. -/
theorem Hears.published_le (h : b.Hears es b') : b.published ≤ b'.published := by
  rw [published_eq, published_eq, h.log, List.length_append]
  omega

/-- Who has not passed the end gets the new events behind the others. -/
theorem Hears.since (h : b.Hears es b') (hn : n ≤ b.published) :
    b'.since n = b.since n ++ es := by
  rw [since_eq, since_eq, h.log, List.drop_append_of_le_length (by rwa [← published_eq])]

/-- Nobody gets anything but the events there were and the new ones. -/
theorem Hears.since_sublist (h : b.Hears es b') (n : Nat) :
    (b'.since n).Sublist (b.since n ++ es) := by
  rw [since_eq, since_eq, h.log, List.drop_append]
  exact (List.Sublist.refl _).append (List.drop_sublist _ _)

/-- Behind the first events from a place come the others. -/
theorem since_split {xs ys : List FormEvent} (h : b.since n = xs ++ ys) :
    b.since (n + xs.length) = ys := by
  rw [since_eq] at h ⊢
  rw [← List.drop_drop, h, List.drop_left]

/-- Behind an event are those that come after it. -/
theorem since_behind {skipped rest : List FormEvent} {e : FormEvent}
    (h : b.since n = skipped ++ e :: rest) : b.since (n + (skipped.length + 1)) = rest := by
  rw [List.append_cons] at h
  have hrest := since_split h
  rw [List.length_append, List.length_singleton] at hrest
  exact hrest

theorem since_drop {k : Nat} (h : n ≤ k) : ∃ xs, b.since n = xs ++ b.since k := by
  refine ⟨(b.since n).take (k - n), ?_⟩
  have hk : b.since k = (b.since n).drop (k - n) := by
    rw [since_eq, since_eq, List.drop_drop, show n + (k - n) = k by omega]
  rw [hk, List.take_append_drop]

end Bus

namespace Subscription

/-- What a poll gives. -/
inductive Polled (s : Subscription) (b : Bus) : Delivery × Subscription → Prop where
  | lagged : s.next < b.oldest →
      Polled s b (.lagged (b.oldest - s.next), { s with next := b.oldest })
  | event (skipped : List FormEvent) (e : FormEvent) (rest : List FormEvent) :
      b.oldest ≤ s.next → b.since s.next = skipped ++ e :: rest →
      (∀ x ∈ skipped, s.filter.accepts x = false) → s.filter.accepts e = true →
      Polled s b (.event e, { s with next := s.next + (skipped.length + 1) })
  | pending : b.oldest ≤ s.next → (∀ x ∈ b.since s.next, s.filter.accepts x = false) →
      b.isClosed = false →
      Polled s b (.pending, { s with next := s.next + (b.since s.next).length })
  | closed : b.oldest ≤ s.next → (∀ x ∈ b.since s.next, s.filter.accepts x = false) →
      b.isClosed = true →
      Polled s b (.closed, { s with next := s.next + (b.since s.next).length })

/-- The first event that the filter accepts, if there is one. -/
theorem seek_cases (f : Filter) (es : List FormEvent) (place : Nat) :
    (∃ skipped e rest, es = skipped ++ e :: rest ∧ (∀ x ∈ skipped, f.accepts x = false) ∧
        f.accepts e = true ∧ seek f es place = (some e, place + (skipped.length + 1))) ∨
      (∀ x ∈ es, f.accepts x = false) ∧ seek f es place = (none, place + es.length) := by
  induction es generalizing place with
  | nil => exact .inr ⟨fun x hx => absurd hx List.not_mem_nil, rfl⟩
  | cons e es ih =>
    -- the first event is returned, or it is skipped and the search goes on behind it
    by_cases he : f.accepts e = true
    · refine .inl ⟨[], e, es, rfl, fun x hx => absurd hx List.not_mem_nil, he, ?_⟩
      rw [seek, if_pos he]
      rfl
    · have hplace : ∀ k, place + 1 + k = place + (k + 1) := by omega
      rw [seek, if_neg he]
      rcases ih (place + 1) with ⟨skipped, e', rest, rfl, hs, he', h⟩ | ⟨hs, h⟩
      · refine .inl ⟨e :: skipped, e', rest, rfl, ?_, he', by rw [h, hplace]; rfl⟩
        intro x hx
        rcases List.mem_cons.mp hx with rfl | hx
        · simpa using he
        · exact hs x hx
      · refine .inr ⟨?_, by rw [h, hplace]; rfl⟩
        intro x hx
        rcases List.mem_cons.mp hx with rfl | hx
        · simpa using he
        · exact hs x hx

/-- **Every poll is one of these.** -/
theorem poll_polled (s : Subscription) (b : Bus) : Polled s b (s.poll b) := by
  unfold poll
  split
  · rename_i h
    exact .lagged h
  · rename_i h
    have hold : b.oldest ≤ s.next := Nat.le_of_not_lt h
    rcases seek_cases s.filter (b.since s.next) s.next with
      ⟨skipped, e, rest, hsplit, hs, he, hseek⟩ | ⟨hs, hseek⟩
    · rw [hseek]
      exact .event skipped e rest hold hsplit hs he
    · rw [hseek]
      cases hc : b.isClosed with
      | true => simpa [hc] using Polled.closed hold hs hc
      | false => simpa [hc] using Polled.pending hold hs hc

variable {s s' : Subscription} {b : Bus} {delivery : Delivery}

/-- A subscription keeps its filter. -/
theorem filter_of_polled (h : Polled s b (delivery, s')) : s'.filter = s.filter := by
  cases h <;> rfl

/-- A subscription never goes back. -/
theorem next_le_of_polled (h : Polled s b (delivery, s')) : s.next ≤ s'.next := by
  cases h with
  | lagged hlt => exact Nat.le_of_lt hlt
  | _ => exact Nat.le_add_right _ _

/-- A receiver only goes on, and not past the end. -/
theorem next_of_polled (h : Polled s b (delivery, s')) (hn : s.next ≤ b.published) :
    s.next ≤ s'.next ∧ s'.next ≤ b.published := by
  have hlen := b.length_since s.next
  refine ⟨next_le_of_polled h, ?_⟩
  cases h with
  | lagged => exact b.oldest_le
  | event skipped e rest _ hsplit =>
    rw [hsplit, List.length_append, List.length_cons] at hlen
    simp only
    omega
  | pending => simp only; omega
  | closed => simp only; omega

/-- Who gets nothing has heard all there is, and was waiting for none of it. -/
theorem nothing_of_polled (h : Polled s b (delivery, s'))
    (hn : delivery = .pending ∨ delivery = .closed) :
    (∀ x ∈ b.since s.next, s.filter.accepts x = false) ∧ b.since s'.next = [] := by
  have hend : b.since (s.next + (b.since s.next).length) = [] :=
    Bus.since_split (List.append_nil _).symm
  cases h with
  | lagged => rcases hn with hn | hn <;> cases hn
  | event => rcases hn with hn | hn <;> cases hn
  | pending _ hno => exact ⟨hno, hend⟩
  | closed _ hno => exact ⟨hno, hend⟩

end Subscription

end LivePatching
