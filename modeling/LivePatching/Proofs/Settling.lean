import LivePatching.Proofs.Status
import LivePatching.Proofs.Tracking

/-!
# Waiting for loads

A call that waits takes the loads that the controller keeps track of, and another call does not find
them there any more.

* `settling_step`: **only the steps of a call move the calls that wait**, each in one of three ways.
* `waiting_step`: a call that waits has waited for the same loads before, or has just taken all that
  were kept track of.
* `minded_run`: **a load that can still answer is kept track of, or a call that waits holds it, or a
  call that was given up held it.**
* `ended_run`: a call that goes on has its loads end, or it is given up.
* `settle_returns`: **which loads may be left when a call returns.**
* `settle_leaves_loads`: that none is left is not so.
-/

namespace LivePatching

open Json

namespace Session

variable {s s' : Session} {a : Action} {as : List Action} {call n : Nat} {q : Question}

/-! ## Calls that wait -/

/-- The call waits, and it holds the load. -/
def Holds (s : Session) (call n : Nat) : Prop :=
  ∃ held, s.settlings[call]? = some (.waiting held) ∧ n ∈ held

/-- The loads that a call holds that is given up. -/
def givenUp (s : Session) : Action → Option (List Nat)
  | .abandonSettling call =>
    match s.settlings[call]? with
    | some (.waiting held) => some held
    | _ => none
  | _ => none

/-- What a step can do to the calls that wait. -/
inductive SettlingStep (s : Session) (a : Action) (s' : Session) : Prop where
  | apart : s.turn a ≠ .untrack → s'.settlings = s.settlings → SettlingStep s a s'
  | begun : a = .settle → s' = s.settle → SettlingStep s a s'
  /-- The loads that the call holds are over, and it takes those kept track of. -/
  | resumed (call : Nat) (held : List Nat) : s.settlings[call]? = some (.waiting held) →
      held.all s.isOver = true →
      s' = { s.untrack with settlings := s.settlings.set call s.takeTracked.2 } →
      SettlingStep s a s'
  | givenUp (call : Nat) (held : List Nat) : s.settlings[call]? = some (.waiting held) →
      s.givenUp a = some held → s' = { s with settlings := s.settlings.set call .abandoned } →
      SettlingStep s a s'

theorem settlings_release (s : Session) : s.release.settlings = s.settlings := by
  unfold release
  simp only
  split
  · exact (sameBooks_take { s with holders := s.holders - 1 } .tearDown).settlings
  · rfl

theorem settlings_endDrive (s : Session) (loop : Nat) (d : Drive) :
    (s.endDrive loop d).settlings = s.settlings := settlings_release _

theorem settlings_renderInDrive (s : Session) (loop : Nat) (d : Drive) :
    (s.renderInDrive loop d).settlings = s.settlings := by
  have hbooks := (sameBooks_take s (s.renderTurn d.props)).settlings
  rcases renderInDrive_cases s loop d with ⟨-, h⟩ | ⟨-, h⟩
  · rw [h]; exact hbooks
  · rw [h]; exact hbooks

/-- A loop does not touch the calls that wait. -/
theorem settlings_continueDrive (s : Session) (loop : Nat) (eventFirst : Bool) :
    (s.continueDrive loop eventFirst).settlings = s.settlings := by
  cases hd : s.drives[loop]? with
  | none => simp only [continueDrive, hd]
  | some d =>
    have h := continueDrive_step hd eventFirst
    generalize s.continueDrive loop eventFirst = s' at h ⊢
    cases h with
    | ended => rfl
    | start => exact settlings_renderInDrive s loop _
    | stop => exact settlings_endDrive s loop _
    | event => exact settlings_renderInDrive s loop _
    | lagged => exact settlings_renderInDrive s loop _
    | closed => exact settlings_endDrive s loop _
    | pending => rfl

/-- A render does not let go of loads. -/
theorem renderTurn_ne (s : Session) (p : Props) : s.renderTurn p ≠ .untrack := by
  rcases renderTurn_cases s p with h | ⟨t, h⟩
  · rw [h]; simp
  · rw [h]; simp

/-- **Only the steps of a call move the calls that wait.** -/
theorem settling_step (s : Session) (a : Action) : SettlingStep s a (s.step a) := by
  -- everything but these calls leaves their books alone
  have htake := (sameBooks_take s (s.turn a)).settlings
  cases a with
  | settle => exact .begun rfl rfl
  | continueSettling call =>
    simp only [step, continueSettling]
    rcases hs : s.settlings[call]? with _ | (held | _ | _)
    · exact .apart (by simp [turn, hs]) rfl
    · by_cases hover : held.all s.isOver = true
      · simp only [hover, if_true]
        exact .resumed call held hs hover rfl
      · simp only [hover]
        exact .apart (by simp [turn, hs, hover]) rfl
    · exact .apart (by simp [turn, hs]) rfl
    · exact .apart (by simp [turn, hs]) rfl
  | abandonSettling call =>
    simp only [step, abandonSettling]
    rcases hs : s.settlings[call]? with _ | (held | _ | _)
    · exact .apart (by simp [turn]) rfl
    · exact .givenUp call held hs (by simp only [Session.givenUp, hs]) rfl
    · exact .apart (by simp [turn]) rfl
    · exact .apart (by simp [turn]) rfl
  | render p => exact .apart (renderTurn_ne s p) (by rw [step, render_eq_take]; exact htake)
  | release =>
    refine .apart ?_ (settlings_release s)
    rcases releaseTurn_cases s with h | h
    · rw [turn, h]; simp
    · rw [turn, h]; simp
  | continueDrive loop eventFirst =>
    refine .apart ?_ (settlings_continueDrive s loop eventFirst)
    rcases continueDrive_turn s loop eventFirst with ⟨p, -, h⟩ | h | h
    · rw [h]; exact renderTurn_ne s p
    · rw [h]; simp
    · rw [h]; simp
  | _ => exact .apart (by simp [turn]) htake

/-- A call waits when there is a load to wait for. -/
theorem takeTracked_of_mem (h : n ∈ s.tracked) : s.takeTracked.2 = .waiting s.tracked := by
  rw [takeTracked, List.isEmpty_eq_false_iff.mpr (List.ne_nil_of_mem h)]
  rfl

theorem eq_tracked {held : List Nat} (h : s.takeTracked.2 = .waiting held) : held = s.tracked := by
  unfold takeTracked at h
  simp only at h
  split at h
  · cases h
  · cases h
    rfl

/-- A call that finds all its loads over has none left to wait for. -/
theorem not_live_of_all {held : List Nat} (hover : held.all s.isOver = true) (hn : n ∈ held) :
    ¬ Live s.loads n q := by
  intro hl
  have hnot := not_isOver_of_live hl
  rw [List.all_eq_true.mp hover n hn] at hnot
  cases hnot

theorem Holds.lt_length (h : s.Holds call n) : call < s.settlings.length := by
  obtain ⟨held, hcall, -⟩ := h
  exact (List.getElem?_eq_some_iff.mp hcall).1

/-- A call holds on as long as nothing else comes to its place. -/
theorem Holds.congr (h : s.Holds call n) (hs : s'.settlings[call]? = s.settlings[call]?) :
    s'.Holds call n := by
  obtain ⟨held, hcall, hn⟩ := h
  exact ⟨held, hs.trans hcall, hn⟩

/-- A call begins with all that is kept track of. -/
theorem holds_settle (h : n ∈ s.tracked) : s.settle.Holds s.settlings.length n := by
  have hlast : s.settle.settlings[s.settlings.length]? = some s.takeTracked.2 :=
    List.getElem?_concat_length
  exact ⟨s.tracked, by rw [hlast, takeTracked_of_mem h], h⟩

/-- **A call that waits after a step has waited for the same loads before**, or it has taken all
that were kept track of: it has just begun, or it goes on with what has come up meanwhile. -/
theorem waiting_step {held : List Nat}
    (h : (s.step a).settlings[call]? = some (.waiting held)) :
    s.settlings[call]? = some (.waiting held) ∨ held = s.tracked ∧
      (a = .settle ∧ call = s.settlings.length ∨
        ∃ held', s.settlings[call]? = some (.waiting held')) := by
  -- a place in the list of calls is filled when a call begins, or when one goes on or is given up
  cases settling_step s a with
  | apart _ hs => exact .inl (hs ▸ h)
  | begun ha he =>
    rw [he] at h
    rcases Nat.lt_trichotomy call s.settlings.length with hlt | rfl | hgt
    · exact .inl ((List.getElem?_append_left hlt).symm.trans h)
    · have hlast : s.settle.settlings[s.settlings.length]? = some s.takeTracked.2 :=
        List.getElem?_concat_length
      exact .inr ⟨eq_tracked (Option.some.inj (hlast.symm.trans h)), .inl ⟨ha, rfl⟩⟩
    · have hlen : s.settle.settlings.length = s.settlings.length + 1 := List.length_append
      have hcall := (List.getElem?_eq_some_iff.mp h).1
      omega
  | resumed call' held' hcall' _ he =>
    rw [he] at h
    by_cases hne : call' = call
    · subst hne
      rw [List.getElem?_set_self (List.getElem?_eq_some_iff.mp hcall').1] at h
      exact .inr ⟨eq_tracked (Option.some.inj h), .inr ⟨held', hcall'⟩⟩
    · rw [List.getElem?_set_ne hne] at h
      exact .inl h
  | givenUp call' held' hcall' _ he =>
    rw [he] at h
    by_cases hne : call' = call
    · subst hne
      rw [List.getElem?_set_self (List.getElem?_eq_some_iff.mp hcall').1] at h
      cases h
    · rw [List.getElem?_set_ne hne] at h
      exact .inl h

/-- A call comes to hold what was kept track of, and nothing else. -/
theorem holds_step (h : (s.step a).Holds call n) : s.Holds call n ∨ n ∈ s.tracked := by
  obtain ⟨held, hcall, hn⟩ := h
  rcases waiting_step hcall with hbefore | ⟨rfl, -⟩
  · exact .inl ⟨held, hbefore, hn⟩
  · exact .inr hn

/-! ## What is minded -/

/-- What every session keeps that a mounted sub-form comes to. -/
structure Minding (s : Session) : Prop where
  coherent : Coherent s
  keyed : Keyed s
  tracked : ∀ n ∈ s.tracked, n < s.loads.length
  held : ∀ call n, s.Holds call n → n < s.loads.length

/-- A sub-form just mounted has nothing to mind. -/
theorem minding_mount (form : Form) (context : Context) (policy : StalePolicy) :
    Minding (mount form context policy) where
  coherent := coherent_mount form context policy
  keyed := keyed_of_none rfl
  tracked _ hn := absurd hn List.not_mem_nil
  held call _ h := absurd h.lt_length (Nat.not_lt_zero call)

/-- Only who waits takes loads out of sight. -/
theorem Minding.keeps (h : Minding s) (ha : s.turn a ≠ .untrack) : Keeps s (s.step a) := by
  obtain ⟨bus, settlings, drives, holders, he⟩ := step_eq s a
  have hkeeps := keeps_take h.coherent h.keyed ha
  rw [he]
  exact { hkeeps with }

/-- Loads are only issued; those kept track of are there, and none comes back. -/
theorem Minding.grows (h : Minding s) (a : Action) :
    s.loads.length ≤ (s.step a).loads.length ∧
      (∀ n ∈ (s.step a).tracked, n < (s.step a).loads.length) ∧
      ∀ n q, Live (s.step a).loads n q → Live s.loads n q ∨ s.loads.length ≤ n := by
  cases settling_step s a with
  | apart ha _ =>
    have hkeeps := h.keeps ha
    exact ⟨hkeeps.grows, hkeeps.known h.tracked, hkeeps.born⟩
  | begun _ he =>
    rw [he]
    exact ⟨Nat.le_refl _, fun _ hn => absurd hn List.not_mem_nil, fun _ _ hl => .inl hl⟩
  | resumed _ _ _ _ he =>
    rw [he]
    exact ⟨Nat.le_refl _, fun _ hn => absurd hn List.not_mem_nil, fun _ _ hl => .inl hl⟩
  | givenUp _ _ _ _ he =>
    rw [he]
    exact ⟨Nat.le_refl _, h.tracked, fun n q hl => .inl hl⟩

/-- A step keeps everything in mind. -/
theorem Minding.step (h : Minding s) (a : Action) : Minding (s.step a) := by
  obtain ⟨hlen, htracked, -⟩ := h.grows a
  refine ⟨coherent_step h.coherent a, ?_, htracked, fun call n hn => ?_⟩
  · obtain ⟨bus, settlings, drives, holders, he⟩ := step_eq s a
    rw [he]
    exact h.keyed.take (s.turn a)
  · rcases holds_step hn with hn | hn
    · have hlt := h.held call n hn
      omega
    · have hlt := h.tracked n hn
      omega

/-- Everything stays in mind. -/
theorem minding_run (h : Minding s) (as : List Action) : Minding (s.run as) := by
  induction as generalizing s with
  | nil => exact h
  | cons a as ih => exact ih (h.step a)

/-- The load is kept track of, or a call that waits holds it. -/
def Minded (s : Session) (n : Nat) : Prop := n ∈ s.tracked ∨ ∃ call, s.Holds call n

/-- **A load that can still answer stays minded**, unless the call that holds it is given up. -/
theorem Minding.minded_step (h : Minding s) (hl : Live (s.step a).loads n q) :
    (s.step a).Minded n ∨ (∃ held, s.givenUp a = some held ∧ n ∈ held) ∨
      Live s.loads n q ∧ ¬ s.Minded n := by
  -- whatever was out of sight before stays so; all else is found where the step puts it
  by_cases hlost : Live s.loads n q ∧ ¬ s.Minded n
  · exact .inr (.inr hlost)
  have hminded : Live s.loads n q → s.Minded n := by
    intro hbefore
    by_contra hno
    exact hlost ⟨hbefore, hno⟩
  cases settling_step s a with
  | apart ha hs =>
    rcases (h.keeps ha).live n q hl with ht | ⟨hbefore, hnt⟩
    · exact .inl (.inl ht)
    · obtain ⟨call, hcall⟩ := (hminded hbefore).resolve_left hnt
      exact .inl (.inr ⟨call, hcall.congr (by rw [hs])⟩)
  | begun _ he =>
    rw [he] at hl ⊢
    rcases hminded hl with ht | ⟨call, hcall⟩
    · exact .inl (.inr ⟨s.settlings.length, holds_settle ht⟩)
    · exact .inl (.inr ⟨call, hcall.congr (List.getElem?_append_left hcall.lt_length)⟩)
  | resumed call' held' hcall' hover he =>
    rw [he] at hl ⊢
    rcases hminded hl with ht | ⟨call, hcall⟩
    · have hself : (s.settlings.set call' s.takeTracked.2)[call']? = some s.takeTracked.2 :=
        List.getElem?_set_self (List.getElem?_eq_some_iff.mp hcall').1
      exact .inl (.inr ⟨call', s.tracked, by rw [← takeTracked_of_mem ht]; exact hself, ht⟩)
    · -- the call that goes on holds nothing that can still answer
      have hne : call' ≠ call := by
        rintro rfl
        obtain ⟨held, hcall, hn⟩ := hcall
        rw [hcall'] at hcall
        cases hcall
        exact not_live_of_all hover hn hl
      exact .inl (.inr ⟨call, hcall.congr (List.getElem?_set_ne hne)⟩)
  | givenUp call' held' hcall' hg he =>
    rw [he] at hl ⊢
    rcases hminded hl with ht | ⟨call, hcall⟩
    · exact .inl (.inl ht)
    · by_cases hne : call' = call
      · subst hne
        obtain ⟨held, hcall, hn⟩ := hcall
        rw [hcall'] at hcall
        cases hcall
        exact .inr (.inl ⟨held', hg, hn⟩)
      · exact .inl (.inr ⟨call, hcall.congr (List.getElem?_set_ne hne)⟩)

/-- A live load is minded, or it was held by a call that was given up. -/
theorem minded_run (h : Minding s) (hall : ∀ n q, Live s.loads n q → s.Minded n)
    (hl : Live (s.run as).loads n q) :
    (s.run as).Minded n ∨ ∃ held ∈ s.collect givenUp as, n ∈ held := by
  -- from the last step back to the one that gave the load up
  induction as using List.reverseRecOn with
  | nil => exact .inl (hall n q hl)
  | append_singleton as a ih =>
    rw [run_concat] at hl ⊢
    rw [collect_concat]
    rcases (minding_run h as).minded_step hl with hminded | ⟨held, hg, hn⟩ | ⟨hbefore, hnot⟩
    · exact .inl hminded
    · exact .inr ⟨held, List.mem_append_right _ (Option.mem_toList.mpr hg), hn⟩
    · obtain ⟨held, hheld, hn⟩ := (ih hbefore).resolve_left hnot
      exact .inr ⟨held, List.mem_append_left _ hheld, hn⟩

/-! ## What a call has taken -/

/-- The load was issued and cannot answer any more. -/
def Ended (s : Session) (n : Nat) : Prop := n < s.loads.length ∧ ∀ q, ¬ Live s.loads n q

theorem Minding.ended_step (h : Minding s) (hn : s.Ended n) : (s.step a).Ended n := by
  obtain ⟨hlen, -, hborn⟩ := h.grows a
  obtain ⟨hlt, hdead⟩ := hn
  refine ⟨by omega, fun q hl => ?_⟩
  rcases hborn n q hl with hl | hge
  · exact hdead q hl
  · omega

/-- A call that was given up stays so. -/
theorem abandoned_step (h : s.settlings[call]? = some .abandoned) :
    (s.step a).settlings[call]? = some .abandoned := by
  have hlt : call < s.settlings.length := (List.getElem?_eq_some_iff.mp h).1
  have hne : ∀ {other held}, s.settlings[other]? = some (.waiting held) → other ≠ call := by
    rintro _ held hother rfl
    rw [h] at hother
    cases hother
  cases settling_step s a with
  | apart _ hs => rw [hs, h]
  | begun _ he => rw [he]; exact (List.getElem?_append_left hlt).trans h
  | resumed _ _ hcall _ he => rw [he]; exact (List.getElem?_set_ne (hne hcall)).trans h
  | givenUp _ _ hcall _ he => rw [he]; exact (List.getElem?_set_ne (hne hcall)).trans h

/-- A call goes on with the loads it holds, or they are over, or it is given up. -/
theorem Minding.holds_step (h : Minding s) (hn : s.Holds call n) :
    (s.step a).Holds call n ∨ (s.step a).Ended n ∨
      (s.step a).settlings[call]? = some .abandoned := by
  cases settling_step s a with
  | apart _ hs => exact .inl (hn.congr (by rw [hs]))
  | begun _ he => rw [he]; exact .inl (hn.congr (List.getElem?_append_left hn.lt_length))
  | resumed call' held' hcall' hover he =>
    rw [he]
    by_cases hne : call' = call
    · subst hne
      -- the call goes on, so all that it held is over
      have hlt := h.held call' n hn
      obtain ⟨held, hcall, hmem⟩ := hn
      rw [hcall'] at hcall
      cases hcall
      exact .inr (.inl ⟨hlt, fun q => not_live_of_all hover hmem⟩)
    · exact .inl (hn.congr (List.getElem?_set_ne hne))
  | givenUp call' held' hcall' _ he =>
    rw [he]
    by_cases hne : call' = call
    · subst hne
      exact .inr (.inr (List.getElem?_set_self hn.lt_length))
    · exact .inl (hn.congr (List.getElem?_set_ne hne))

theorem ended_run (h : Minding s) (hn : s.Holds call n ∨ s.Ended n ∨
      s.settlings[call]? = some .abandoned) : (s.run as).Holds call n ∨ (s.run as).Ended n ∨
      (s.run as).settlings[call]? = some .abandoned := by
  induction as generalizing s with
  | nil => exact hn
  | cons a as ih =>
    refine ih (h.step a) ?_
    rcases hn with hn | hn | hn
    · exact h.holds_step hn
    · exact .inr (.inl (h.ended_step hn))
    · exact .inr (.inr (abandoned_step hn))

/-! ## What is left when a call returns -/

/-- A call returns when there is nothing left to take. -/
theorem tracked_of_returned (hbefore : s.settlings[call]? ≠ some .returned)
    (hafter : (s.step a).settlings[call]? = some .returned) : (s.step a).tracked = [] := by
  cases settling_step s a with
  | apart _ hs => exact absurd (hs ▸ hafter) hbefore
  | begun _ he => rw [he]; rfl
  | resumed _ _ _ _ he => rw [he]; rfl
  | givenUp call' _ hcall' _ he =>
    rw [he] at hafter
    by_cases hne : call' = call
    · subst hne
      rw [List.getElem?_set_self (List.getElem?_eq_some_iff.mp hcall').1] at hafter
      cases hafter
    · rw [List.getElem?_set_ne hne] at hafter
      exact absurd hafter hbefore

/-- A load that is not over is aborted, or it can still answer. -/
theorem over_or_live {l : Load} (h : s.loads[n]? = some l) :
    l.stage.isOver = true ∨ (∃ asked, l.stage = .aborted asked) ∨ Live s.loads n l.question := by
  obtain ⟨q, stage⟩ := l
  cases stage with
  | queued => exact .inr (.inr ⟨_, h, rfl⟩)
  | running => exact .inr (.inr ⟨_, h, rfl⟩)
  | finished => exact .inl rfl
  | aborted asked => exact .inr (.inl ⟨asked, rfl⟩)
  | dropped asked => exact .inl rfl

/-- **When a call returns, a load that is left unfinished is aborted, or another call that waits
holds it, or a call that was given up held it.** None of those that the call has taken is left; and
if it waits alone and none was given up, only aborted ones are. -/
theorem settle_returns (form : Form) (context : Context) (policy : StalePolicy) (as : List Action)
    (a : Action) (call : Nat) :
    let s₀ := mount form context policy
    let s := s₀.run (as ++ [a])
    (s₀.run as).settlings[call]? ≠ some .returned → s.settlings[call]? = some .returned →
    (∀ (n : Nat) (l : Load), s.loads[n]? = some l →
      l.stage.isOver = true ∨ (∃ asked, l.stage = .aborted asked) ∨
        (∃ other, other ≠ call ∧ s.Holds other n) ∨
        ∃ held ∈ s₀.collect givenUp (as ++ [a]), n ∈ held) ∧
    (∀ xs ys n, as ++ [a] = xs ++ ys → (s₀.run xs).Holds call n → s.Ended n) ∧
    ((∀ other n, ¬ s.Holds other n) → s₀.collect givenUp (as ++ [a]) = [] →
      ∀ (n : Nat) (l : Load), s.loads[n]? = some l →
        l.stage.isOver = true ∨ ∃ asked, l.stage = .aborted asked) := by
  intro s₀ s hbefore hafter
  have hmount : Minding s₀ := minding_mount form context policy
  have hnone : ∀ n q, Live s₀.loads n q → s₀.Minded n := fun n q hl =>
    absurd hl.lt_length (Nat.not_lt_zero n)
  -- when a call returns, the controller keeps track of no load
  have htracked : s.tracked = [] := by
    have hs : s = (s₀.run as).step a := run_concat s₀ as a
    rw [hs] at hafter ⊢
    exact tracked_of_returned hbefore hafter
  -- so what can still answer is held by another call, or was given up with one
  have hleft : ∀ (n : Nat) (l : Load), s.loads[n]? = some l →
      l.stage.isOver = true ∨ (∃ asked, l.stage = .aborted asked) ∨
      (∃ other, other ≠ call ∧ s.Holds other n) ∨
      ∃ held ∈ s₀.collect givenUp (as ++ [a]), n ∈ held := by
    intro n l hl
    rcases over_or_live hl with hover | habort | hlive
    · exact .inl hover
    · exact .inr (.inl habort)
    · rcases minded_run hmount hnone hlive with (hn | ⟨other, hn⟩) | hlost
      · rw [htracked] at hn
        cases hn
      · refine .inr (.inr (.inl ⟨other, ?_, hn⟩))
        rintro rfl
        obtain ⟨held, hcall, -⟩ := hn
        rw [hafter] at hcall
        cases hcall
      · exact .inr (.inr (.inr hlost))
  refine ⟨hleft, fun xs ys n hxs hn => ?_, fun halone hkept n l hl => ?_⟩
  · -- the call goes on holding a load until the load has ended or the call is given up
    have hs : s = (s₀.run xs).run ys := by rw [← run_append, ← hxs]
    have hend : ((s₀.run xs).run ys).Holds call n ∨ ((s₀.run xs).run ys).Ended n ∨
        ((s₀.run xs).run ys).settlings[call]? = some .abandoned :=
      ended_run (minding_run hmount xs) (.inl hn)
    rw [← hs] at hend
    rcases hend with ⟨held, hcall, -⟩ | hend | hcall
    · rw [hafter] at hcall
      cases hcall
    · exact hend
    · rw [hafter] at hcall
      cases hcall
  · rcases hleft n l hl with hover | habort | ⟨other, -, hother⟩ | ⟨held, hheld, -⟩
    · exact .inl hover
    · exact .inr habort
    · exact absurd hother (halone other n)
    · rw [hkept] at hheld
      cases hheld

/-- A call waits for the loads of client 1, and a second one for that of client 2, which has
answered. -/
def twoCalls : List Action :=
  [.render ⟨some .system, false⟩, .start 2, .settle, .write 0 "clientId" (.ofNat 2),
    .render ⟨some .system, false⟩, .settle, .start 3, .answerKernels 3 (.ok [])]

theorem settle_returns_twoCalls :
    let s := (mount oneClient (.shared 0) .ignore).run (twoCalls ++ [.continueSettling 1])
    s.settlings = [.waiting [0, 1, 2], .returned] ∧ s.Ended 3 ∧
      Live s.loads 2 (.kernels ⟨1, some (.client ⟨1⟩)⟩ (.client ⟨1⟩)) ∧
      ∃ other, other ≠ 1 ∧ s.Holds other 2 := by
  intro s
  have hsettlings : s.settlings = [.waiting [0, 1, 2], .returned] := by decide +kernel
  have hload : s.loads[2]? = some ⟨.kernels ⟨1, some (.client ⟨1⟩)⟩ (.client ⟨1⟩), .running⟩ := by
    decide +kernel
  have hafter : s.settlings[1]? = some .returned := by rw [hsettlings]; rfl
  have hbefore : ((mount oneClient (.shared 0) .ignore).run twoCalls).settlings[1]? ≠
      some .returned := by decide +kernel
  have hkept : (mount oneClient (.shared 0) .ignore).collect givenUp
      (twoCalls ++ [.continueSettling 1]) = [] := by decide +kernel
  obtain ⟨hleft, htaken, -⟩ := settle_returns oneClient (.shared 0) .ignore twoCalls
    (.continueSettling 1) 1 hbefore hafter
  -- the second call began with the load that was issued after the first
  have hheld : ((mount oneClient (.shared 0) .ignore).run (twoCalls.take 6)).Holds 1 3 :=
    ⟨[3], by decide +kernel, by decide⟩
  refine ⟨hsettlings, htaken (twoCalls.take 6) _ 3 rfl hheld, ⟨_, hload, rfl⟩, ?_⟩
  rcases hleft 2 _ hload with hover | ⟨asked, habort⟩ | hother | ⟨held, hheld, -⟩
  · cases hover
  · cases habort
  · exact hother
  · rw [hkept] at hheld
    cases hheld

/-- The request of the load was made and has not been given up. -/
def InFlight (s : Session) (n : Nat) : Prop :=
  ∃ l, s.loads[n]? = some l ∧ (l.stage = .running ∨ l.stage = .aborted true)

/-- A second call finds nothing to take and returns while the loads that the first one took go on;
and a load that was aborted is not waited for by any call. -/
theorem settle_leaves_loads :
    (¬ ∀ (form : Form) (context : Context) (policy : StalePolicy) (xs ys : List Action),
      let s := (mount form context policy).run xs
      let s' := s.run (.settle :: ys)
      s'.settlings[s.settlings.length]? = some .returned →
      ∀ n q, n < s.loads.length → ¬ Live s'.loads n q) ∧
    ¬ ∀ (form : Form) (context : Context) (policy : StalePolicy) (xs ys : List Action),
      let s := (mount form context policy).run xs
      let s' := s.run (.settle :: ys)
      s.settlings = [] →
      s'.settlings[s.settlings.length]? = some .returned →
      ∀ n, n < s.loads.length → ¬ s'.InFlight n := by
  constructor
  · intro h
    refine h oneClient (.shared 0) .cancel [.render ⟨some .system, false⟩, .start 2, .settle] []
      (by decide +kernel) 2 (.kernels ⟨1, some (.client ⟨1⟩)⟩ (.client ⟨1⟩)) (by decide +kernel) ?_
    exact ⟨.running, by decide +kernel, rfl⟩
  · intro h
    -- the load of client 1 has asked when the form turns to no client
    refine h oneClient (.shared 0) .cancel
      [.render ⟨some .system, false⟩, .start 0, .answerClients 0 (.ok []), .start 1,
        .answerProducts 1 (.ok []), .start 2, .write 0 "clientId" .null,
        .render ⟨some .system, false⟩] []
      rfl (by decide +kernel) 2 (by decide +kernel) ?_
    exact ⟨⟨.kernels ⟨1, some (.client ⟨1⟩)⟩ (.client ⟨1⟩), .aborted true⟩, by decide +kernel,
      .inr rfl⟩

end Session

end LivePatching
