import LivePatching.Proofs.KernelStep

/-!
# The controller stays coherent

`Coherent` ties the key, the inputs and the status of the controller to the loads of kernels:

* the key is that of the inputs and of the last generation;
* the status speaks of the scope of the inputs, and kernels are listed only when it is ready;
* each key is asked with by one load, and the status is loading as long as the load of the current
  key can answer.

`coherent_run`: **every session that a mounted sub-form comes to is coherent.**
-/

namespace LivePatching

namespace Session

/-- The key, the scope, the status, the kernels and the loads of a session agree. -/
structure Coherent (s : Session) : Prop where
  current : s.controller.tornDown = false → s.controller.current =
    s.controller.inputs.map fun i => ⟨s.controller.generation, i.scope⟩
  torn : s.controller.tornDown = true → s.controller.current = none
  status : s.controller.snapshot.status.scope? = s.controller.inputs.bind Inputs.scope
  kernels : (∀ x, s.controller.snapshot.status ≠ .ready x) → s.controller.snapshot.kernels = []
  keys : ∀ n key x, Asks s.loads n (.kernels key x) →
    key.generation ≤ s.controller.generation ∧ key.scope = some x
  unique : ∀ n n' key x x', Asks s.loads n (.kernels key x) →
    Asks s.loads n' (.kernels key x') → n = n'
  loading : s.controller.tornDown = false → ∀ x, s.controller.snapshot.status = .loading x →
    ∃ n key, Live s.loads n (.kernels key x) ∧ s.controller.current = some key
  waiting : ∀ n key x, Live s.loads n (.kernels key x) → s.controller.current = some key →
    s.controller.snapshot.status = .loading x

variable {s s' : Session}

/-- The inputs of the current key. -/
theorem Coherent.inputs_of_current (h : Coherent s) {key : RequestKey}
    (hk : s.controller.current = some key) : s.controller.tornDown = false ∧
      ∃ i, s.controller.inputs = some i ∧ key = ⟨s.controller.generation, i.scope⟩ := by
  cases ht : s.controller.tornDown with
  | true => rw [h.torn ht] at hk; cases hk
  | false =>
    have hc := h.current ht
    rw [hk] at hc
    obtain ⟨i, hi, he⟩ := Option.map_eq_some_iff.mp hc.symm
    exact ⟨rfl, i, hi, he.symm⟩

theorem Coherent.inputs_ne_none (h : Coherent s) {key : RequestKey}
    (hk : s.controller.current = some key) : s.controller.inputs ≠ none := by
  obtain ⟨-, i, hi, -⟩ := h.inputs_of_current hk
  rw [hi]
  exact Option.some_ne_none i

/-- A sub-form just mounted is coherent. -/
theorem coherent_mount (form : Form) (context : Context) (policy : StalePolicy) :
    Coherent (.mount form context policy) := by
  have hno : ∀ n q, ¬ Asks (Session.mount form context policy).loads n q := by
    intro n q h
    exact absurd h.lt_length (by simp [mount])
  exact {
    current := fun _ => rfl
    torn := fun h => by cases h
    status := rfl
    kernels := fun _ => rfl
    keys := fun _ _ _ h => absurd h (hno _ _)
    unique := fun _ _ _ _ _ h _ => absurd h (hno _ _)
    loading := fun _ x h => by cases h
    waiting := fun _ _ _ h _ => absurd h.asks (hno _ _) }

/-- A step that touches neither the derivation nor its load keeps the session coherent. -/
theorem Coherent.quiet (h : Coherent s) (hq : Quiet s s') : Coherent s' where
  current ht := by
    rw [hq.current, hq.inputs, hq.generation]
    exact h.current (hq.tornDown ▸ ht)
  torn ht := by rw [hq.current]; exact h.torn (hq.tornDown ▸ ht)
  status := by rw [hq.status, hq.inputs]; exact h.status
  kernels hr := by rw [hq.kernels]; exact h.kernels fun x => hq.status ▸ hr x
  keys n key x ha := by rw [hq.generation]; exact h.keys n key x ((hq.asks _ _ _).mp ha)
  unique n n' key x x' ha ha' :=
    h.unique n n' key x x' ((hq.asks _ _ _).mp ha) ((hq.asks _ _ _).mp ha')
  loading ht x hx := by
    obtain ⟨n, key, hl, hc⟩ := h.loading (hq.tornDown ▸ ht) x (hq.status ▸ hx)
    exact ⟨n, key, (hq.live _ _ _).mpr hl, hq.current ▸ hc⟩
  waiting n key x hl hc := by
    rw [hq.status]
    exact h.waiting n key x ((hq.live _ _ _).mp hl) (hq.current ▸ hc)

/-- A new key has not been asked with. -/
theorem Coherent.fresh (h : Coherent s) {n : Nat} {scope : Option Scope} {x : Scope} :
    ¬ Asks s.loads n (.kernels ⟨s.controller.generation + 1, scope⟩ x) := fun ha =>
  absurd (h.keys _ _ _ ha).1 (by simp)

/-- The key of a derivation is not that of a load from before. -/
theorem Coherent.current_ne_of_derived (h : Coherent s) {i : Inputs} {place n : Nat}
    {key : RequestKey} {x : Scope} (hd : Derived s s' i place)
    (ha : Asks s.loads n (.kernels key x)) : s'.controller.current ≠ some key := by
  intro hcur
  have hkey : ⟨s.controller.generation + 1, i.scope⟩ = key :=
    Option.some.inj (hd.current.symm.trans hcur)
  subst hkey
  exact h.fresh ha

/-- A derivation leaves a coherent session. -/
theorem Coherent.derived (h : Coherent s) {i : Inputs} {place : Nat}
    (hd : Derived s s' i place) : Coherent s' where
  current _ := by rw [hd.current, hd.inputs, hd.generation]; rfl
  torn ht := by rw [hd.tornDown] at ht; cases ht
  status := by rw [hd.status, hd.inputs]; cases hi : i.scope <;> simp [KernelStatus.scope?, hi]
  kernels _ := hd.kernels
  keys n key x ha := by
    rw [hd.generation]
    rcases (hd.asks n key x).mp ha with ha | ⟨-, rfl, hx⟩
    · have := h.keys n key x ha
      exact ⟨by omega, this.2⟩
    · exact ⟨Nat.le_refl _, hx⟩
  unique n n' key x x' ha ha' := by
    -- both loads were there before, or both are the new one: its key is not an old one
    rcases (hd.asks n key x).mp ha with ha | ⟨rfl, rfl, hx⟩
    · rcases (hd.asks n' key x').mp ha' with ha' | ⟨rfl, rfl, hx'⟩
      · exact h.unique n n' key x x' ha ha'
      · exact absurd ha h.fresh
    · rcases (hd.asks n' _ x').mp ha' with ha' | ⟨rfl, -, -⟩
      · exact absurd ha' h.fresh
      · rfl
  loading _ x hx := by
    rw [hd.status] at hx
    cases hi : i.scope with
    | none => rw [hi] at hx; cases hx
    | some y =>
      rw [hi] at hx
      cases hx
      exact ⟨place, _, hd.issued _ hi, hd.current⟩
  waiting n key x hl hc := by
    rw [hd.current] at hc
    cases hc
    rcases hd.live n _ x hl with hl | ⟨-, -, hx⟩
    · exact absurd hl.asks h.fresh
    · rw [hd.status, hx]; rfl

/-- A suspension leaves a coherent session. -/
theorem Coherent.suspended (h : Coherent s) (hs : Suspended s s') : Coherent s' where
  current _ := by rw [hs.current, hs.inputs]; rfl
  torn _ := hs.current
  status := by rw [hs.status, hs.inputs]; rfl
  kernels _ := hs.kernels
  keys n key x ha := by
    have := h.keys n key x ((hs.ages.asks _ _).mp ha)
    exact ⟨by rw [hs.generation]; omega, this.2⟩
  unique n n' key x x' ha ha' :=
    h.unique n n' key x x' ((hs.ages.asks _ _).mp ha) ((hs.ages.asks _ _).mp ha')
  loading _ x hx := by rw [hs.status] at hx; cases hx
  waiting _ _ _ _ hc := by rw [hs.current] at hc; cases hc

/-- A tear-down leaves a coherent session. -/
theorem Coherent.tornDown (h : Coherent s) (ht : TornDown s s') : Coherent s' where
  current hu := by rw [ht.tornDown] at hu; cases hu
  torn _ := ht.current
  status := by rw [ht.snapshot, ht.inputs]; exact h.status
  kernels hr := by rw [ht.snapshot] at hr ⊢; exact h.kernels hr
  keys n key x ha := by rw [ht.generation]; exact h.keys n key x ((ht.ages.asks _ _).mp ha)
  unique n n' key x x' ha ha' :=
    h.unique n n' key x x' ((ht.ages.asks _ _).mp ha) ((ht.ages.asks _ _).mp ha')
  loading hu := by rw [ht.tornDown] at hu; cases hu
  waiting _ _ _ _ hc := by rw [ht.current] at hc; cases hc

/-- The answer of a load that is not the current one changes nothing that counts. -/
theorem Coherent.stale (h : Coherent s) {load : Nat} {key : RequestKey} {x : Scope}
    (ha : Answered s s' load key x) (hc : s'.controller = s.controller)
    (hs : s.controller.tornDown = true ∨ s.controller.current ≠ some key) : Coherent s' where
  current := by rw [hc]; exact h.current
  torn := by rw [hc]; exact h.torn
  status := by rw [hc]; exact h.status
  kernels := by rw [hc]; exact h.kernels
  keys n k y hk := by rw [hc]; exact h.keys n k y ((ha.asks _ _).mp hk)
  unique n n' k y y' hk hk' :=
    h.unique n n' k y y' ((ha.asks _ _).mp hk) ((ha.asks _ _).mp hk')
  loading hu y hy := by
    rw [hc] at hu hy ⊢
    obtain ⟨n, k, hl, hk⟩ := h.loading hu y hy
    -- the load that is waited for has the current key, so it is not the one that answered
    refine ⟨n, k, (ha.live _ _).mpr ⟨hl, ?_⟩, hk⟩
    rintro rfl
    have hq := hl.asks.eq (asks_of_getElem? ha.running)
    cases hq
    rcases hs with hs | hs
    · rw [hu] at hs; cases hs
    · exact hs hk
  waiting n k y hl hk := by
    rw [hc] at hk ⊢
    exact h.waiting n k y ((ha.live _ _).mp hl).1 hk

/-- The answer of the current load settles the status. -/
theorem Coherent.settled (h : Coherent s) {load : Nat} {key : RequestKey} {x : Scope}
    {i : Inputs} (ha : Answered s s' load key x) (hk : s.controller.current = some key)
    (hi : s.controller.inputs = some i)
    (hs : s'.controller.snapshot.status = .ready x ∨
      s'.controller.snapshot.status = .failed x ∧ s'.controller.snapshot.kernels = []) :
    Coherent s' where
  current := by
    rw [ha.tornDown, ha.current, ha.inputs, ha.generation]; exact h.current
  torn := by rw [ha.tornDown, ha.current]; exact h.torn
  status := by
    have hx := (h.keys load key x (asks_of_getElem? ha.running)).2
    obtain ⟨-, j, hj, hkey⟩ := h.inputs_of_current hk
    rw [hi] at hj
    cases hj
    rw [hkey] at hx
    rw [ha.inputs, hi]
    rcases hs with hs | ⟨hs, -⟩ <;> rw [hs] <;> exact hx.symm
  kernels hr := by
    rcases hs with hs | ⟨-, hs⟩
    · exact absurd hs (hr x)
    · exact hs
  keys n k y hq := by rw [ha.generation]; exact h.keys n k y ((ha.asks _ _).mp hq)
  unique n n' k y y' hq hq' :=
    h.unique n n' k y y' ((ha.asks _ _).mp hq) ((ha.asks _ _).mp hq')
  loading _ y hy := by
    rcases hs with hs | ⟨hs, -⟩ <;> rw [hs] at hy <;> cases hy
  waiting n k y hl hc := by
    -- no other load has the key
    obtain ⟨hl, hn⟩ := (ha.live _ _).mp hl
    rw [ha.current, hk] at hc
    cases hc
    exact absurd (h.unique n load _ y x hl.asks (asks_of_getElem? ha.running)) hn

/-- **A step keeps the controller coherent.** -/
theorem coherent_step (h : Coherent s) (a : Action) : Coherent (s.step a) := by
  cases step_kernels s a with
  | quiet _ hq _ => exact h.quiet hq
  | derived i place _ hd => exact h.derived hd
  | suspended _ hs => exact h.suspended hs
  | tornDown _ ht => exact h.tornDown ht
  | stale load answer key x _ ha hs hc _ => exact h.stale ha hc hs
  | forgotten load answer key x _ ha hup hk hi => exact absurd hi (h.inputs_ne_none hk)
  | installed load kernels key x i _ ha hup hk hi _ hs => exact h.settled ha hk hi (.inl hs)
  | refused load e key x i _ ha hup hk hi hn hs => exact h.settled ha hk hi (.inr ⟨hs, hn⟩)

/-- Every session that is reached from a coherent one is coherent. -/
theorem coherent_run (h : Coherent s) (as : List Action) : Coherent (s.run as) := by
  induction as generalizing s with
  | nil => exact h
  | cons a as ih => exact ih (coherent_step h a)

end Session

end LivePatching
