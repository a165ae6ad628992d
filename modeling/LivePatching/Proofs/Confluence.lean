import LivePatching.Proofs.Catalog

/-!
# The order in which loads complete

A load sees little of the session: its own stage, whether the sub-form is torn down, and the key and
the inputs of the current derivation. No load changes that for another one, and no two loads change
the same thing, so it does not matter in what order they take their steps.

* `Effect`: what a step of a load does, apart from its load; `exists_effect`: it is the same in
  every session that looks the same to the load, and it is what the load is entitled to.
* `step_comm`: **the steps of two loads commute.**
* `run_interleaved`: **only the order of the steps of each load matters.**
* `Completion`: a load that is run to its end; `isOver_completed`: **a load is over when it has
  completed.**
* `catalog_run`: **each list is loaded once, and the order in which loads complete does not
  matter.**
-/

namespace LivePatching

open Json

/-- The load that takes the step. -/
def Action.load? : Action → Option Nat
  | .start n | .answerClients n _ | .answerProducts n _ | .answerKernels n _ | .drop n => some n
  | _ => none

/-- Counts taken together. -/
def Tally.add (t t' : Tally) : Tally :=
  ⟨t.kernelLoads + t'.kernelLoads, t.staleResults + t'.staleResults,
    t.clientFailures + t'.clientFailures, t.productFailures + t'.productFailures,
    t.kernelFailures + t'.kernelFailures, t.timedLoads + t'.timedLoads⟩

theorem Tally.add_right_comm (t t' t'' : Tally) : (t.add t').add t'' = (t.add t'').add t' := by
  simp only [Tally.add, Nat.add_right_comm]

/-- What the answer for the current derivation does to the list of kernels and to the form. -/
structure Verdict where
  kernels : List Kernel
  status : KernelStatus
  write : Form → Form

/-- The verdict of an answer: the kernels and their default, or none and a kernel that is cleared if
there is one. -/
def Verdict.of (i : Inputs) (x : Scope) : Except ProviderError (List Kernel) → Verdict
  | .ok kernels => ⟨kernels, .ready x, (·.writeKernelId i.context (defaultKernel kernels))⟩
  | .error _ =>
    ⟨[], .failed x, fun f =>
      if ((f.model i.context.reads).id .kernelId).isSome then f.writeKernelId i.context none
      else f⟩

/-- What a step of a load does to a session, apart from the load. -/
structure Effect where
  /-- The lists of the catalog that are taken over. -/
  taken : (list : Listing) → Option (List list.Entry)
  verdict : Option Verdict
  counted : Tally

namespace Effect

/-- An effect that shows in the tally only. -/
def count (counted : Tally) : Effect := ⟨fun _ => none, none, counted⟩

/-- The effect of a step that changes the load only. -/
def nothing : Effect := .count .zero

/-- A list of the catalog is taken over. -/
def take (list : Listing) (entries : List list.Entry) : Effect where
  taken := Function.update (fun _ => none) list (some entries)
  verdict := none
  counted := .zero

theorem taken_take_of_ne {list other : Listing} (entries : List list.Entry) (h : other ≠ list) :
    (take list entries).taken other = none := by
  simp only [take, Function.update_of_ne h]

/-- A session after an effect. -/
def apply (e : Effect) (s : Session) : Session :=
  { s with
    controller :=
      { s.controller with
        snapshot :=
          { clients := (e.taken .clients).getD s.controller.snapshot.clients
            products := (e.taken .products).getD s.controller.snapshot.products
            kernels := e.verdict.elim s.controller.snapshot.kernels (·.kernels)
            status := e.verdict.elim s.controller.snapshot.status (·.status) }
        kernelLoad := e.verdict.elim s.controller.kernelLoad fun _ => none }
    form := e.verdict.elim s.form (·.write s.form)
    tally := s.tally.add e.counted }

@[simp] theorem apply_nothing (s : Session) : nothing.apply s = s := rfl

/-- The effects change different things. -/
structure Apart (e e' : Effect) : Prop where
  taken : ∀ list, e.taken list = none ∨ e'.taken list = none
  verdict : e.verdict = none ∨ e'.verdict = none

/-- Effects on different parts commute. -/
theorem apply_comm {e e' : Effect} (h : e.Apart e') (s : Session) :
    e.apply (e'.apply s) = e'.apply (e.apply s) := by
  obtain ⟨taken, verdict, counted⟩ := e
  obtain ⟨taken', verdict', counted'⟩ := e'
  obtain ⟨htaken, hverdict⟩ := h
  have htally := Tally.add_right_comm s.tally counted' counted
  rcases htaken .clients with hclients | hclients <;>
    rcases htaken .products with hproducts | hproducts <;> rcases hverdict with rfl | rfl <;>
      simp_all only [apply, Option.getD_none, Option.elim_none]

end Effect

namespace Session

variable {s s' : Session} {a b : Action} {as bs : List Action} {n m : Nat} {e e' : Effect}

/-! ## What a load sees and does -/

/-- The sessions look the same to the load. -/
structure SameSight (n : Nat) (s s' : Session) : Prop where
  load : s'.loads[n]? = s.loads[n]?
  tornDown : s'.controller.tornDown = s.controller.tornDown
  current : s'.controller.current = s.controller.current
  inputs : s'.controller.inputs = s.controller.inputs

/-- The load is entitled to the effect: a list is for who asked for it, and the kernels are for who
asks with the current key. -/
structure Entitled (n : Nat) (s : Session) (e : Effect) : Prop where
  taken : ∀ list, e.taken list ≠ none → Asks s.loads n list.question
  verdict : e.verdict ≠ none →
    ∃ key x, Asks s.loads n (.kernels key x) ∧ s.controller.current = some key

/-- A session in which one load has moved. -/
def moved (s : Session) (n : Nat) (move : Load → Load) : Session :=
  { s with loads := s.loads.modify n move }

theorem moved_id (s : Session) (n : Nat) : s.moved n id = s := by
  rw [moved, List.modify_id]

/-- Moves of different loads commute. -/
theorem moved_comm (h : n ≠ m) (f g : Load → Load) :
    (s.moved n f).moved m g = (s.moved m g).moved n f := by
  simp only [moved, List.modify_modify_ne _ _ _ h]

theorem moved_apply (e : Effect) (s : Session) (n : Nat) (f : Load → Load) :
    (e.apply s).moved n f = e.apply (s.moved n f) := rfl

theorem entitled_count (n : Nat) (s : Session) (counted : Tally) :
    Entitled n s (.count counted) :=
  ⟨fun _ h => absurd rfl h, fun h => absurd rfl h⟩

/-- Who asked for a list is entitled to take it over. -/
theorem entitled_take {list : Listing} (hl : s.loads[n]? = some ⟨list.question, .running⟩)
    (entries : List list.Entry) : Entitled n s (.take list entries) where
  taken other h := by
    by_cases ho : other = list
    · subst ho
      exact asks_of_getElem? hl
    · exact absurd (Effect.taken_take_of_ne entries ho) h
  verdict h := absurd rfl h

/-- The step does the same in every session that looks like this one to the load. -/
def Acts (n : Nat) (s : Session) (a : Action) : Prop :=
  ∃ e move, Entitled n s e ∧ ∀ s', SameSight n s s' → s'.step a = e.apply (s'.moved n move)

/-- A step without any effect acts on its load alone. -/
theorem acts_idle (h : ∀ s', SameSight n s s' → s'.step a = s') : Acts n s a := by
  refine ⟨.nothing, id, entitled_count n s .zero, fun s' hs' => ?_⟩
  rw [moved_id, Effect.apply_nothing]
  exact h s' hs'

/-- To start a load changes nothing but the load. -/
theorem acts_start (s : Session) (n : Nat) : Acts n s (.start n) := by
  cases hl : s.loads[n]? with
  | none => exact acts_idle fun s' h => by simp only [step, start, h.load, hl]
  | some l =>
    obtain ⟨q, stage⟩ := l
    cases stage with
    | queued =>
      refine ⟨.nothing, fun l => { l with stage := .running }, entitled_count n s .zero, ?_⟩
      intro s' h
      simp only [step, start, h.load, hl]
      rfl
    | _ => exact acts_idle fun s' h => by simp only [step, start, h.load, hl]

/-- To drop a load changes nothing but the load. -/
theorem acts_drop (s : Session) (n : Nat) : Acts n s (.drop n) := by
  cases hl : s.loads[n]? with
  | none => exact acts_idle fun s' h => by simp only [step, drop, h.load, hl]
  | some l =>
    obtain ⟨q, stage⟩ := l
    cases stage with
    | aborted asked =>
      let timed : Nat := if q.isKernels && asked then 1 else 0
      refine ⟨.count { Tally.zero with timedLoads := timed },
        fun l => { l with stage := .dropped asked }, entitled_count n s _, ?_⟩
      intro s' h
      simp only [step, drop, h.load, hl]
      cases q <;> cases asked <;> rfl
    | _ => exact acts_idle fun s' h => by simp only [step, drop, h.load, hl]

/-- A load that has answered is over. -/
def finish (l : Load) : Load := { l with stage := .finished }

/-- What an answer does unless the sub-form is torn down. -/
theorem acts_answer (he : Entitled n s e) (h : ∀ s', SameSight n s s' → s'.step a =
    if s'.controller.tornDown then s'.moved n finish else e.apply (s'.moved n finish)) :
    Acts n s a := by
  by_cases hdown : s.controller.tornDown = true
  · refine ⟨.nothing, finish, entitled_count n s .zero, fun s' hs' => ?_⟩
    rw [h s' hs', if_pos (hs'.tornDown.trans hdown), Effect.apply_nothing]
  · refine ⟨e, finish, he, fun s' hs' => ?_⟩
    rw [h s' hs', if_neg (by rw [hs'.tornDown]; exact hdown)]

/-- The answer for a list installs it or counts a failure, and finishes the load. -/
theorem acts_answerCatalog (s : Session) (list : Listing) (n : Nat)
    (answer : Except ProviderError (List list.Entry)) : Acts n s (list.resolve n answer) := by
  by_cases hl : s.loads[n]? = some ⟨list.question, .running⟩
  · cases answer with
    | ok entries =>
      refine acts_answer (entitled_take hl entries) fun s' h => ?_
      rw [step_resolve, answerCatalog, h.load, if_pos hl]
      cases list <;> rfl
    | error _ =>
      refine acts_answer (entitled_count n s (list.countFailure .zero)) fun s' h => ?_
      rw [step_resolve, answerCatalog, h.load, if_pos hl]
      cases list <;> rfl
  · exact acts_idle fun s' h => by rw [step_resolve, answerCatalog, h.load, if_neg hl]

/-- The answer to a kernel load has its verdict or counts as stale, and finishes the load. -/
theorem acts_answerKernels (s : Session) (n : Nat)
    (answer : Except ProviderError (List Kernel)) : Acts n s (.answerKernels n answer) := by
  by_cases hl : ∃ key x, s.loads[n]? = some ⟨.kernels key x, .running⟩
  · obtain ⟨key, x, hl⟩ := hl
    -- what the answer does is decided by the tear-down, the key and the inputs, which a load does
    -- not change
    by_cases hstale : (s.controller.tornDown || s.controller.current != some key) = true
    · refine ⟨.count { Tally.zero with timedLoads := 1, staleResults := 1 }, finish,
        entitled_count n s _, fun s' h => ?_⟩
      simp only [step, answerKernels, h.load, hl, setStage, h.tornDown, h.current, hstale]
      rfl
    · have hcur : s.controller.current = some key := by simp_all
      cases hi : s.controller.inputs with
      | none =>
        refine ⟨.count { Tally.zero with timedLoads := 1 }, finish, entitled_count n s _,
          fun s' h => ?_⟩
        simp only [step, answerKernels, h.load, hl, setStage, h.tornDown, h.current, hstale,
          h.inputs, hi]
        rfl
      | some i =>
        have hentitled : ∀ counted,
            Entitled n s { Effect.count counted with verdict := some (.of i x answer) } := fun _ =>
          ⟨fun _ h => absurd rfl h, fun _ => ⟨key, x, asks_of_getElem? hl, hcur⟩⟩
        cases answer with
        | ok kernels =>
          refine ⟨_, finish, hentitled { Tally.zero with timedLoads := 1 }, fun s' h => ?_⟩
          simp only [step, answerKernels, h.load, hl, setStage, h.tornDown, h.current, hstale,
            h.inputs, hi]
          rfl
        | error _ =>
          refine ⟨_, finish, hentitled { Tally.zero with timedLoads := 1, kernelFailures := 1 },
            fun s' h => ?_⟩
          simp only [step, answerKernels, h.load, hl, setStage, h.tornDown, h.current, hstale,
            h.inputs, hi]
          rfl
  · refine acts_idle fun s' h => ?_
    simp only [step, answerKernels, h.load]
    split
    · rename_i key x hl'
      exact absurd ⟨key, x, hl'⟩ hl
    · rfl

/-- Every step of a load is an effect on the session beside a move of the load. -/
theorem exists_effect (s : Session) (h : a.load? = some n) : Acts n s a := by
  cases a with
  | start => cases h; exact acts_start s n
  | drop => cases h; exact acts_drop s n
  | answerClients m answer => cases h; exact acts_answerCatalog s .clients n answer
  | answerProducts m answer => cases h; exact acts_answerCatalog s .products n answer
  | answerKernels m answer => cases h; exact acts_answerKernels s n answer
  | _ => cases h

/-! ## Two loads -/

theorem SameSight.refl (n : Nat) (s : Session) : SameSight n s s := ⟨rfl, rfl, rfl, rfl⟩

/-- A load does not see the steps of another one. -/
theorem sameSight_step (s : Session) (hb : b.load? = some m) (hmn : m ≠ n) :
    SameSight n s (s.step b) := by
  obtain ⟨e, move, -, he⟩ := exists_effect s hb
  rw [he s (SameSight.refl m s)]
  exact ⟨getElem?_modify_ne hmn, rfl, rfl, rfl⟩

/-- What two loads are entitled to is not the same thing: a list of the catalog is asked for by one
load, and so are the kernels of a derivation. -/
theorem Entitled.apart (hd : Distinct s) (hcoh : Coherent s) (he : Entitled n s e)
    (he' : Entitled m s e') (hnm : n ≠ m) : e.Apart e' where
  taken list := by
    by_contra! h
    exact hnm (hd.eq (he.taken list h.1) (he'.taken list h.2))
  verdict := by
    by_contra! h
    obtain ⟨key, x, hn, hcur⟩ := he.verdict h.1
    obtain ⟨key', x', hm, hcur'⟩ := he'.verdict h.2
    rw [hcur] at hcur'
    cases hcur'
    exact hnm (hcoh.unique n m key x x' hn hm)

/-- **The steps of two loads commute.** -/
theorem step_comm (hd : Distinct s) (hcoh : Coherent s) (ha : a.load? = some n)
    (hb : b.load? = some m) (hnm : n ≠ m) : (s.step a).step b = (s.step b).step a := by
  obtain ⟨e, move, hn, he⟩ := exists_effect s ha
  obtain ⟨e', move', hm, he'⟩ := exists_effect s hb
  calc (s.step a).step b
      = e'.apply ((e.apply (s.moved n move)).moved m move') := by
        rw [he' _ (sameSight_step s ha hnm), he s (SameSight.refl n s)]
    _ = e.apply ((e'.apply (s.moved m move')).moved n move) := by
        rw [moved_apply, moved_apply, moved_comm hnm,
          Effect.apply_comm (hm.apart hd hcoh hn hnm.symm)]
    _ = (s.step b).step a := by
        rw [he _ (sameSight_step s hb hnm.symm), he' s (SameSight.refl m s)]

/-! ## Many loads -/

/-- A step may be taken before the steps of other loads. -/
theorem run_ahead (hd : Distinct s) (hcoh : Coherent s) (ha : a.load? = some n)
    (has : ∀ b ∈ as, b.load?.isSome) (hother : ∀ b ∈ as, b.load? ≠ some n) :
    s.run (as ++ a :: bs) = s.run (a :: as ++ bs) := by
  induction as generalizing s with
  | nil => rfl
  | cons b as ih =>
    obtain ⟨m, hb⟩ := Option.isSome_iff_exists.mp (has b List.mem_cons_self)
    have hnm : m ≠ n := fun h => hother b List.mem_cons_self (h ▸ hb)
    have hrest := ih (hd.step hcoh b) (coherent_step hcoh b)
      (fun c hc => has c (List.mem_cons_of_mem b hc))
      fun c hc => hother c (List.mem_cons_of_mem b hc)
    rw [List.cons_append, run_cons, hrest]
    simp only [List.cons_append, run_cons, step_comm hd hcoh hb ha hnm]

/-- The steps of a load among the actions. -/
def stepsOf (n : Nat) (as : List Action) : List Action := as.filter (·.load? = some n)

theorem stepsOf_append : stepsOf n (as ++ bs) = stepsOf n as ++ stepsOf n bs :=
  List.filter_append ..

/-- **Only the order of the steps of each load matters**, not how the loads take turns. -/
theorem run_interleaved (hd : Distinct s) (hcoh : Coherent s) (has : ∀ a ∈ as, a.load?.isSome)
    (hbs : ∀ b ∈ bs, b.load?.isSome) (h : ∀ n, stepsOf n as = stepsOf n bs) :
    s.run as = s.run bs := by
  induction as generalizing s bs with
  | nil =>
    cases bs with
    | nil => rfl
    | cons b bs =>
      obtain ⟨n, hb⟩ := Option.isSome_iff_exists.mp (hbs b List.mem_cons_self)
      have hnone := h n
      simp [stepsOf, hb] at hnone
  | cons a as ih =>
    obtain ⟨n, ha⟩ := Option.isSome_iff_exists.mp (has a List.mem_cons_self)
    -- the first step of the load of `a` on the other side is `a`, behind steps of other loads
    have hfirst : stepsOf n bs = a :: stepsOf n as := by
      rw [← h n]
      simp [stepsOf, ha]
    obtain ⟨us, vs, rfl, hus, -, hvs⟩ := List.filter_eq_cons_iff.mp hfirst
    have hother : ∀ b ∈ us, b.load? ≠ some n := fun b hb hn => hus b hb (by simpa using hn)
    have hloads : ∀ b ∈ us ++ vs, b.load?.isSome := by
      intro b hb
      refine hbs b ?_
      rcases List.mem_append.mp hb with hb | hb
      · exact List.mem_append_left _ hb
      · exact List.mem_append_right _ (List.mem_cons_of_mem a hb)
    have hrest : ∀ m, stepsOf m as = stepsOf m (us ++ vs) := by
      intro m
      rw [stepsOf_append]
      by_cases hnm : n = m
      · subst hnm
        have hnone : stepsOf n us = [] := List.filter_eq_nil_iff.mpr hus
        rw [hnone, List.nil_append]
        exact hvs.symm
      · have hskip : ∀ as, stepsOf m (a :: as) = stepsOf m as := fun as => by
          simp [stepsOf, ha, hnm]
        rw [← hskip as, h m, stepsOf_append, hskip vs]
    rw [run_cons, ih (hd.step hcoh a) (coherent_step hcoh a)
      (fun b hb => has b (List.mem_cons_of_mem a hb)) hloads hrest,
      run_ahead hd hcoh ha (fun b hb => hloads b (List.mem_append_left vs hb)) hother]
    rfl

end Session

/-! ## Completions -/

/-- A load is run to its end, with the answer of its provider. -/
inductive Completion where
  | catalog (list : Listing) (load : Nat) (answer : Except ProviderError (List list.Entry))
  | kernels (load : Nat) (answer : Except ProviderError (List Kernel))

namespace Completion

/-- The load that is completed. -/
def load : Completion → Nat
  | .catalog _ n _ | .kernels n _ => n

/-- The step that answers the load. -/
def answer : Completion → Action
  | .catalog list n answer => list.resolve n answer
  | .kernels n answer => .answerKernels n answer

/-- The load starts and takes its answer, or it goes away if it is aborted. -/
def steps (c : Completion) : List Action := [.start c.load, c.answer, .drop c.load]

/-- The answer is one to the question. -/
def Answers : Completion → Question → Prop
  | .catalog list _ _, q => q = list.question
  | .kernels .., q => q.isKernels = true

/-- All steps of a completion are steps of its load. -/
theorem load?_of_mem_steps {c : Completion} {a : Action} (h : a ∈ c.steps) :
    a.load? = some c.load := by
  simp only [steps, List.mem_cons, List.not_mem_nil, or_false] at h
  rcases h with rfl | rfl | rfl
  · rfl
  · cases c with
    | catalog list n given => cases list <;> rfl
    | kernels n given => rfl
  · rfl

variable {s : Session} {n : Nat} {cs cs' : List Completion}

/-- The steps of a load are those of its completions. -/
theorem stepsOf_flatMap :
    Session.stepsOf n (cs.flatMap steps) = (cs.filter (·.load = n)).flatMap steps := by
  induction cs with
  | nil => rfl
  | cons c cs ih =>
    rw [List.flatMap_cons, Session.stepsOf_append, ih]
    by_cases hc : c.load = n
    · have hall : Session.stepsOf n c.steps = c.steps :=
        List.filter_eq_self.mpr fun a ha => by simp [load?_of_mem_steps ha, hc]
      rw [hall, List.filter_cons_of_pos (by simpa using hc), List.flatMap_cons]
    · have hnone : Session.stepsOf n c.steps = [] :=
        List.filter_eq_nil_iff.mpr fun a ha => by simp [load?_of_mem_steps ha, hc]
      rw [hnone, List.filter_cons_of_neg (by simpa using hc), List.nil_append]

/-- A load that completes once does so with the same answer in every order. -/
theorem filter_eq_of_perm (h : cs.Perm cs') (hnodup : (cs.map load).Nodup) (n : Nat) :
    cs.filter (·.load = n) = cs'.filter (·.load = n) := by
  have hperm := h.filter (·.load = n)
  have hone : (cs.filter (·.load = n)).length ≤ 1 := by
    have hcount := List.nodup_iff_count.mp hnodup n
    rwa [List.count, List.countP_map, List.countP_eq_length_filter] at hcount
  cases hc : cs.filter (·.load = n) with
  | nil =>
    rw [hc] at hperm
    exact hperm.nil_eq
  | cons c rest =>
    rw [hc] at hperm hone
    obtain rfl : rest = [] := List.length_eq_zero_iff.mp (by simpa using hone)
    exact hperm.singleton_eq

/-! ### What is completed is over -/

variable {c : Completion} {q : Question} {stage : Stage}

/-- The answer of its provider finishes a load that is running. -/
theorem finished_answer (h : s.loads[c.load]? = some ⟨q, .running⟩) (hc : c.Answers q) :
    (s.step c.answer).loads[c.load]? = some ⟨q, .finished⟩ := by
  cases c with
  | catalog list n given => cases hc; exact (Session.entries_answered s list n given h).1
  | kernels n given =>
    obtain ⟨key, x, rfl⟩ : ∃ key x, q = .kernels key x := by
      cases q <;> simp_all [Answers, Question.isKernels]
    have hstep := Session.answerKernels_step s n given
    rw [answer, Session.step]
    generalize s.answerKernels n given = s' at hstep ⊢
    cases hstep with
    | unasked hno => exact absurd h (hno key x)
    | _ => exact Session.getElem?_finish h

/-- A load that cannot answer any more neither starts nor takes an answer. -/
theorem idle_of_not_live (h : s.loads[c.load]? = some ⟨q, stage⟩) (hstage : stage.isLive = false) :
    s.step (.start c.load) = s ∧ s.step c.answer = s := by
  -- a load that cannot answer is neither queued nor running
  have hno : ∀ q' stage', stage'.isLive = true → s.loads[c.load]? ≠ some ⟨q', stage'⟩ := by
    intro q' stage' hlive hl
    rw [h] at hl
    cases hl
    rw [hstage] at hlive
    cases hlive
  constructor
  · refine (Session.start_cases s c.load).resolve_right ?_
    rintro ⟨q', hl, -⟩
    exact hno q' .queued rfl hl
  · have hunawaited : ∀ q', s.loads[c.load]? ≠ some ⟨q', .running⟩ := fun q' => hno q' _ rfl
    cases c with
    | catalog list n given =>
      rw [answer, Session.step_resolve]
      exact Session.take_unawaited (.inl ⟨list, given, rfl⟩) hunawaited
    | kernels n given => exact Session.take_unawaited (.inr ⟨given, rfl⟩) hunawaited

/-- A load that cannot go on is over once it is dropped. -/
theorem isOver_drop (h : s.loads[n]? = some ⟨q, stage⟩) (hstage : stage.isLive = false) :
    (s.step (.drop n)).isOver n = true := by
  cases stage with
  | queued => cases hstage
  | running => cases hstage
  | aborted asked =>
    have hloads : (s.drop n).loads = (s.setStage n (.dropped asked)).loads := by
      simp only [Session.drop, h]
      cases q <;> cases asked <;> rfl
    have hdropped : (s.step (.drop n)).loads[n]? = some ⟨q, .dropped asked⟩ := by
      rw [Session.step, hloads, Session.setStage, getElem?_modify_self, h]
      rfl
    simp only [Session.isOver, hdropped, Stage.isOver]
  | finished => simp only [Session.step, Session.drop, Session.isOver, h, Stage.isOver]
  | dropped asked => simp only [Session.step, Session.drop, Session.isOver, h, Stage.isOver]

/-- **A load is over when it has completed.** -/
theorem isOver_completed (h : s.loads[c.load]? = some ⟨q, stage⟩) (hc : c.Answers q) :
    (s.run c.steps).isOver c.load = true := by
  simp only [steps, Session.run_cons, Session.run_nil]
  cases hlive : stage.isLive with
  | true =>
    have hrunning := (Session.running_start ⟨stage, h, hlive⟩).1
    exact isOver_drop (finished_answer hrunning hc) rfl
  | false =>
    obtain ⟨hstart, hanswer⟩ := idle_of_not_live h hlive
    rw [hstart, hanswer]
    exact isOver_drop h hlive

end Completion

/-- The order in which loads take their steps and complete does not matter. -/
structure Confluent (s : Session) : Prop where
  interleaved : ∀ as bs : List Action, (∀ a ∈ as, a.load?.isSome) → (∀ b ∈ bs, b.load?.isSome) →
    (∀ n, Session.stepsOf n as = Session.stepsOf n bs) → s.run as = s.run bs
  completed : ∀ cs cs' : List Completion, cs.Perm cs' → (cs.map Completion.load).Nodup →
    s.run (cs.flatMap Completion.steps) = s.run (cs'.flatMap Completion.steps)

/-- **The order in which loads are completed does not matter.** -/
theorem confluent {s : Session} (hd : Session.Distinct s) (hcoh : Session.Coherent s) :
    Confluent s where
  interleaved as bs has hbs h := Session.run_interleaved hd hcoh has hbs h
  completed cs cs' hperm hnodup := by
    have hloads : ∀ cs : List Completion, ∀ a ∈ cs.flatMap Completion.steps, a.load?.isSome := by
      intro cs a ha
      obtain ⟨c, -, hc⟩ := List.mem_flatMap.mp ha
      rw [Completion.load?_of_mem_steps hc]
      rfl
    refine Session.run_interleaved hd hcoh (hloads cs) (hloads cs') fun n => ?_
    rw [Completion.stepsOf_flatMap, Completion.stepsOf_flatMap,
      Completion.filter_eq_of_perm hperm hnodup]

/-- **Each list of the catalog is loaded once, and the order in which loads complete does not
matter.** -/
theorem catalog_run (form : Form) (context : Context) (policy : StalePolicy) (as : List Action) :
    (∀ list : Listing, list.LoadedOnce (.mount form context policy) as) ∧
      Confluent ((Session.mount form context policy).run as) := by
  have hcoh : Session.Coherent (.mount form context policy) :=
    Session.coherent_mount form context policy
  have hd : Session.Distinct (.mount form context policy) :=
    Session.distinct_mount form context policy
  exact ⟨fun list => list.loadedOnce_run form context policy as,
    confluent (Session.distinct_run hd hcoh as) (Session.coherent_run hcoh as)⟩

/-- The clients are there, although the products could not be loaded. -/
example (form : Form) (context : Context) (policy : StalePolicy) (clients : List Client)
    (e : ProviderError) : Listing.clients.shown
      (((Session.mount form context policy).step .activate).run
        ([.catalog .products 1 (.error e), .catalog .clients 0 (.ok clients)].flatMap
          Completion.steps)) = clients :=
  rfl

end LivePatching
