import LivePatching.Proofs.Record
import LivePatching.Proofs.Tracking

/-!
# The loads of a run

* `Session.Spares`, `spares_take`: what a turn leaves alone, apart from the list of kernels.
* `Session.questions`, `Session.issues`: what the loads ask, and what those ask that a turn issues.
* `questions_step`: **a step issues the loads of its turn and no others**: those of the catalog
  once, and one of kernels for each derivation with a scope.
* `distinct_run`: no two loads ask the same.
* `KeysGrow.le`: **the load with the current key is the last one of kernels.**
* `Advance`, `advance_step`: **a load is started, answered, aborted or dropped**, and nothing else.
-/

namespace LivePatching

open Json

/-- Whether a turn is an operation of the controller. -/
def Turn.operates : Turn → Bool
  | .activate => true
  | .observe _ => true
  | .render _ => true
  | .suspend => true
  | .tearDown => true
  | _ => false

/-- The turn brings the answer of the load. -/
def Turn.Answers (t : Turn) (n : Nat) : Prop :=
  (∃ list answer, t = .answerCatalog list n answer) ∨ ∃ answer, t = .answerKernels n answer

/-- How a turn moves a load from one stage to another. -/
inductive Advance (n : Nat) (t : Turn) : Stage → Stage → Prop where
  | kept (stage : Stage) : Advance n t stage stage
  | started : t = .start n → Advance n t .queued .running
  | answered : t.Answers n → Advance n t .running .finished
  | aborted (stage : Stage) : t.operates = true → Advance n t stage stage.abort
  | dropped (asked : Bool) : t = .drop n → Advance n t (.aborted asked) (.dropped asked)

/-- Whether kernels are asked for. -/
def Question.isKernels : Question → Bool
  | .kernels _ _ => true
  | _ => false

/-- What the load of a derivation asks, if one is issued. -/
def Derivation.question? (d : Derivation) : Option Question :=
  d.inputs.scope.map (.kernels d.key)

/-- Lists of loads that ask the same have the same questions. -/
theorem questions_eq {loads loads' : List Load} (h : ∀ n q, Asks loads' n q ↔ Asks loads n q) :
    loads'.map (·.question) = loads.map (·.question) := by
  refine List.ext_getElem? fun n => ?_
  rw [List.getElem?_map, List.getElem?_map]
  exact Option.ext fun q => h n q

theorem Stage.abort_abort (stage : Stage) : stage.abort.abort = stage.abort := by
  cases stage <;> rfl

namespace Session

variable {s s' : Session} {a : Action} {as : List Action} {n m : Nat} {q : Question}
  {stage : Stage} {t : Turn}

/-! ## What a turn leaves alone -/

/-- Nothing changes the policy, only an activation activates, only the answer to its load changes a
list of the catalog, and only an answer for kernels can come too late. -/
structure Spares (s : Session) (t : Turn) (s' : Session) : Prop where
  policy : s'.controller.policy = s.controller.policy
  activated : t ≠ .activate → (∀ i, t ≠ .render i) →
    s'.controller.activated = s.controller.activated
  entries : ∀ list : Listing, (∀ n answer, t ≠ .answerCatalog list n answer) →
    list.entries s'.controller.snapshot = list.entries s.controller.snapshot
  staleResults : (∀ n answer, t ≠ .answerKernels n answer) →
    s'.tally.staleResults = s.tally.staleResults

/-- A step that leaves all of them alone spares them. -/
theorem Spares.of_eq (policy : s'.controller.policy = s.controller.policy)
    (activated : s'.controller.activated = s.controller.activated)
    (clients : s'.controller.snapshot.clients = s.controller.snapshot.clients)
    (products : s'.controller.snapshot.products = s.controller.snapshot.products)
    (staleResults : s'.tally.staleResults = s.tally.staleResults) : Spares s t s' :=
  ⟨policy, fun _ _ => activated, fun list _ => Listing.entries_congr clients products list,
    fun _ => staleResults⟩

theorem Spares.refl (s : Session) (t : Turn) : Spares s t s := .of_eq rfl rfl rfl rfl rfl

theorem spares_activate (s : Session) : Spares s .activate s.activate := by
  rcases activate_cases s with he | he <;> rw [he]
  · exact .refl s _
  · exact ⟨rfl, fun h => absurd rfl h, fun _ _ => rfl, fun _ => rfl⟩

/-- An observation spares the catalog and the policy. -/
theorem spares_observe (s : Session) (i : Inputs) : Spares s (.observe i) (s.observe i) := by
  rw [observe_eq]
  split
  · exact .refl s _
  · cases hi : i.scope with
    | none =>
      obtain ⟨_, _, -, he⟩ := derive_none s hi
      rw [he]
      exact .of_eq rfl rfl rfl rfl rfl
    | some x =>
      obtain ⟨_, _, -, he⟩ := derive_some s hi
      rw [he]
      exact .of_eq rfl rfl rfl rfl rfl

theorem spares_drop (s : Session) (n : Nat) : Spares s (.drop n) (s.drop n) := by
  unfold drop
  split
  · simp only
    split
    · split <;> exact .of_eq rfl rfl rfl rfl rfl
    · exact .of_eq rfl rfl rfl rfl rfl
  · exact .refl s _

/-- The answer for one list spares the other. -/
theorem spares_answerCatalog (s : Session) (list : Listing) (n : Nat)
    (answer : Except ProviderError (List list.Entry)) :
    Spares s (.answerCatalog list n answer) (s.answerCatalog list n answer) := by
  have hstale := list.countFailure_staleResults s.tally
  unfold answerCatalog
  split
  · simp only
    split
    · exact .of_eq rfl rfl rfl rfl rfl
    · cases answer with
      | ok entries =>
        refine ⟨rfl, fun _ _ => rfl, fun other h => ?_, fun _ => rfl⟩
        refine Listing.entries_install_of_ne _ _ ?_
        rintro rfl
        exact h n _ rfl
      | error e => exact .of_eq rfl rfl rfl rfl hstale
  · exact .refl s _

/-- The answer to a kernel load spares the catalog and the policy. -/
theorem spares_answerKernels (s : Session) (n : Nat)
    (answer : Except ProviderError (List Kernel)) :
    Spares s (.answerKernels n answer) (s.answerKernels n answer) := by
  have hstep := answerKernels_step s n answer
  generalize s.answerKernels n answer = s' at hstep ⊢
  have hspares : ∀ {s' : Session}, s'.controller.policy = s.controller.policy →
      s'.controller.activated = s.controller.activated →
      s'.controller.snapshot.clients = s.controller.snapshot.clients →
      s'.controller.snapshot.products = s.controller.snapshot.products →
      Spares s (.answerKernels n answer) s' := fun hp ha hclients hproducts =>
    ⟨hp, fun _ _ => ha, fun list _ => Listing.entries_congr hclients hproducts list,
      fun h => absurd rfl (h n answer)⟩
  cases hstep <;> exact hspares rfl rfl rfl rfl

/-- Every turn spares what is not its own. -/
theorem spares_take (s : Session) (t : Turn) : Spares s t (s.take t) := by
  cases t with
  | activate => exact spares_activate s
  | observe i => exact spares_observe s i
  | render i =>
    -- a render activates first and then observes
    have hactivate := spares_activate s
    have hobserve := spares_observe s.activate i
    exact ⟨hobserve.policy.trans hactivate.policy, fun _ h => absurd rfl (h i),
      fun list _ => (hobserve.entries list (by simp)).trans (hactivate.entries list (by simp)),
      fun _ => (hobserve.staleResults (by simp)).trans (hactivate.staleResults (by simp))⟩
  | suspend =>
    rcases suspend_cases s with ⟨he, -⟩ | ⟨-, -, _, _, -, he⟩ <;> rw [take, he]
    · exact .refl s _
    · exact .of_eq rfl rfl rfl rfl rfl
  | tearDown =>
    rcases tearDown_cases s with ⟨he, -⟩ | ⟨-, _, -, he⟩ <;> rw [take, he]
    · exact .refl s _
    · exact .of_eq rfl rfl rfl rfl rfl
  | start n =>
    rcases start_cases s n with he | ⟨_, -, he⟩ <;> rw [take, he]
    · exact .refl s _
    · exact .of_eq rfl rfl rfl rfl rfl
  | drop n => exact spares_drop s n
  | answerCatalog list n answer => exact spares_answerCatalog s list n answer
  | answerKernels n answer => exact spares_answerKernels s n answer
  | _ => exact .of_eq rfl rfl rfl rfl rfl

/-- An answer that nobody waits for changes nothing. -/
theorem take_unawaited (ht : t.Answers n) (h : ∀ q, s.loads[n]? ≠ some ⟨q, .running⟩) :
    s.take t = s := by
  rcases ht with ⟨list, answer, rfl⟩ | ⟨answer, rfl⟩
  · exact (answerCatalog_cases s list n answer).resolve_right fun hl => h _ hl.1
  · exact answerKernels_unasked (fun key x => h _) answer

/-! ## What is asked -/

/-- What the loads ask, in the order they were issued. -/
def questions (s : Session) : List Question := s.loads.map (·.question)

/-- What the loads of the catalog ask, if they are still to be issued. -/
def catalogDue (s : Session) : List Question :=
  if s.controller.activated || s.controller.tornDown then [] else [.clients, .products]

/-- What a derivation for the inputs asks. -/
def kernelsDue (s : Session) (i : Inputs) : List Question :=
  if s.unmoved i then []
  else (Derivation.question? ⟨⟨s.controller.generation + 1, i.scope⟩, i⟩).toList

/-- What the loads ask that a turn issues. -/
def issues (s : Session) : Turn → List Question
  | .activate => s.catalogDue
  | .observe i => s.kernelsDue i
  | .render i => s.catalogDue ++ s.kernelsDue i
  | _ => []

theorem length_questions (s : Session) : s.questions.length = s.loads.length := List.length_map ..

theorem getElem?_questions : s.questions[n]? = some q ↔ Asks s.loads n q := by
  rw [questions, List.getElem?_map, Asks]

theorem mem_questions : q ∈ s.questions ↔ ∃ n, Asks s.loads n q :=
  List.mem_iff_getElem?.trans (exists_congr fun _ => getElem?_questions)

theorem questions_of_loads (h : s'.loads = s.loads) : s'.questions = s.questions := by
  rw [questions, h, questions]

/-- A load keeps its question. -/
theorem questions_setStage (s : Session) (n : Nat) (stage : Stage) :
    (s.setStage n stage).questions = s.questions :=
  questions_eq fun _ _ => asks_setStage

/-- A load that is taken off keeps its question. -/
theorem questions_supersede (s : Session) : s.supersede.questions = s.questions := by
  obtain ⟨loads, _, hages, he⟩ := supersede_eq s
  rw [he]
  exact questions_eq hages.asks

/-- To activate asks for the lists of the catalog. -/
theorem questions_activate (s : Session) :
    s.activate.questions = s.questions ++ s.catalogDue := by
  unfold activate catalogDue
  split
  · rw [List.append_nil]
  · simp [questions, issue]

/-- A derivation asks for the kernels of its scope. -/
theorem questions_derive (s : Session) (i : Inputs) : (s.derive i).questions = s.questions ++
    (Derivation.question? ⟨⟨s.controller.generation + 1, i.scope⟩, i⟩).toList := by
  rw [questions, loads_derive, List.map_append, ← questions, questions_supersede]
  cases hi : i.scope <;> simp [Derivation.question?, hi]

/-- An observation asks what it has to. -/
theorem questions_observe (s : Session) (i : Inputs) :
    (s.observe i).questions = s.questions ++ s.kernelsDue i := by
  rw [observe_eq, kernelsDue]
  split
  · rw [List.append_nil]
  · exact questions_derive s i

theorem kernelsDue_activate (s : Session) (i : Inputs) :
    s.activate.kernelsDue i = s.kernelsDue i := by
  have hquiet := quiet_activate s
  rw [kernelsDue, kernelsDue, hquiet.unmoved, hquiet.generation]

/-- A turn adds the questions it issues. -/
theorem questions_take (s : Session) (t : Turn) :
    (s.take t).questions = s.questions ++ s.issues t := by
  -- only an activation and an observation ask anything
  have hsame : (s.take t).questions = s.questions → s.issues t = [] →
      (s.take t).questions = s.questions ++ s.issues t := by
    intro h hnone
    rw [h, hnone, List.append_nil]
  cases t with
  | activate => exact questions_activate s
  | observe i => exact questions_observe s i
  | render i =>
    rw [take, questions_observe, questions_activate, kernelsDue_activate, List.append_assoc]
    rfl
  | suspend =>
    refine hsame ?_ rfl
    rcases suspend_cases s with ⟨he, -⟩ | ⟨-, -, loads, _, hages, he⟩
    · rw [take, he]
    · rw [take, he]; exact questions_eq hages.asks
  | tearDown =>
    refine hsame ?_ rfl
    rcases tearDown_cases s with ⟨he, -⟩ | ⟨-, loads, hages, he⟩
    · rw [take, he]
    · rw [take, he]; exact questions_eq hages.asks
  | start n =>
    refine hsame ?_ rfl
    rcases start_cases s n with he | ⟨_, -, he⟩
    · rw [take, he]
    · rw [take, he]; exact questions_setStage s n _
  | answerCatalog list n answer =>
    refine hsame ?_ rfl
    rcases answerCatalog_cases s list n answer with he | ⟨-, _, _, he⟩
    · rw [take, he]
    · rw [take, he]; exact questions_setStage s n _
  | answerKernels n answer =>
    refine hsame ?_ rfl
    have hstep := answerKernels_step s n answer
    rw [take]
    generalize s.answerKernels n answer = s' at hstep ⊢
    cases hstep with
    | unasked => rfl
    | _ => exact questions_setStage s n _
  | drop n =>
    refine hsame ?_ rfl
    rcases drop_cases s n with he | ⟨_, _, _, -, he⟩
    · rw [take, he]
    · rw [take, he]; exact questions_setStage s n _
  | _ => exact hsame rfl rfl

/-- **A step issues the loads of its turn and no others.** -/
theorem questions_step (s : Session) (a : Action) :
    (s.step a).questions = s.questions ++ s.issues (s.turn a) := by
  obtain ⟨_, _, _, _, he⟩ := step_eq s a
  rw [he, questions_of_loads (withBooks_loads ..), questions_take]

/-- The catalog does not ask for kernels. -/
theorem not_isKernels_of_mem_catalogDue (h : q ∈ s.catalogDue) : q.isKernels = false := by
  unfold catalogDue at h
  split at h
  · cases h
  · simp only [List.mem_cons, List.not_mem_nil, or_false] at h
    rcases h with rfl | rfl <;> rfl

/-- What a derivation asks is what its step issues of kernels. -/
theorem filter_issues (s : Session) (a : Action) :
    (s.issues (s.turn a)).filter Question.isKernels =
      ((s.derivation? a).bind Derivation.question?).toList := by
  -- the catalog asks for no kernels, so what is left is due to an observation
  have hcatalog : s.catalogDue.filter Question.isKernels = [] :=
    List.filter_eq_nil_iff.mpr fun q hq => by simp [not_isKernels_of_mem_catalogDue hq]
  have hobserved : ∀ i, (s.turn a).observed = some i →
      (s.kernelsDue i).filter Question.isKernels =
        ((s.derivation? a).bind Derivation.question?).toList := by
    intro i hi
    unfold kernelsDue
    cases hu : s.unmoved i with
    | true => simp [derivation?, hi, hu]
    | false =>
      obtain ⟨place, hd⟩ := step_derived hi hu
      rw [derivation_derived hi hd]
      simp only [Option.bind_some, Derivation.question?]
      cases i.scope <;> rfl
  have hnone : (s.turn a).observed = none → s.derivation? a = none := by
    intro h
    simp only [derivation?, h]
  cases ht : s.turn a with
  | observe i => exact hobserved i (by rw [ht]; rfl)
  | render i =>
    rw [issues, List.filter_append, hcatalog, List.nil_append]
    exact hobserved i (by rw [ht]; rfl)
  | activate => rw [hnone (by rw [ht]; rfl)]; exact hcatalog
  | _ => rw [hnone (by rw [ht]; rfl)]; rfl

/-- The kernels asked for in a run are those of its derivations, in order. -/
theorem questions_run (s : Session) (as : List Action) :
    (s.run as).questions.filter Question.isKernels =
      s.questions.filter Question.isKernels ++
        (s.derivations as).filterMap Derivation.question? := by
  induction as using List.reverseRecOn with
  | nil => simp [derivations, collect]
  | append_singleton as a ih =>
    have hlast : ((s.run as).derivation? a).toList.filterMap Derivation.question? =
        (((s.run as).derivation? a).bind Derivation.question?).toList := by
      cases (s.run as).derivation? a with
      | none => rfl
      | some d => cases hq : d.question? <;> simp [hq]
    unfold derivations at ih ⊢
    rw [run_concat, questions_step, List.filter_append, ih, filter_issues, collect_concat,
      List.filterMap_append, hlast, List.append_assoc]

/-! ## No question is asked twice -/

/-- Who has issued the loads of the catalog is activated. -/
theorem catalogDue_activate (s : Session) : s.activate.controller.activated = false →
    s.controller.activated = false ∧ s.catalogDue = [] := by
  intro h
  unfold activate at h
  split at h
  · rename_i hdone
    exact ⟨h, if_pos hdone⟩
  · cases h

/-- An observation asks for kernels with the next key. -/
theorem isKernels_of_mem_kernelsDue {i : Inputs} (h : q ∈ s.kernelsDue i) :
    q.isKernels = true ∧ ∃ x, q = .kernels ⟨s.controller.generation + 1, i.scope⟩ x := by
  unfold kernelsDue at h
  split at h
  · cases h
  · obtain ⟨x, -, rfl⟩ := Option.map_eq_some_iff.mp (Option.mem_toList.mp h)
    exact ⟨rfl, x, rfl⟩

/-- No two loads ask the same, and those of the catalog are issued when the sub-form is
activated. -/
structure Distinct (s : Session) : Prop where
  nodup : s.questions.Nodup
  catalog : s.controller.activated = false → ∀ q ∈ s.questions, q.isKernels = true

/-- A sub-form just mounted has asked nothing. -/
theorem distinct_mount (form : Form) (context : Context) (policy : StalePolicy) :
    Distinct (mount form context policy) :=
  ⟨.nil, fun _ _ hq => absurd hq List.not_mem_nil⟩

/-- Before the first activation only kernels are asked for. -/
theorem activated_step (h : (s.step a).controller.activated = false) :
    s.controller.activated = false ∧ ∀ q ∈ s.issues (s.turn a), q.isKernels = true := by
  rw [step_controller] at h
  -- the lists are asked for by what activates, and nothing else does
  cases ht : s.turn a with
  | activate =>
    rw [ht] at h
    obtain ⟨hs, hdue⟩ := catalogDue_activate s h
    refine ⟨hs, fun q hq => ?_⟩
    rw [issues, hdue] at hq
    cases hq
  | render i =>
    rw [ht, take, (spares_observe s.activate i).activated (by simp) (by simp)] at h
    obtain ⟨hs, hdue⟩ := catalogDue_activate s h
    refine ⟨hs, fun q hq => ?_⟩
    rw [issues, hdue, List.nil_append] at hq
    exact (isKernels_of_mem_kernelsDue hq).1
  | observe i =>
    rw [ht, (spares_take s _).activated (by simp) (by simp)] at h
    exact ⟨h, fun q hq => (isKernels_of_mem_kernelsDue hq).1⟩
  | _ =>
    rw [ht, (spares_take s _).activated (by simp) (by simp)] at h
    exact ⟨h, fun q hq => absurd hq List.not_mem_nil⟩

/-- What is due has not been asked yet. -/
theorem Distinct.fresh (h : Distinct s) (hcoh : Coherent s) (t : Turn) :
    (s.issues t).Nodup ∧ ∀ q ∈ s.issues t, q ∉ s.questions := by
  -- the lists are asked for once, before they were activated, and kernels with a key that is new
  have hcatalog : s.catalogDue.Nodup ∧
      ∀ q ∈ s.catalogDue, q ∉ s.questions ∧ q.isKernels = false := by
    unfold catalogDue
    split
    · exact ⟨.nil, fun q hq => absurd hq List.not_mem_nil⟩
    · rename_i hdone
      refine ⟨by decide, fun q hq => ?_⟩
      have hkind : q.isKernels = false :=
        not_isKernels_of_mem_catalogDue (s := s) (by rw [catalogDue, if_neg hdone]; exact hq)
      refine ⟨fun hmem => ?_, hkind⟩
      rw [h.catalog (by simp_all) q hmem] at hkind
      cases hkind
  have hkernels : ∀ i, (s.kernelsDue i).Nodup ∧ ∀ q ∈ s.kernelsDue i, q ∉ s.questions := by
    intro i
    refine ⟨?_, fun q hq hmem => ?_⟩
    · unfold kernelsDue
      split
      · exact .nil
      · cases Derivation.question? ⟨⟨s.controller.generation + 1, i.scope⟩, i⟩ <;> simp
    · obtain ⟨-, x, rfl⟩ := isKernels_of_mem_kernelsDue hq
      obtain ⟨n, ha⟩ := mem_questions.mp hmem
      exact hcoh.fresh ha
  cases t with
  | activate => exact ⟨hcatalog.1, fun q hq => (hcatalog.2 q hq).1⟩
  | observe i => exact hkernels i
  | render i =>
    refine ⟨List.nodup_append.mpr ⟨hcatalog.1, (hkernels i).1, fun q hq q' hq' => ?_⟩,
      fun q hq => ?_⟩
    · rintro rfl
      have hkind := (hcatalog.2 q hq).2
      rw [(isKernels_of_mem_kernelsDue hq').1] at hkind
      cases hkind
    · rcases List.mem_append.mp hq with hq | hq
      · exact (hcatalog.2 q hq).1
      · exact (hkernels i).2 q hq
  | _ => exact ⟨.nil, fun q hq => absurd hq List.not_mem_nil⟩

/-- A step asks nothing that was asked before. -/
theorem Distinct.step (h : Distinct s) (hcoh : Coherent s) (a : Action) : Distinct (s.step a) where
  nodup := by
    obtain ⟨hnodup, hnew⟩ := h.fresh hcoh (s.turn a)
    rw [questions_step]
    refine List.nodup_append.mpr ⟨h.nodup, hnodup, fun q hq q' hq' => ?_⟩
    rintro rfl
    exact hnew q hq' hq
  catalog hup q hq := by
    obtain ⟨hs, hissued⟩ := activated_step hup
    rw [questions_step] at hq
    rcases List.mem_append.mp hq with hq | hq
    · exact h.catalog hs q hq
    · exact hissued q hq

/-- No question is asked twice. -/
theorem distinct_run (h : Distinct s) (hcoh : Coherent s) (as : List Action) :
    Distinct (s.run as) := by
  induction as generalizing s with
  | nil => exact h
  | cons a as ih => exact ih (h.step hcoh a) (coherent_step hcoh a)

/-- **A question is asked by one load.** -/
theorem Distinct.eq (h : Distinct s) (hn : Asks s.loads n q) (hm : Asks s.loads m q) : n = m := by
  have hlt : n < s.questions.length := by
    rw [length_questions]
    exact hn.lt_length
  refine (List.getElem?_inj hlt h.nodup).mp ?_
  rw [getElem?_questions.mpr hn, getElem?_questions.mpr hm]

/-! ## Later loads have later keys -/

/-- Of two loads of kernels, the one issued later has the later key. -/
def KeysGrow (s : Session) : Prop :=
  s.questions.Pairwise fun q q' => ∀ key x key' x', q = .kernels key x → q' = .kernels key' x' →
    key.generation < key'.generation

theorem keysGrow_mount (form : Form) (context : Context) (policy : StalePolicy) :
    KeysGrow (mount form context policy) := .nil

/-- Kernels are asked for with the key of the next generation. -/
theorem generation_of_mem_issues {key : RequestKey} {x : Scope} {t : Turn}
    (h : .kernels key x ∈ s.issues t) : key.generation = s.controller.generation + 1 := by
  -- only a derivation issues loads of kernels, and they have its key
  have hdue : ∀ i, .kernels key x ∈ s.kernelsDue i →
      key.generation = s.controller.generation + 1 := by
    intro i hq
    obtain ⟨-, y, heq⟩ := isKernels_of_mem_kernelsDue hq
    cases heq
    rfl
  cases t with
  | activate => cases not_isKernels_of_mem_catalogDue h
  | observe i => exact hdue i h
  | render i =>
    rcases List.mem_append.mp h with hq | hq
    · cases not_isKernels_of_mem_catalogDue hq
    · exact hdue i hq
  | _ => cases h

/-- A turn asks for kernels once at most. -/
theorem keysGrow_issues (s : Session) (t : Turn) : (s.issues t).Pairwise fun q q' =>
    ∀ key x key' x', q = .kernels key x → q' = .kernels key' x' →
      key.generation < key'.generation := by
  -- one question for kernels at most is issued in a turn, so there is nothing to compare
  have hcatalog : ∀ q ∈ s.catalogDue, ∀ key x, q ≠ .kernels key x := by
    rintro q hq key x rfl
    cases not_isKernels_of_mem_catalogDue hq
  have hpair : s.catalogDue.Pairwise fun q q' => ∀ key x key' x', q = .kernels key x →
      q' = .kernels key' x' → key.generation < key'.generation :=
    List.pairwise_of_forall_mem_list fun q hq _ _ key x _ _ he _ => absurd he (hcatalog q hq key x)
  have hdue : ∀ i, (s.kernelsDue i).Pairwise fun q q' => ∀ key x key' x', q = .kernels key x →
      q' = .kernels key' x' → key.generation < key'.generation := by
    intro i
    unfold kernelsDue
    split
    · exact .nil
    · cases Derivation.question? ⟨⟨s.controller.generation + 1, i.scope⟩, i⟩ <;> simp
  cases t with
  | activate => exact hpair
  | observe i => exact hdue i
  | render i =>
    exact List.pairwise_append.mpr ⟨hpair, hdue i, fun q hq _ _ key x _ _ he _ =>
      absurd he (hcatalog q hq key x)⟩
  | _ => exact .nil

/-- A step asks with a later key. -/
theorem KeysGrow.step (h : KeysGrow s) (hcoh : Coherent s) (a : Action) : KeysGrow (s.step a) := by
  unfold KeysGrow
  rw [questions_step]
  refine List.pairwise_append.mpr ⟨h, keysGrow_issues s _, fun q hq q' hq' => ?_⟩
  rintro key x key' x' rfl rfl
  obtain ⟨n, ha⟩ := mem_questions.mp hq
  have hold := (hcoh.keys n key x ha).1
  have hnew := generation_of_mem_issues hq'
  omega

/-- Later loads ask with later keys. -/
theorem keysGrow_run (h : KeysGrow s) (hcoh : Coherent s) (as : List Action) :
    KeysGrow (s.run as) := by
  induction as generalizing s with
  | nil => exact h
  | cons a as ih => exact ih (h.step hcoh a) (coherent_step hcoh a)

/-- **The load with the current key is the last one of kernels.** -/
theorem KeysGrow.le (h : KeysGrow s) (hcoh : Coherent s) {key key' : RequestKey} {x x' : Scope}
    (hcur : s.controller.current = some key) (hn : Asks s.loads n (.kernels key x))
    (hm : Asks s.loads m (.kernels key' x')) : m ≤ n := by
  by_contra hlt
  -- otherwise the later load would have the later key, beyond the one that is current
  have hgrows : key.generation < key'.generation := by
    obtain ⟨hlenn, hqn⟩ := List.getElem?_eq_some_iff.mp (getElem?_questions.mpr hn)
    obtain ⟨hlenm, hqm⟩ := List.getElem?_eq_some_iff.mp (getElem?_questions.mpr hm)
    exact List.pairwise_iff_getElem.mp h n m hlenn hlenm (by omega) _ _ _ _ hqn hqm
  obtain ⟨-, i, -, hkey⟩ := hcoh.inputs_of_current hcur
  have hlast := (hcoh.keys m key' x' hm).1
  rw [hkey] at hgrows
  simp only at hgrows
  omega

/-! ## How a load goes on -/

/-- Of several loads that are aborted each is aborted or left. -/
theorem getElem?_foldl_abort (s : Session) (ns : List Nat) (n : Nat) :
    (ns.foldl abort s).loads[n]? = s.loads[n]? ∨
      (ns.foldl abort s).loads[n]? = (s.loads[n]?).map Load.abort := by
  -- a load may stand in the list twice, but to abort it again changes nothing
  have htwice : ∀ l : Load, l.abort.abort = l.abort := by
    intro l
    simp only [Load.abort, Stage.abort_abort]
  induction ns generalizing s with
  | nil => exact .inl rfl
  | cons m ns ih =>
    have hone : (s.abort m).loads[n]? = s.loads[n]? ∨
        (s.abort m).loads[n]? = (s.loads[n]?).map Load.abort := by
      by_cases hm : m = n
      · subst hm; exact .inr getElem?_modify_self
      · exact .inl (getElem?_modify_ne hm)
    rw [List.foldl_cons]
    rcases ih (s.abort m) with hrest | hrest
    · rw [hrest]; exact hone
    · rw [hrest]
      rcases hone with hone | hone
      · rw [hone]; exact .inr rfl
      · rw [hone, Option.map_map]
        exact .inr (congrArg (Option.map · _) (funext htwice))

/-- A supersession aborts a load or leaves it. -/
theorem getElem?_supersede (s : Session) (n : Nat) : s.supersede.loads[n]? = s.loads[n]? ∨
    s.supersede.loads[n]? = (s.loads[n]?).map Load.abort := by
  unfold supersede
  cases s.controller.kernelLoad with
  | none => exact .inl rfl
  | some m =>
    cases s.controller.policy with
    | cancel => exact getElem?_foldl_abort s [m] n
    | ignore => exact .inl rfl

/-- A derivation aborts a load or leaves it. -/
theorem getElem?_derive (s : Session) (i : Inputs) (h : n < s.loads.length) :
    (s.derive i).loads[n]? = s.loads[n]? ∨
      (s.derive i).loads[n]? = (s.loads[n]?).map Load.abort := by
  have hlen : n < s.supersede.loads.length := Nat.lt_of_lt_of_le h (keeps_supersede s).grows
  rw [loads_derive, List.getElem?_append_left hlen]
  exact getElem?_supersede s n

/-- A load that is left alone, or aborted by an operation. -/
theorem advance_abort (h : s.loads[n]? = some ⟨q, stage⟩) (ht : t.operates = true)
    (hs : s'.loads[n]? = s.loads[n]? ∨ s'.loads[n]? = (s.loads[n]?).map Load.abort) :
    ∃ stage', s'.loads[n]? = some ⟨q, stage'⟩ ∧ Advance n t stage stage' := by
  rcases hs with hs | hs
  · exact ⟨stage, hs.trans h, .kept stage⟩
  · refine ⟨stage.abort, ?_, .aborted stage ht⟩
    rw [hs, h]
    rfl

/-- A load moves to a new stage, and the others stay where they are. -/
theorem advance_setStage {stage' stage'' : Stage} {q' : Question}
    (h : s.loads[n]? = some ⟨q, stage⟩) (hm : s.loads[m]? = some ⟨q', stage'⟩)
    (hs : s'.loads = (s.setStage m stage'').loads)
    (hadvance : m = n → Advance n t stage' stage'') :
    ∃ stage₁, s'.loads[n]? = some ⟨q, stage₁⟩ ∧ Advance n t stage stage₁ := by
  by_cases hmn : m = n
  · subst hmn
    rw [hm] at h
    cases h
    refine ⟨stage'', ?_, hadvance rfl⟩
    rw [hs, setStage, getElem?_modify_self, hm]
    rfl
  · refine ⟨stage, ?_, .kept stage⟩
    rw [hs, setStage, getElem?_modify_ne hmn, h]

theorem getElem?_observe (s : Session) (i : Inputs) (h : n < s.loads.length) :
    (s.observe i).loads[n]? = s.loads[n]? ∨
      (s.observe i).loads[n]? = (s.loads[n]?).map Load.abort := by
  rw [observe_eq]
  split
  · exact .inl rfl
  · exact getElem?_derive s i h

theorem getElem?_activate (s : Session) (h : n < s.loads.length) :
    s.activate.loads[n]? = s.loads[n]? := by
  rcases activate_cases s with he | he
  · rw [he]
  · rw [he, List.append_assoc, List.getElem?_append_left h]

/-- A suspension aborts a load or leaves it. -/
theorem getElem?_suspend (s : Session) (n : Nat) : s.suspend.loads[n]? = s.loads[n]? ∨
    s.suspend.loads[n]? = (s.loads[n]?).map Load.abort := by
  rw [suspend_eq]
  split
  · exact .inl rfl
  · exact getElem?_supersede s n

/-- A tear-down aborts a load or leaves it. -/
theorem getElem?_tearDown (s : Session) (n : Nat) : s.tearDown.loads[n]? = s.loads[n]? ∨
    s.tearDown.loads[n]? = (s.loads[n]?).map Load.abort := by
  unfold tearDown
  split
  · exact .inl rfl
  · exact getElem?_foldl_abort s _ n

/-- Whatever becomes of the answer, its load is finished. -/
theorem advance_answerKernels (h : s.loads[n]? = some ⟨q, stage⟩) (m : Nat)
    (answer : Except ProviderError (List Kernel)) :
    ∃ stage', (s.answerKernels m answer).loads[n]? = some ⟨q, stage'⟩ ∧
      Advance n (.answerKernels m answer) stage stage' := by
  have hanswered : m = n → Advance n (.answerKernels m answer) .running .finished := by
    rintro rfl
    exact .answered (.inr ⟨answer, rfl⟩)
  have hstep := answerKernels_step s m answer
  generalize s.answerKernels m answer = s' at hstep ⊢
  cases hstep with
  | unasked => exact ⟨stage, h, .kept stage⟩
  | stale key x hm => exact advance_setStage h hm rfl hanswered
  | forgotten key x hm => exact advance_setStage h hm rfl hanswered
  | installed key x i kernels hm => exact advance_setStage h hm rfl hanswered
  | refused key x i e hm => exact advance_setStage h hm rfl hanswered

/-- A turn moves each load one stage at most. -/
theorem advance_take (h : s.loads[n]? = some ⟨q, stage⟩) (t : Turn) :
    ∃ stage', (s.take t).loads[n]? = some ⟨q, stage'⟩ ∧ Advance n t stage stage' := by
  have hlt : n < s.loads.length := (List.getElem?_eq_some_iff.mp h).1
  -- a turn that finds nothing to do leaves the load
  have hkept : (s.take t).loads = s.loads →
      ∃ stage', (s.take t).loads[n]? = some ⟨q, stage'⟩ ∧ Advance n t stage stage' := by
    intro hs
    exact ⟨stage, by rw [hs, h], .kept stage⟩
  cases t with
  | activate => exact ⟨stage, (getElem?_activate s hlt).trans h, .kept stage⟩
  | observe i => exact advance_abort h rfl (getElem?_observe s i hlt)
  | render i =>
    have hlt' : n < s.activate.loads.length := Nat.lt_of_lt_of_le hlt (keeps_activate s).grows
    have hs := getElem?_observe s.activate i hlt'
    rw [getElem?_activate s hlt] at hs
    exact advance_abort h rfl hs
  | suspend => exact advance_abort h rfl (getElem?_suspend s n)
  | tearDown => exact advance_abort h rfl (getElem?_tearDown s n)
  | start m =>
    rcases start_cases s m with he | ⟨q', hm, he⟩
    · exact hkept (by rw [take, he])
    · refine advance_setStage h hm (by rw [take, he]) ?_
      rintro rfl
      exact .started rfl
  | drop m =>
    rcases drop_cases s m with he | ⟨q', asked, _, hm, he⟩
    · exact hkept (by rw [take, he])
    · refine advance_setStage h hm (by rw [take, he]) ?_
      rintro rfl
      exact .dropped asked rfl
  | answerCatalog list m answer =>
    rcases answerCatalog_cases s list m answer with he | ⟨hm, _, _, he⟩
    · exact hkept (by rw [take, he])
    · refine advance_setStage h hm (by rw [take, he]) ?_
      rintro rfl
      exact .answered (.inl ⟨list, answer, rfl⟩)
  | answerKernels m answer => exact advance_answerKernels h m answer
  | _ => exact hkept rfl

/-- **A step moves a load as its turn does.** -/
theorem advance_step (h : s.loads[n]? = some ⟨q, stage⟩) (a : Action) :
    ∃ stage', (s.step a).loads[n]? = some ⟨q, stage'⟩ ∧ Advance n (s.turn a) stage stage' := by
  obtain ⟨_, _, _, _, he⟩ := step_eq s a
  rw [he]
  exact advance_take h (s.turn a)

end Session

end LivePatching
