import LivePatching.Proofs.Loads
import LivePatching.Proofs.Provenance
import LivePatching.Proofs.Quiescence

/-!
# Derivations happen on a change

The controller hears the values that drive it, again and again, and from time to time that nothing
is shown. It derives the list of kernels anew when it hears other values than the last time.

* `Driving`, `Session.heard`: the values that count, and what the controller hears in a run.
* `heard_run`: **the inputs of the controller are what it has heard last.**
* `Makes`: what a derivation asks and writes; `Alike`: nothing has changed.
* `settled_step`: while nothing is derived and no kernels are being loaded, the sub-form does not
  write.
* `change_run`: **a derivation is made for each change, and for nothing else.**
-/

namespace LivePatching

open Json

/-- The values that a derivation depends on. -/
structure Driving where
  template : Template
  clientId : Option EntityId
  productId : Option EntityId
  /-- The model that is written. -/
  writes : Option Nat
deriving DecidableEq, Repr, Inhabited

/-- The part of the inputs that a derivation depends on. -/
def Inputs.driving (i : Inputs) : Driving :=
  ⟨i.template, i.clientId, i.productId, i.context.writes⟩

/-- Inputs count as the same when they agree in what drives a derivation. -/
theorem Inputs.same_iff_driving {i j : Inputs} : i.same j = true ↔ i.driving = j.driving := by
  rw [Inputs.same_iff, driving, driving, Driving.mk.injEq]

/-- What a turn tells the controller: the values that drive it, or that nothing is shown. -/
def Turn.word? : Turn → Option (Option Driving)
  | .observe i => some (some i.driving)
  | .render i => some (some i.driving)
  | .suspend => some none
  | _ => none

theorem Turn.word?_of_observed {t : Turn} {i : Inputs} (h : t.observed = some i) :
    t.word? = some (some i.driving) := by
  cases t with
  | observe j => cases h; rfl
  | render j => cases h; rfl
  | _ => cases h

/-- A write to another place leaves a value alone. -/
theorem Form.get?_write_of_ne (f : Form) {i j : Nat} {key other : String}
    (h : ¬ (i = j ∧ key = other)) (value : Value) :
    ((f.write i key value).model j).get? other = (f.model j).get? other := by
  rw [model_write]
  split
  · rename_i hij
    rw [FormModel.get?_set, if_neg fun hk => h ⟨hij.1, hk⟩]
  · rfl

namespace Session

variable {s s' : Session} {a : Action} {as xs ys : List Action} {i : Inputs} {d : Driving} {m : Nat}

/-- What the controller hears in a run, in order. -/
def heard (s : Session) (as : List Action) : List (Option Driving) :=
  s.collect (fun s a => (s.turn a).word?) as

/-! ## What the inputs are -/

/-- The inputs after a step are those it tells of, or those before. -/
theorem driving_step (hup : (s.step a).controller.tornDown = false) :
    (s.step a).controller.inputs.map Inputs.driving =
      ((s.turn a).word?).getD (s.controller.inputs.map Inputs.driving) := by
  -- inputs that stay have the same driving part as those that are observed
  have hobserved : ∀ i, (s.turn a).observed = some i →
      (s.step a).controller.inputs.map Inputs.driving =
        ((s.turn a).word?).getD (s.controller.inputs.map Inputs.driving) := by
    intro i hi
    rw [Turn.word?_of_observed hi]
    rcases inputs_observed hi hup with h | ⟨j, -, h, hsame⟩
    · rw [h]; rfl
    · rw [h, ← Inputs.same_iff_driving.mp hsame]; rfl
  cases ht : s.turn a with
  | observe i => rw [← ht]; exact hobserved i (by rw [ht]; rfl)
  | render i => rw [← ht]; exact hobserved i (by rw [ht]; rfl)
  | suspend => rw [inputs_suspended ht hup]; rfl
  | _ => rw [inputs_untold (by rw [ht]; rfl)]; rfl

/-- **The inputs of the controller are what it has heard last**, unless that was that nothing is
shown. -/
theorem heard_run (h₀ : s.controller.inputs = none) (as : List Action)
    (hup : (s.run as).controller.tornDown = false) :
    (s.run as).controller.inputs.map Inputs.driving = (s.heard as).getLast?.join := by
  induction as using List.reverseRecOn with
  | nil => rw [run_nil, h₀]; rfl
  | append_singleton as a ih =>
    rw [run_concat] at hup ⊢
    have hbefore := ih (up_of_step hup)
    unfold heard at hbefore ⊢
    rw [collect_concat, driving_step hup, hbefore]
    cases ((s.run as).turn a).word? with
    | none => rw [Option.toList_none, List.append_nil]; rfl
    | some word => rw [Option.toList_some, List.getLast?_concat]; rfl

/-- An observation derives when its values are not those of the inputs. -/
theorem derives_iff (hup : s.controller.tornDown = false) (hi : (s.turn a).observed = some i) :
    Derives s a ↔ s.controller.inputs.map Inputs.driving ≠ some i.driving := by
  have hmoved : s.unmoved i = true ↔ s.controller.inputs.map Inputs.driving = some i.driving := by
    simp only [unmoved, hup, Bool.false_or, Option.any_eq_true, Option.map_eq_some_iff,
      Inputs.same_iff_driving]
  rw [ne_eq, ← hmoved]
  cases hu : s.unmoved i with
  | true => simp [Derives, derivation?, hi, hu]
  | false =>
    obtain ⟨place, hd⟩ := step_derived hi hu
    simp [Derives, derivation_derived hi hd]

theorem join_eq_some {o : Option (Option Driving)} : o.join = some d ↔ o = some (some d) := by
  cases o with
  | none => simp
  | some o => simp

/-! ## What a derivation does -/

/-- The kernels that were asked for so far, in order. -/
def kernelQuestions (s : Session) : List Question := s.questions.filter Question.isKernels

/-- The step makes the derivation, which asks for the kernels of its scope, once. Without a scope it
asks for none and writes null for the kernel, in the model that it writes, if there is one; nothing
else is written. -/
structure Makes (s : Session) (d : Derivation) (s' : Session) : Prop where
  key : d.key = ⟨s.controller.generation + 1, d.inputs.scope⟩
  asks : s'.kernelQuestions = s.kernelQuestions ++ (d.inputs.scope.map (.kernels d.key)).toList
  models : s'.form.models =
    match d.inputs.scope, d.inputs.context.writes with
    | none, some m => (s.form.write m Field.kernelId.key .null).models
    | _, _ => s.form.models

/-- The kernel questions of a step are those of its derivation. -/
theorem kernelQuestions_step (s : Session) (a : Action) : (s.step a).kernelQuestions =
    s.kernelQuestions ++ ((s.derivation? a).bind Derivation.question?).toList := by
  rw [kernelQuestions, questions_step, List.filter_append, filter_issues, kernelQuestions]

/-- The step of a derivation makes of the session what that derivation says. -/
theorem makes_step {d : Derivation} (h : s.derivation? a = some d) : s.Makes d (s.step a) := by
  obtain ⟨i, place, hi, hd⟩ := derived_of_derivation (by rw [h]; simp)
  have hasks := kernelQuestions_step s a
  rw [derivation_derived hi hd] at h
  cases h
  rw [derivation_derived hi hd] at hasks
  refine ⟨rfl, hasks, ?_⟩
  rw [hd.models]
  dsimp only
  cases i.scope with
  | some x => rfl
  | none =>
    rw [if_pos rfl, Form.writeKernelId]
    cases i.context.writes <;> rfl

/-- The controller, the loads, the models and what is counted are as before. -/
structure Alike (s s' : Session) : Prop where
  controller : s'.controller = s.controller
  loads : s'.loads = s.loads
  tally : s'.tally = s.tally
  models : s'.form.models = s.form.models

theorem alike_step (h : s.take (s.turn a) = s') : Alike s' (s.step a) := by
  obtain ⟨_, _, _, _, he⟩ := step_eq s a
  rw [he, h]
  exact ⟨rfl, rfl, rfl, rfl⟩

/-- An observation that does not derive changes nothing; a render issues the loads of the catalog
all the same, if they are still to be issued. -/
theorem alike_observed (hi : (s.turn a).observed = some i) (h : s.derivation? a = none) :
    Alike s (s.step a) ∨ s.turn a = .render i ∧ Alike s.activate (s.step a) := by
  -- an observation that does not derive has found the inputs as they were
  have hu : s.unmoved i = true := by
    by_contra hno
    obtain ⟨place, hd⟩ := step_derived hi (by simpa using hno)
    rw [derivation_derived hi hd] at h
    cases h
  cases ht : s.turn a with
  | observe j =>
    rw [ht] at hi
    cases hi
    refine .inl (alike_step ?_)
    rw [ht, take, observe_eq, if_pos hu]
  | render j =>
    rw [ht] at hi
    cases hi
    have hu' : s.activate.unmoved i = true := ((quiet_activate s).unmoved i).trans hu
    refine .inr ⟨rfl, alike_step ?_⟩
    rw [ht, take, observe_eq, if_pos hu']
  | _ => rw [ht] at hi; cases hi

/-- A suspension without anything to forget changes nothing. -/
theorem alike_suspended (ht : s.turn a = .suspend) (h : s.suspension? a = none) :
    Alike s (s.step a) := by
  refine alike_step ?_
  rw [ht, take]
  rcases suspend_cases s with ⟨he, -⟩ | ⟨hup, hi, -⟩
  · exact he
  · simp [suspension?, ht, hup, hi] at h

/-- A suspension happens when there is a derivation to forget. -/
theorem suspends_iff (hup : s.controller.tornDown = false) (ht : s.turn a = .suspend) :
    s.suspension? a ≠ none ↔ s.controller.inputs ≠ none := by
  simp [suspension?, ht, hup]

/-! ## The kernel that was chosen -/

/-- While nothing is derived and no kernels are being loaded, the sub-form does not write. -/
theorem settled_step (hc : Coherent s) (hloaded : ∀ x, s.controller.snapshot.status ≠ .loading x)
    (hd : s.derivation? a = none) : s.kernelWrite? a = none ∧
      ∀ x, (s.step a).controller.snapshot.status ≠ .loading x := by
  -- a load with the current key could not be running
  have hidle : ∀ {n : Nat} {key : RequestKey} {x : Scope},
      s.loads[n]? = some ⟨.kernels key x, .running⟩ → s.controller.current ≠ some key := by
    intro n key x hl hk
    exact hloaded x (hc.waiting n key x ⟨_, hl, rfl⟩ hk)
  cases step_kernels s a with
  | quiet hu hq _ => exact ⟨kernelWrite_unasked hd hu, by rw [hq.status]; exact hloaded⟩
  | derived i place ht hd' => rw [derivation_derived ht hd'] at hd; cases hd
  | suspended ht hs =>
    exact ⟨kernelWrite_unasked hd (by simp [ht, Unasked]), by rw [hs.status]; simp⟩
  | tornDown ht hs =>
    exact ⟨kernelWrite_unasked hd (by simp [ht, Unasked]), by rw [hs.snapshot]; exact hloaded⟩
  | stale load answer key x ht ha hs hcontroller _ =>
    exact ⟨kernelWrite_stale ht ha hs, by rw [hcontroller]; exact hloaded⟩
  | forgotten load answer key x ht ha _ _ hi hcontroller _ =>
    exact ⟨kernelWrite_forgotten ht ha hi, by rw [hcontroller]; exact hloaded⟩
  | installed load kernels key x i _ ha _ hk => exact absurd hk (hidle ha.running)
  | refused load e key x i _ ha _ hk => exact absurd hk (hidle ha.running)

/-- What the form leaves alone of the kernel, and the sub-form too. -/
theorem kernelValue_step (hleft : LeavesKernel m s a) (hw : s.kernelWrite? a = none) :
    ((s.step a).form.model m).get? Field.kernelId.key =
      (s.form.model m).get? Field.kernelId.key := by
  have hmodels := models_step s a
  rw [hw] at hmodels
  rw [Form.model_congr hmodels]
  show ((s.form.own (s.turn a)).model m).get? _ = _
  cases ht : s.turn a with
  | write j key value =>
    refine Form.get?_write_of_ne _ ?_ _
    rintro ⟨rfl, rfl⟩
    exact hleft value (turn_action (by rw [ht]; rfl))
  | _ => rfl

/-! ## Runs -/

/-- What the controller makes of what it hears in a run. -/
structure ByChange (s₀ : Session) (as : List Action) : Prop where
  /-- It derives for values that it hears first, or that are other than those before. -/
  derives : ∀ xs a ys i, as = xs ++ a :: ys → (s₀.run xs).controller.tornDown = false →
    ((s₀.run xs).turn a).observed = some i →
    (Derives (s₀.run xs) a ↔ (s₀.heard xs).getLast? ≠ some (some i.driving))
  /-- It forgets the derivation when it hears that nothing is shown, unless it has heard so. -/
  suspends : ∀ xs a ys, as = xs ++ a :: ys → (s₀.run xs).controller.tornDown = false →
    (s₀.run xs).turn a = .suspend →
    ((s₀.run xs).suspension? a ≠ none ↔ ∃ d, (s₀.heard xs).getLast? = some (some d))
  makes : ∀ xs a ys d, as = xs ++ a :: ys → (s₀.run xs).derivation? a = some d →
    (s₀.run xs).Makes d (s₀.run (xs ++ [a]))
  /-- No kernels are asked for but by derivations. -/
  asked : (s₀.run as).kernelQuestions = (s₀.derivations as).filterMap Derivation.question?
  unmoved : ∀ xs a ys i, as = xs ++ a :: ys → ((s₀.run xs).turn a).observed = some i →
    (s₀.run xs).derivation? a = none → Alike (s₀.run xs) (s₀.run (xs ++ [a])) ∨
      (s₀.run xs).turn a = .render i ∧ Alike (s₀.run xs).activate (s₀.run (xs ++ [a]))
  forgotten : ∀ xs a ys, as = xs ++ a :: ys → (s₀.run xs).turn a = .suspend →
    (s₀.run xs).suspension? a = none → Alike (s₀.run xs) (s₀.run (xs ++ [a]))
  generation : (s₀.run as).controller.generation =
    (s₀.derivations as).length + s₀.suspensions as
  /-- Once the kernels are loaded, the sub-form does not write as long as it hears the same, and a
  kernel that is chosen then stays. -/
  kept : ∀ xs ys d, as = xs ++ ys → (∀ x, (s₀.run xs).controller.snapshot.status ≠ .loading x) →
    (s₀.heard xs).getLast? = some (some d) → (∀ word ∈ (s₀.run xs).heard ys, word = some d) →
    (s₀.run xs).kernelWrites ys = [] ∧ ∀ m, (s₀.run xs).Always ys (LeavesKernel m) →
      ((s₀.run as).form.model m).get? Field.kernelId.key =
        ((s₀.run xs).form.model m).get? Field.kernelId.key

/-- Who hears the same again derives nothing. -/
theorem underived_of_heard (h₀ : s.controller.inputs = none)
    (hheard : (s.heard xs).getLast? = some (some d))
    (hword : ∀ word, ((s.run xs).turn a).word? = some word → word = some d) :
    (s.run xs).derivation? a = none := by
  by_contra hd
  obtain ⟨i, place, hi, hd'⟩ := derived_of_derivation hd
  have hup : (s.run xs).controller.tornDown = false := by
    have hmoved := hd'.moved
    simp only [Session.unmoved, Bool.or_eq_false_iff] at hmoved
    exact hmoved.1
  have hinputs := heard_run h₀ xs hup
  rw [hheard] at hinputs
  have hdriving : some i.driving = some d := hword _ (Turn.word?_of_observed hi)
  exact (derives_iff hup hi).mp hd (hinputs.trans hdriving.symm)

/-- What was heard last, after a run in which nothing else is heard. -/
theorem heard_append (hheard : (s.heard xs).getLast? = some (some d))
    (hwords : ∀ word ∈ (s.run xs).heard ys, word = some d) :
    (s.heard (xs ++ ys)).getLast? = some (some d) := by
  unfold heard at hheard hwords ⊢
  rw [collect_append]
  rcases List.eq_nil_or_concat ((s.run xs).collect (fun s a => (s.turn a).word?) ys) with
    hnil | ⟨words, word, hconcat⟩
  · rw [hnil, List.append_nil, hheard]
  · rw [List.concat_eq_append] at hconcat
    rw [hconcat] at hwords ⊢
    rw [← List.append_assoc, List.getLast?_concat, hwords word (by simp)]

/-- Once the kernels are loaded, nothing is written while the controller hears the same. -/
theorem kept_since (hc : Coherent s) (h₀ : s.controller.inputs = none)
    (hloaded : ∀ x, (s.run xs).controller.snapshot.status ≠ .loading x)
    (hheard : (s.heard xs).getLast? = some (some d))
    (hwords : ∀ word ∈ (s.run xs).heard ys, word = some d) :
    (∀ x, (s.run (xs ++ ys)).controller.snapshot.status ≠ .loading x) ∧
      (s.run xs).kernelWrites ys = [] ∧ ∀ m, (s.run xs).Always ys (LeavesKernel m) →
        ((s.run (xs ++ ys)).form.model m).get? Field.kernelId.key =
          ((s.run xs).form.model m).get? Field.kernelId.key := by
  induction ys using List.reverseRecOn with
  | nil =>
    rw [List.append_nil]
    exact ⟨hloaded, rfl, fun _ _ => rfl⟩
  | append_singleton ys a ih =>
    have hconcat : (s.run xs).heard (ys ++ [a]) =
        (s.run xs).heard ys ++ (((s.run (xs ++ ys)).turn a).word?).toList := by
      rw [run_append]
      exact collect_concat
    rw [hconcat] at hwords
    have hwords' : ∀ word ∈ (s.run xs).heard ys, word = some d := fun word hw =>
      hwords word (List.mem_append_left _ hw)
    obtain ⟨hloaded', hnone, hsame⟩ := ih hwords'
    -- what the controller hears is what it heard last, so it does not derive
    have hd : (s.run (xs ++ ys)).derivation? a = none :=
      underived_of_heard h₀ (heard_append hheard hwords') fun word hw =>
        hwords word (List.mem_append_right _ (Option.mem_toList.mpr hw))
    obtain ⟨hw, hstill⟩ := settled_step (coherent_run hc (xs ++ ys)) hloaded' hd
    rw [← List.append_assoc, run_concat]
    refine ⟨hstill, ?_, fun m hleft => ?_⟩
    · unfold kernelWrites at hnone ⊢
      rw [collect_concat, hnone, ← run_append, hw]
      rfl
    · obtain ⟨hleft, hlast⟩ := always_concat.mp hleft
      rw [← run_append] at hlast
      rw [kernelValue_step hlast hw, hsame m hleft]

/-- **A derivation is made for each change of what the controller hears, and for nothing else**: of
the template, the identifiers as they are read, or the model that is written; and after a
suspension. -/
theorem change_run (form : Form) (context : Context) (policy : StalePolicy) (as : List Action) :
    ByChange (mount form context policy) as := by
  have h₀ : (mount form context policy).controller.inputs = none := rfl
  -- what a step does is read off the session before it, which is coherent and has heard what it
  -- holds
  have hc : Coherent (mount form context policy) := coherent_mount form context policy
  refine {
    derives := fun xs a ys i _ hup hi => ?_
    suspends := fun xs a ys _ hup ht => ?_
    makes := fun xs a ys d _ hd => ?_
    asked := questions_run _ as
    unmoved := fun xs a ys i _ hi hd => ?_
    forgotten := fun xs a ys _ ht hs => ?_
    generation := ?_
    kept := fun xs ys d has hloaded hheard hwords => ?_ }
  · rw [derives_iff hup hi, heard_run h₀ xs hup, ne_eq, join_eq_some]
  · have hheard := heard_run h₀ xs hup
    rw [suspends_iff hup ht, Option.ne_none_iff_exists']
    constructor
    · rintro ⟨i, hi⟩
      rw [hi] at hheard
      exact ⟨i.driving, join_eq_some.mp hheard.symm⟩
    · rintro ⟨d, hd⟩
      rw [hd] at hheard
      obtain ⟨i, hi, -⟩ := Option.map_eq_some_iff.mp hheard
      exact ⟨i, hi⟩
  · rw [run_concat]
    exact makes_step hd
  · rw [run_concat]
    exact alike_observed hi hd
  · rw [run_concat]
    exact alike_suspended ht hs
  · have hrun := generation_run (mount form context policy) as
    rwa [show (mount form context policy).controller.generation = 0 from rfl, Nat.zero_add] at hrun
  · subst has
    exact (kept_since hc h₀ hloaded hheard hwords).2

/-- An identifier that is only spelled otherwise is no change. -/
example : ((mount clientForm (.shared 0) .cancel).derivations
    [.render ⟨some .system, false⟩, .write 0 "clientId" (.str " 1 "),
      .render ⟨some .system, false⟩, .write 0 "clientId" (.str "2"),
      .render ⟨some .system, false⟩]).map (·.inputs.clientId) = [some ⟨1⟩, some ⟨2⟩] := by
  decide +kernel

end Session

end LivePatching
