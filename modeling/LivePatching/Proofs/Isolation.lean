import LivePatching.Proofs.Authorship
import LivePatching.Proofs.Provenance

/-!
# The sub-form keeps to its key

* `get?_foldl_take`: a key is what the writes to it have made of it.
* `kernelWrite_value`: the sub-form writes no kernel, or one of a list that it was given.
* `kernelWrite_context`: it writes to the models of its contexts, where they may be written.
* `isolation`: **without the kernel, a model is what the form's own writes have made of it**,
  and a model that no context may write is left alone.
-/

namespace LivePatching

open Json

/-! ## A model and the writes to it -/

namespace FormModel

/-- A model after a write. -/
def take (m : FormModel) (w : Written) : FormModel := m.set w.key w.value

/-- The keys are in order, as in every model that is made of pairs. -/
def Ordered (m : FormModel) : Prop := Dict.Ordered m.entries

variable {m m' : FormModel} {ws : List Written} {key : String}

theorem ordered_ofPairs (pairs : List (String × Value)) : (ofPairs pairs).Ordered :=
  Dict.ordered_ofPairs pairs

theorem Ordered.erase (h : m.Ordered) (key : String) : (m.erase key).Ordered :=
  Dict.Ordered.erase h key

/-- Writes keep a model's keys in order. -/
theorem Ordered.foldl_take (h : m.Ordered) (ws : List Written) :
    (ws.foldl take m).Ordered := by
  induction ws generalizing m with
  | nil => exact h
  | cons w ws ih => exact ih (Dict.Ordered.insert h w.key w.value)

/-- A model in order is known by the values of its keys. -/
theorem Ordered.ext (h : m.Ordered) (h' : m'.Ordered) (hget : ∀ key, m.get? key = m'.get? key) :
    m = m' :=
  congrArg FormModel.mk (Dict.Ordered.ext h h' hget)

/-- A key is what the writes to it have made of it: those to one other key do not count. -/
theorem get?_foldl_take {other : String} (hkey : other ≠ key) (h : m.get? key = m'.get? key) :
    (ws.foldl take m).get? key = ((ws.filter (·.key != other)).foldl take m').get? key := by
  induction ws generalizing m m' with
  | nil => exact h
  | cons w ws ih =>
    rw [List.filter_cons, List.foldl_cons]
    by_cases hw : w.key = other
    · -- the write is left out on the right, and does not reach the key on the left
      have hkept : (m.take w).get? key = m'.get? key := by
        rw [take, get?_set, hw, if_neg hkey, h]
      rw [if_neg (by simp [hw])]
      exact ih hkept
    · have hboth : (m.take w).get? key = (m'.take w).get? key := by
        rw [take, take, get?_set, get?_set, h]
      rw [if_pos (by simp [hw]), List.foldl_cons]
      exact ih hboth

end FormModel

theorem SharedModel.model_foldl_take (m : SharedModel) (ws : List Written) :
    (ws.foldl take m).model = ws.foldl FormModel.take m.model := by
  induction ws generalizing m with
  | nil => rfl
  | cons w ws ih => exact ih (m.take w)

/-- The form's own writes to a model, those to the key of the kernel left out. -/
def foreignWrites (m : Nat) (as : List Action) : List Written :=
  (as.filterMap Action.written?).filter fun w => w.model == m && w.key != Field.kernelId.key

namespace Session

/-- In the run, a load of kernels was answered with the list. -/
def Returned (s : Session) (as : List Action) (kernels : List Kernel) : Prop :=
  ∃ us load vs key x, as = us ++ .answerKernels load (.ok kernels) :: vs ∧
    (s.run us).loads[load]? = some ⟨.kernels key x, .running⟩

variable {s : Session} {a : Action} {as : List Action} {m : Nat}

/-! ## What the sub-form writes, and where -/

/-- The sub-form writes no kernel, or the first one of the list that a load answers with. -/
theorem kernelWrite_value {w : KernelWrite} (hw : s.kernelWrite? a = some w) :
    w.id = none ∨ ∃ load kernels key x, a = .answerKernels load (.ok kernels) ∧
      s.loads[load]? = some ⟨.kernels key x, .running⟩ ∧
        w.id = (firstKernel kernels).map (·.id) := by
  cases kernelWrite_cases hw with
  | derived => exact .inl rfl
  | installed load kernels key x i model ht ha =>
    exact .inr ⟨load, kernels, key, x, turn_action (by rw [ht]; rfl), ha.running, rfl⟩
  | refused => exact .inl rfl

/-- All kernels that the sub-form writes are from lists that it was given. -/
theorem kernelWrites_value {w : KernelWrite} (hw : w ∈ s.kernelWrites as) :
    w.id = none ∨ ∃ kernels, s.Returned as kernels ∧ ∃ k ∈ kernels, w.id = some k.id := by
  obtain ⟨us, a, vs, rfl, ha⟩ := mem_collect.mp hw
  rcases kernelWrite_value ha with h | ⟨load, kernels, key, x, rfl, hrun, hid⟩
  · exact .inl h
  · cases hfirst : firstKernel kernels with
    | none => exact .inl (by rw [hid, hfirst]; rfl)
    | some k =>
      exact .inr ⟨kernels, ⟨us, load, vs, key, x, rfl, hrun⟩, k, firstKernel_mem hfirst,
        by rw [hid, hfirst]; rfl⟩

/-- Inputs come from the context of the sub-form, or from one that is handed over. -/
theorem derivations_context {d : Derivation} (hd : d ∈ s.derivations as) :
    d.inputs.context = s.context ∨ ∃ t, .observe t d.inputs.context ∈ as := by
  obtain ⟨us, a, vs, rfl, ha⟩ := mem_collect.mp hd
  obtain ⟨i, place, hi, hderived⟩ := derived_of_derivation (by rw [ha]; simp)
  rw [derivation_derived hi hderived] at ha
  cases ha
  obtain ⟨t, c, rfl, hc | rfl⟩ := turn_observed hi
  · exact .inl (hc.trans (context_run s us))
  · exact .inr ⟨t, List.mem_append_right _ List.mem_cons_self⟩

/-- The sub-form writes to the models of its contexts, where they may be written. -/
theorem kernelWrite_context (form : Form) (context : Context) (policy : StalePolicy)
    {w : KernelWrite} (hw : w ∈ (mount form context policy).kernelWrites as) :
    context.writes = some w.model ∨ ∃ t c, .observe t c ∈ as ∧ c.writes = some w.model := by
  obtain ⟨d, hd, -, hmodel⟩ := (recorded_run form context policy as).written w hw
  rcases derivations_context hd with hc | ⟨t, ht⟩
  · rw [hc] at hmodel
    exact .inl hmodel
  · exact .inr ⟨t, _, ht, hmodel⟩

/-! ## Isolation -/

/-- Only the writes of the form to other keys count for the rest of a model. -/
theorem written_foreign (s : Session) (as : List Action) (m : Nat) :
    ((s.written as).filter (·.model == m)).filter (·.key != Field.kernelId.key) =
      foreignWrites m as := by
  have hsplit : ∀ w ∈ s.written as, w.author = .form ∨ w.key = Field.kernelId.key := by
    intro w hw
    cases hauthor : w.author with
    | form => exact .inl rfl
    | subform =>
      obtain ⟨v, -, rfl⟩ := kernelWrite_of_subform hw hauthor
      exact .inr rfl
  rw [foreignWrites, ← written_form s as, List.filter_filter, List.filter_filter]
  refine List.filter_congr fun w hw => ?_
  rcases hsplit w hw with h | h <;> simp [h, Bool.and_comm]

/-- A model is its first state with the writes to it, whoever made them. -/
theorem model_written (hm : m < s.form.models.length) (as : List Action) :
    (s.run as).form.model m =
      ((s.written as).filter (·.model == m)).foldl FormModel.take (s.form.model m) := by
  unfold Form.model
  rw [models_written, List.getElem?_eq_getElem hm]
  exact SharedModel.model_foldl_take _ _

/-- A run of the sub-form shows in the models by the kernel alone. -/
structure Isolated (s : Session) (as : List Action) : Prop where
  /-- Without the kernel, a model is what the form's own writes to other keys make of it. -/
  foreign : ∀ m < s.form.models.length, ∀ key,
    (((s.run as).form.model m).erase Field.kernelId.key).get? key =
      (((foreignWrites m as).foldl FormModel.take (s.form.model m)).erase Field.kernelId.key).get?
        key
  /-- The same as a whole. -/
  erased : ∀ m < s.form.models.length, (s.form.model m).Ordered →
    ((s.run as).form.model m).erase Field.kernelId.key =
      ((foreignWrites m as).foldl FormModel.take (s.form.model m)).erase Field.kernelId.key
  /-- Nothing is written but what is on record, and of that the form wrote what it meant to. -/
  models : ∀ m : Nat, (s.run as).form.models[m]? = (s.form.models[m]?).map fun sm =>
    ((s.written as).filter (·.model == m)).foldl SharedModel.take sm
  own : (s.written as).filter (·.author == .form) = as.filterMap Action.written?
  /-- The sub-form writes nothing but null, or the identifier of a kernel that it was given. -/
  values : ∀ w ∈ s.written as, w.author = .subform → w.key = Field.kernelId.key ∧
    (w.value = .null ∨ ∃ kernels, s.Returned as kernels ∧
      ∃ k ∈ kernels, w.value = idValue (some k.id))
  /-- It does not write a model that no context may write. -/
  readOnly : ∀ m, s.context.writes ≠ some m → (∀ t c, .observe t c ∈ as → c.writes ≠ some m) →
    ∀ w ∈ s.written as, w.model = m → w.author = .form

/-- **Without the kernel, a model is what the form's own writes have made of it**, whatever the
sub-form does. -/
theorem isolation (form : Form) (context : Context) (policy : StalePolicy) (as : List Action) :
    Isolated (mount form context policy) as := by
  set s := mount form context policy
  -- a key that is not the kernel's has the value that the form wrote last
  have hforeign : ∀ m < s.form.models.length, ∀ key,
      (((s.run as).form.model m).erase Field.kernelId.key).get? key =
        (((foreignWrites m as).foldl FormModel.take (s.form.model m)).erase
          Field.kernelId.key).get? key := by
    intro m hm key
    rw [FormModel.get?_erase, FormModel.get?_erase]
    split
    · rfl
    · rename_i hkey
      rw [model_written hm, ← written_foreign s as m]
      exact FormModel.get?_foldl_take hkey rfl
  exact {
    foreign := hforeign
    erased := fun m hm hordered => by
      refine FormModel.Ordered.ext (.erase ?_ _) (.erase (hordered.foldl_take _) _) (hforeign m hm)
      rw [model_written hm]
      exact hordered.foldl_take _
    models := models_written s as
    own := written_form s as
    values := fun w hw hauthor => by
      obtain ⟨v, hv, rfl⟩ := kernelWrite_of_subform hw hauthor
      refine ⟨rfl, ?_⟩
      rcases kernelWrites_value hv with hid | ⟨kernels, hreturned, k, hk, hid⟩
      · exact .inl (congrArg idValue hid)
      · exact .inr ⟨kernels, hreturned, k, hk, congrArg idValue hid⟩
    readOnly := fun m hmount hobserve w hw hm => by
      cases hauthor : w.author with
      | form => rfl
      | subform =>
        obtain ⟨v, hv, rfl⟩ := kernelWrite_of_subform hw hauthor
        obtain rfl : v.model = m := hm
        rcases kernelWrite_context form context policy hv with h | ⟨t, c, hmem, h⟩
        · exact absurd h hmount
        · exact absurd h (hobserve t c hmem) }

end Session

end LivePatching
