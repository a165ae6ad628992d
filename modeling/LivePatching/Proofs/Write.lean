import Mathlib.Tactic.Common
import LivePatching.Form.Shared

/-!
# What a write changes

* `parseId_idValue`: an identifier that is written is read back.
* `id_set`: a write changes the field of its own key.
* `model_write`, `id_writeKernelId`: the same in a form; the sub-form writes one field of the model
  of its context, if that model exists and may be written.
-/

namespace LivePatching

open Json

/-- An identifier is read back from its value. -/
theorem parseId_idValue (id : Option EntityId) : parseId (idValue id) = id := by
  cases id with
  | none => rfl
  | some id =>
    show EntityId.ofNat? id.val.toNat = some id
    unfold EntityId.ofNat?
    rw [if_pos id.val.toNat_lt, UInt64.ofNat_toNat]

/-- A write changes the identifier of its own field only. -/
theorem FormModel.id_set (m : FormModel) (f : Field) (key : String) (value : Value) :
    (m.set key value).id f = if key = f.key then parseId value else m.id f := by
  unfold FormModel.id
  rw [FormModel.get?_set]
  split <;> rfl

/-- Different fields have different keys. -/
theorem Field.key_injective {f g : Field} (h : f.key = g.key) : f = g := by
  revert h
  cases f <;> cases g <;> decide

namespace Form

variable (f : Form)

theorem model_congr {f g : Form} (h : f.models = g.models) (i : Nat) : f.model i = g.model i := by
  unfold model; rw [h]

theorem length_write (i : Nat) (key : String) (value : Value) :
    (f.write i key value).models.length = f.models.length := by
  unfold write
  split
  · rfl
  · simp only
    split <;> simp [publish]

/-- A write replaces its model. -/
theorem models_write {i : Nat} {m : SharedModel} (h : f.models[i]? = some m) (key : String)
    (value : Value) : (f.write i key value).models = f.models.set i (m.write key value) := by
  unfold write
  rw [h]
  simp only
  split <;> rfl

/-- What a model is after a write to some model. -/
theorem model_write (i j : Nat) (key : String) (value : Value) :
    (f.write i key value).model j =
      if i = j ∧ i < f.models.length then (f.model j).set key value else f.model j := by
  cases h : f.models[i]? with
  | none =>
    have hlen : ¬ i < f.models.length := by
      intro hlt; rw [List.getElem?_eq_getElem hlt] at h; cases h
    have hw : f.write i key value = f := by unfold write; rw [h]
    rw [hw, if_neg (fun hc => hlen hc.2)]
  | some m =>
    have hlen := (List.getElem?_eq_some_iff.mp h).1
    unfold model
    rw [models_write f h, List.getElem?_set]
    by_cases hij : i = j
    · subst hij
      rw [if_pos rfl, if_pos hlen, if_pos ⟨rfl, hlen⟩, h]
      rfl
    · simp [hij]

/-- The kernel that the sub-form writes is in the model that it may write. -/
theorem id_writeKernelId {c : Context} {j : Nat} (hc : c.writes = some j)
    (hj : j < f.models.length) (id : Option EntityId) :
    ((f.writeKernelId c id).model j).id .kernelId = id := by
  unfold writeKernelId
  rw [hc]
  simp only
  rw [model_write, if_pos ⟨rfl, hj⟩, FormModel.id_set, if_pos rfl, parseId_idValue]

/-- The model tells the bus of what is written to it. -/
def Announces (m : Nat) : Prop := ∃ sm, f.models[m]? = some sm ∧ sm.announces = true

/-- What a model announces does not change. -/
theorem announces_write {m : Nat} (h : f.Announces m) (i : Nat) (key : String) (value : Value) :
    (f.write i key value).Announces m := by
  obtain ⟨sm, hm, ha⟩ := h
  cases hi : f.models[i]? with
  | none => exact ⟨sm, by unfold write; rw [hi]; exact hm, ha⟩
  | some sm' =>
    have hlen := (List.getElem?_eq_some_iff.mp hi).1
    unfold Announces
    rw [models_write f hi, List.getElem?_set]
    by_cases him : i = m
    · subst him
      rw [hm] at hi
      cases hi
      exact ⟨sm.write key value, by rw [if_pos rfl, if_pos hlen], ha⟩
    · exact ⟨sm, by rw [if_neg him, hm], ha⟩

/-- A write to another place leaves a field alone. -/
theorem id_write_of_ne {i j : Nat} {key : String} {g : Field} (h : ¬ (i = j ∧ key = g.key))
    (value : Value) : ((f.write i key value).model j).id g = (f.model j).id g := by
  rw [model_write]
  split
  · rename_i hij
    rw [FormModel.id_set, if_neg fun hk => h ⟨hij.1, hk⟩]
  · rfl

end Form

end LivePatching
