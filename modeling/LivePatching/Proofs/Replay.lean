import Mathlib.Tactic.Common
import Mathlib.Data.List.Induction
import LivePatching.Form.Event

/-!
# Events and frames

A frame keeps of a list of events all that props are made of.

* `Frame.ofEvents`: the frame of a list of events, which says what was announced last.
* `Props.foldl_apply`: **to follow events is to take over their frame.**
* `Props.resync_agree`: to take over a later frame at once leads where following the events does.
-/

namespace LivePatching

/-- The templates and the edit modes announced, one after another. -/
def FormEvent.template? : FormEvent → Option (Option Template)
  | .templateChanged template => some template
  | _ => none

/-- The edit mode announced by an event. -/
def FormEvent.editing? : FormEvent → Option Bool
  | .editingChanged editing => some editing
  | _ => none

namespace Frame

/-- The frame that the events leave. -/
def ofEvents (es : List FormEvent) : Frame := es.foldl apply .empty

/-- What the one frame announces, and for the rest what the other does. -/
def onto (g f : Frame) : Frame := ⟨g.template.or f.template, g.editing.or f.editing⟩

theorem onto_assoc (h g f : Frame) : (h.onto g).onto f = h.onto (g.onto f) := by
  simp [onto, Option.or_assoc]

/-- An event applies to the upper frame. -/
theorem apply_onto (g f : Frame) (e : FormEvent) : (g.onto f).apply e = (g.apply e).onto f := by
  cases e <;> rfl

theorem foldl_apply_onto (es : List FormEvent) (g f : Frame) :
    es.foldl apply (g.onto f) = (es.foldl apply g).onto f := by
  induction es generalizing g with
  | nil => rfl
  | cons e es ih => rw [List.foldl_cons, apply_onto, ih, List.foldl_cons]

/-- Events leave their own frame on top of the one before. -/
theorem foldl_apply (es : List FormEvent) (f : Frame) : es.foldl apply f = (ofEvents es).onto f :=
  foldl_apply_onto es .empty f

theorem ofEvents_append (es es' : List FormEvent) :
    ofEvents (es ++ es') = (ofEvents es').onto (ofEvents es) := by
  rw [ofEvents, List.foldl_append]
  exact foldl_apply es' (ofEvents es)

/-- A frame says what was announced last. -/
theorem ofEvents_eq (es : List FormEvent) : ofEvents es =
    ⟨(es.filterMap FormEvent.template?).getLast?, (es.filterMap FormEvent.editing?).getLast?⟩ := by
  induction es using List.reverseRecOn with
  | nil => rfl
  | append_singleton es e ih =>
    rw [ofEvents_append, ih, List.filterMap_append, List.filterMap_append, List.getLast?_append,
      List.getLast?_append]
    cases e <;> rfl

end Frame

namespace Props

variable (p q : Props) (f g : Frame)

/-- An event after a frame is taken over as if it were part of the frame. -/
theorem resync_apply (e : FormEvent) : (p.resync f).apply e = p.resync (f.apply e) := by
  cases e <;> rfl

/-- **To follow events is to take over their frame.** -/
theorem foldl_apply (es : List FormEvent) : es.foldl apply p = p.resync (.ofEvents es) := by
  have h : ∀ f : Frame, es.foldl apply (p.resync f) = p.resync (es.foldl Frame.apply f) := by
    induction es with
    | nil => exact fun f => rfl
    | cons e es ih => exact fun f => by rw [List.foldl_cons, resync_apply, ih, List.foldl_cons]
  exact h .empty

/-- Frames are taken over one after another. -/
theorem resync_onto : p.resync (g.onto f) = (p.resync f).resync g := by
  unfold resync Frame.onto
  congr 1
  · cases g.template <;> rfl
  · cases g.editing <;> rfl

/-- What a frame has from an earlier one it does not announce anew. -/
theorem resync_onto_self : (p.resync (g.onto f)).resync g = p.resync (g.onto f) := by
  unfold resync Frame.onto
  congr 1
  · cases g.template <;> rfl
  · cases g.editing <;> rfl

variable {p q f g}

/-- Props that would come to agree by what is still to come agree once they take all over. -/
theorem resync_agree (h : p.resync g = q.resync (g.onto f)) :
    p.resync (g.onto f) = q.resync (g.onto f) := by
  -- each part is from the later frame if it has one there, and else from the earlier
  obtain ⟨ht, he⟩ := Props.mk.inj h
  unfold resync Frame.onto at *
  simp only at ht he
  congr 1
  · cases hg : g.template with
    | some t => rfl
    | none =>
      rw [hg] at ht
      cases hf : f.template with
      | some t => rfl
      | none => rw [hf] at ht; exact ht
  · cases hg : g.editing with
    | some e => rfl
    | none =>
      rw [hg] at he
      cases hf : f.editing with
      | some e => rfl
      | none => rw [hf] at he; exact he

end Props

end LivePatching
