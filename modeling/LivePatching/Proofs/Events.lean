import LivePatching.Form.Event
import LivePatching.Proofs.Values

/-!
# Form models and events are read back from their texts

* `FormModel.Canonical.set`, `FormModel.Canonical.erase`: a model keeps its keys in order, those
  inside its values too; `FormModel.canonical_of_ofNode?`: a model that is read has them so.
* `FormModel.ofNode?_toNode`, `FormEvent.ofNode?_toNode`: models and events are read back from
  their nodes, if their numbers are integers and their nodes nest no deeper than allowed.
* `FormEvent.topic_of_ofNode?`: the node of an event is never read as one of another kind.
* `FormEvent.roundTrip`: **models and events are read back from their texts**, and equal models
  have one text, with keys in the order of their bytes.
-/

namespace LivePatching

open Json

/-! ## Models -/

namespace FormModel

/-- The keys of the model are in order, and so are those of every object inside it. -/
def Canonical (m : FormModel) : Prop := (Value.obj m.entries).Ordered

/-- Every number in the model is an integer of a machine word. -/
def Integral (m : FormModel) : Prop := (Value.obj m.entries).Integral

variable {m : FormModel}

theorem canonical_empty : empty.Canonical := .obj .nil fun _ hp => nomatch hp

/-- A write of an ordered value keeps the model canonical. -/
theorem Canonical.set (h : m.Canonical) (key : String) {value : Value} (hv : value.Ordered) :
    (m.set key value).Canonical := by
  cases h with
  | obj hk h =>
    refine .obj (hk.insert key value) fun p hp => ?_
    rcases Dict.mem_insert hp with rfl | hp
    · exact hv
    · exact h p hp

/-- An erasure keeps the model canonical. -/
theorem Canonical.erase (h : m.Canonical) (key : String) : (m.erase key).Canonical := by
  cases h with
  | obj hk h => exact .obj (hk.erase key) fun p hp => h p (List.mem_filter.mp hp).1

/-- A model that was read is canonical. -/
theorem canonical_of_ofNode? {n : Node} (h : ofNode? n = some m) : m.Canonical := by
  unfold ofNode? at h
  split at h
  · next members hread =>
    cases h
    exact Value.ordered_of_ofNode? hread
  · cases h

/-- A canonical model of integers is read back from its document. -/
theorem ofNode?_toNode (ho : m.Canonical) (hi : m.Integral)
    (hd : m.toNode.depth ≤ Value.maxLevels) : ofNode? m.toNode = some m := by
  have hread : Value.ofNode? Value.maxLevels m.toNode = some (.obj m.entries) :=
    Value.ofNode?_toNode ho hi hd
  rw [ofNode?, hread]

theorem parse?_text (m : FormModel) : Node.parse? m.toNode.text = some m.toNode :=
  (Value.written_toNode (.obj m.entries)).parse?_text

end FormModel

/-! ## Events -/

namespace FormEvent

/-- The value that was written. -/
def value? : FormEvent → Option Value
  | valueChanged _ value => some value
  | _ => none

variable {e e' : FormEvent}

/-- The document of an event is one that is written. -/
theorem written_toNode (e : FormEvent) : e.toNode.Written := by
  cases e with
  | valueChanged key value =>
    have hmembers : (Node.record [("key", .ofString key), ("value", value.toNode)]).Written :=
      Node.written_record (by simp [Node.written_ofString, value.written_toNode])
    exact Node.written_record (by simpa using hmembers)
  | templateChanged template =>
    cases template with
    | none => exact Node.written_record (by simpa using Node.Written.null)
    | some t =>
      exact Node.written_record (by simpa [Template.toNode] using Node.written_ofString t.name)
  | editingChanged editing => exact Node.written_record (by simpa using Node.Written.bool editing)

theorem parse?_text (e : FormEvent) : Node.parse? e.toNode.text = some e.toNode :=
  e.written_toNode.parse?_text

/-- The event of a write adds two levels to its value, which is read with two levels less. -/
theorem ofNode?_toNode (hv : ∀ value ∈ e.value?, value.Ordered ∧ value.Integral)
    (hd : e.toNode.depth ≤ Value.maxLevels) : ofNode? e.toNode = some e := by
  cases e with
  | valueChanged key value =>
    obtain ⟨ho, hi⟩ := hv value rfl
    have hrecord : (Node.record [("key", .ofString key), ("value", value.toNode)]).record?
        ["key", "value"] 2 = some [("key", .ofString key), ("value", value.toNode)] :=
      Node.record?_record (by simp) (by simp) 2
    have hlevels : value.toNode.depth ≤ Value.maxLevels - 2 := by
      have hdepth : (valueChanged key value).toNode.depth =
          max (max 0 (max value.toNode.depth 0) + 1) 0 + 1 := rfl
      omega
    have hread : Value.ofNode? (Value.maxLevels - 2) value.toNode = some value :=
      Value.ofNode?_toNode ho hi hlevels
    show ofNode? (.obj [(some "ValueChanged", .record _)]) = _
    rw [ofNode?, hrecord]
    simp [List.lookup_cons, Node.ofString, Node.string?, hread]
  | templateChanged template =>
    cases template with
    | none => rfl
    | some t => cases t <;> rfl
  | editingChanged editing => rfl

/-- The node of an event is never read as an event of another kind. -/
theorem topic_of_ofNode? (h : ofNode? e.toNode = some e') : e'.topic = e.topic := by
  cases e with
  | valueChanged key value =>
    simp only [toNode, Node.record, List.map_cons, List.map_nil, ofNode?, bind,
      Option.bind_eq_some_iff] at h
    obtain ⟨_, -, key', -, value', -, he⟩ := h
    cases he
    rfl
  | templateChanged template =>
    simp only [toNode, Node.record, List.map_cons, List.map_nil, ofNode?,
      Option.map_eq_some_iff] at h
    obtain ⟨template', -, rfl⟩ := h
    rfl
  | editingChanged editing =>
    simp only [toNode, Node.record, List.map_cons, List.map_nil, ofNode?,
      Option.map_eq_some_iff] at h
    obtain ⟨editing', -, rfl⟩ := h
    rfl

/-- **Models and events are read back from their texts**, if their numbers are integers of a machine
word and their texts nest no deeper than a reader allows; no text of an event is read as an event of
another kind. The keys of a model are written in the order of their bytes, inside its values
too, so models in which all look-ups agree have one text. -/
theorem roundTrip :
    (∀ m : FormModel, m.Canonical → m.Integral → m.toNode.depth ≤ Value.maxLevels →
      Node.parse? m.toNode.text >>= FormModel.ofNode? = some m) ∧
    (∀ e : FormEvent, (∀ value ∈ e.value?, value.Ordered ∧ value.Integral) →
      e.toNode.depth ≤ Value.maxLevels →
      Node.parse? e.toNode.text >>= FormEvent.ofNode? = some e) ∧
    (∀ e e' : FormEvent, Node.parse? e.toNode.text >>= FormEvent.ofNode? = some e' →
      e'.topic = e.topic) ∧
    (∀ m : FormModel, m.Canonical →
      ∃ n, Node.parse? m.toNode.text = some n ∧ n.KeysIncrease) ∧
    ∀ m m' : FormModel, m.Canonical → m'.Canonical →
      (Value.obj m.entries).Agrees (.obj m'.entries) → m.toNode.text = m'.toNode.text := by
  refine ⟨fun m ho hi hd => ?_, fun e hv hd => ?_, fun e e' h => ?_, fun m ho => ?_,
    fun m m' ho ho' h => ?_⟩
  · rw [m.parse?_text]
    exact FormModel.ofNode?_toNode ho hi hd
  · rw [e.parse?_text]
    exact ofNode?_toNode hv hd
  · rw [e.parse?_text] at h
    exact topic_of_ofNode? h
  · exact ⟨m.toNode, m.parse?_text, Value.Ordered.keysIncrease ho⟩
  · have hvalue : Value.obj m.entries = .obj m'.entries := h.eq ho ho'
    rw [FormModel.toNode, FormModel.toNode, hvalue]

/-- An object inside a list inside an object, with the least and the largest integer and keys beyond
the basic plane of characters. -/
theorem roundTrip_nested :
    let value : Value := .arr [.obj [("\x01\"", .num (.int (-0x8000000000000000))),
      ("\uffff", .null), ("𐀀", .num (.int 0xffffffffffffffff))]]
    let m : FormModel := ⟨[("", .bool true), ("a", value)]⟩
    let e : FormEvent := .valueChanged "\\" value
    Node.parse? m.toNode.text >>= FormModel.ofNode? = some m ∧
      Node.parse? e.toNode.text >>= FormEvent.ofNode? = some e ∧
      (∃ n, Node.parse? m.toNode.text = some n ∧ n.KeysIncrease) := by
  intro value m e
  have hordered : value.Ordered := by
    refine .arr fun v hv => ?_
    obtain rfl := List.mem_singleton.mp hv
    refine .obj (by decide) fun p hp => ?_
    simp only [List.mem_cons, List.not_mem_nil, or_false] at hp
    rcases hp with rfl | rfl | rfl
    · exact .num _
    · exact .null
    · exact .num _
  have hintegral : value.Integral := by
    refine .arr fun v hv => ?_
    obtain rfl := List.mem_singleton.mp hv
    refine .obj fun p hp => ?_
    simp only [List.mem_cons, List.not_mem_nil, or_false] at hp
    rcases hp with rfl | rfl | rfl
    · exact .num (by decide)
    · exact .null
    · exact .num (by decide)
  have ho : m.Canonical := (FormModel.canonical_empty.set "a" hordered).set "" (.bool true)
  have hi : m.Integral := by
    refine .obj fun p hp => ?_
    simp only [m, List.mem_cons, List.not_mem_nil, or_false] at hp
    rcases hp with rfl | rfl
    · exact .bool true
    · exact hintegral
  obtain ⟨hmodel, hevent, -, hkeys, -⟩ := roundTrip
  refine ⟨hmodel m ho hi (by decide), hevent e (fun v hv => ?_) (by decide), hkeys m ho⟩
  cases hv
  exact ⟨hordered, hintegral⟩

end FormEvent

end LivePatching
