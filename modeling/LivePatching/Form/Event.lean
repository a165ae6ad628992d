import LivePatching.Form.Model
import LivePatching.Scope

/-!
# Events of the form

What the enclosing form announces: a value written, another template, edit mode entered or left.

* `Props.apply`: what the sub-form makes of an event.
* `Frame.apply`: the last template and edit mode announced, each unset before its first event.
-/

namespace LivePatching

open Json

/-- What is announced on the bus. -/
inductive FormEvent where
  | valueChanged (key : String) (value : Value)
  | templateChanged (template : Option Template)
  | editingChanged (editing : Bool)
deriving Repr, Inhabited

/-- What an event is about. -/
inductive Topic where
  | model
  | template
  | editing
  /-- Stands for every topic in a filter. -/
  | all
deriving DecidableEq, Repr, Inhabited

namespace Topic

/-- The name of the topic in JSON. -/
def name : Topic → String
  | model => "Model"
  | template => "Template"
  | editing => "Editing"
  | all => "All"

/-- The topic with the name. -/
def ofName? (s : String) : Option Topic := [model, template, editing, all].find? (·.name = s)

/-- The topic as JSON. -/
def toNode (t : Topic) : Node := .ofString t.name

/-- The topic of a JSON node. -/
def ofNode? (n : Node) : Option Topic := n.variant? >>= ofName?

end Topic

namespace FormEvent

/-- What the event is about. -/
def topic : FormEvent → Topic
  | valueChanged .. => .model
  | templateChanged _ => .template
  | editingChanged _ => .editing

/-- The key that was written. -/
def key? : FormEvent → Option String
  | valueChanged key _ => some key
  | _ => none

/-- The event as JSON, a record with the kind of the event for its key. -/
def toNode : FormEvent → Node
  | valueChanged key value =>
    .record [("ValueChanged", .record [("key", .ofString key), ("value", value.toNode)])]
  | templateChanged template =>
    .record [("TemplateChanged", (template.map Template.toNode).getD .null)]
  | editingChanged editing => .record [("EditingChanged", .bool editing)]

/-- The value of a write stands two levels down in the text of its event. -/
def ofNode? : Node → Option FormEvent
  | .obj [(some "ValueChanged", n)] => do
    let fields ← n.record? ["key", "value"] 2
    let key ← fields.lookup "key" >>= Node.string?
    let value ← fields.lookup "value" >>= Value.ofNode? (Value.maxLevels - 2)
    return valueChanged key value
  | .obj [(some "TemplateChanged", n)] => (Node.nullable? Template.ofNode? n).map templateChanged
  | .obj [(some "EditingChanged", n)] => n.bool?.map editingChanged
  | _ => none

end FormEvent

/-- What the enclosing form hands down to the sub-form. -/
structure Props where
  /-- Nothing is shown without a template. -/
  template : Option Template
  editing : Bool
deriving DecidableEq, Repr, Inhabited

/-- The last template and edit mode announced. -/
structure Frame where
  template : Option (Option Template)
  editing : Option Bool
deriving DecidableEq, Repr, Inhabited

namespace Frame

/-- Nothing has been announced yet. -/
def empty : Frame := ⟨none, none⟩

/-- The frame after an event; values are not part of it. -/
def apply (f : Frame) : FormEvent → Frame
  | .templateChanged template => { f with template := some template }
  | .editingChanged editing => { f with editing := some editing }
  | .valueChanged .. => f

end Frame

namespace Props

/-- The props after an event; they do not depend on values. -/
def apply (p : Props) : FormEvent → Props
  | .templateChanged template => { p with template := template }
  | .editingChanged editing => { p with editing := editing }
  | .valueChanged .. => p

/-- Takes over what a frame announces. -/
def resync (p : Props) (f : Frame) : Props :=
  ⟨f.template.getD p.template, f.editing.getD p.editing⟩

/-- The props as JSON. -/
def toNode (p : Props) : Node :=
  .record [("template", (p.template.map Template.toNode).getD .null), ("editing", .bool p.editing)]

/-- The props of a JSON record; the template may be left out. -/
def ofNode? (n : Node) : Option Props := do
  let fields ← n.record? ["template", "editing"] 2
  let template ← Node.nullable? Template.ofNode? ((fields.lookup "template").getD .null)
  let editing ← fields.lookup "editing" >>= Node.bool?
  return ⟨template, editing⟩

end Props

end LivePatching
