import LivePatching.Form.Event

/-!
# Event filters

A filter names topics and, for writes, keys; an empty list names all of them. Keys do not hold
back events of other topics.
-/

namespace LivePatching

/-- Which events a receiver wants; an empty list lets all pass. -/
structure Filter where
  topics : List Topic
  keys : List String
deriving DecidableEq, Repr, Inhabited

namespace Filter

/-- Wants every event. -/
def acceptAll : Filter := ⟨[], []⟩

/-- Restricts writes to the given fields. -/
def withFields (f : Filter) (fields : List Field) : Filter :=
  { f with keys := fields.map Field.key }

/-- Whether events of the topic are wanted. -/
def acceptsTopic (f : Filter) (t : Topic) : Bool :=
  f.topics.isEmpty || f.topics.contains .all || f.topics.contains t

/-- Whether the key of an event is wanted; events without a key are not told apart. -/
def acceptsKey (f : Filter) : Option String → Bool
  | none => true
  | some key => f.keys.isEmpty || f.keys.contains key

/-- An event must pass by its topic and by its key. -/
def accepts (f : Filter) (e : FormEvent) : Bool := f.acceptsTopic e.topic && f.acceptsKey e.key?

end Filter

end LivePatching
