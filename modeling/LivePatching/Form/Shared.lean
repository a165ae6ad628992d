import LivePatching.Bus.Channel

/-!
# The enclosing form

A form has models that it shares with its sub-forms, and a bus. A model keeps its last writes;
one that announces publishes each write after it is done.

* `SharedModel.write`: the model and its log after a write.
* `Form.write`: the same in the form, with the event on the bus.
* `SharedModel.Context`: which model a sub-form reads, and which it may write.
-/

namespace LivePatching

open Json

/-- A model, its last writes, and whether it announces what is written. -/
structure SharedModel where
  model : FormModel
  /-- The last writes, oldest first. -/
  log : List (String × Value)
  announces : Bool
deriving Repr, Inhabited

namespace SharedModel

/-- The number of writes kept. -/
def logCapacity : Nat := 1024

/-- A model that has not been written to yet. -/
def ofModel (m : FormModel) (announces : Bool) : SharedModel := ⟨m, [], announces⟩

/-- The log with one more write; the oldest one leaves a full log. -/
def record (log : List (String × Value)) (w : String × Value) : List (String × Value) :=
  if log.length = logCapacity then log.tail ++ [w] else log ++ [w]

/-- Sets the value at the key and keeps the write. -/
def write (m : SharedModel) (key : String) (value : Value) : SharedModel :=
  { m with model := m.model.set key value, log := record m.log (key, value) }

/-- The number of writes to the key among those that are kept. -/
def writesTo (m : SharedModel) (key : String) : Nat := m.log.countP (·.1 == key)

end SharedModel

/-- The model that a sub-form reads, and the model that it writes, if it may write. -/
structure Context where
  reads : Nat
  writes : Option Nat
deriving DecidableEq, Repr, Inhabited

namespace Context

/-- Reads and writes the model. -/
def shared (model : Nat) : Context := ⟨model, some model⟩

/-- Whether two contexts write the same model, or neither writes. -/
def sameWriter (a b : Context) : Bool := a.writes == b.writes

end Context

/-- The models are known by their place in the list. -/
structure Form where
  models : List SharedModel
  bus : Bus
deriving Repr, Inhabited

namespace Form

/-- A model that does not exist reads as an empty one. -/
def model (f : Form) (i : Nat) : FormModel := ((f.models[i]?).map (·.model)).getD .empty

/-- Puts an event on the bus of the form. -/
def publish (f : Form) (e : FormEvent) : Form := { f with bus := f.bus.publish e }

/-- Writes to one of the models, and publishes the write if the model announces; a model that does
not exist is not written. -/
def write (f : Form) (i : Nat) (key : String) (value : Value) : Form :=
  match f.models[i]? with
  | none => f
  | some m =>
    let f := { f with models := f.models.set i (m.write key value) }
    if m.announces then f.publish (.valueChanged key value) else f

/-- The one way in which a sub-form writes. -/
def writeKernelId (f : Form) (c : Context) (id : Option EntityId) : Form :=
  match c.writes with
  | none => f
  | some i => f.write i Field.kernelId.key (idValue id)

end Form

end LivePatching
