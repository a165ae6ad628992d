import LivePatching.Form.Field

/-!
# The form model

The values of the enclosing form by key. Keys other than those of `Field` belong to the enclosing
form and are carried along.

* `get?_set`, `get?_erase`: a write or a removal changes the value of its own key only.
-/

namespace LivePatching

open Json

/-- The values of a form by key. -/
structure FormModel where
  entries : Dict Value
deriving Repr, Inhabited

namespace FormModel

/-- A form without values. -/
def empty : FormModel := ⟨[]⟩

/-- The model of the pairs; of two with one key the later one counts. -/
def ofPairs (pairs : List (String × Value)) : FormModel := ⟨.ofPairs pairs⟩

/-- The value at the key. -/
def get? (m : FormModel) (key : String) : Option Value := Dict.get? m.entries key

/-- The model with the value at the key. -/
def set (m : FormModel) (key : String) (value : Value) : FormModel :=
  ⟨Dict.insert m.entries key value⟩

/-- The identifier that a field holds. -/
def id (m : FormModel) (f : Field) : Option EntityId := m.get? f.key >>= parseId

/-- The model with an identifier in the field, or with null. -/
def setId (m : FormModel) (f : Field) (id : Option EntityId) : FormModel := m.set f.key (idValue id)

/-- The model without the key. -/
def erase (m : FormModel) (key : String) : FormModel := ⟨Dict.erase m.entries key⟩

/-- The number of keys. -/
def size (m : FormModel) : Nat := m.entries.length

/-- The model as JSON. -/
def toNode (m : FormModel) : Node := (Value.obj m.entries).toNode

/-- The model of a JSON object. -/
def ofNode? (n : Node) : Option FormModel :=
  match Value.ofNode? Value.maxLevels n with
  | some (.obj members) => some ⟨members⟩
  | _ => none

variable (m : FormModel)

/-- A write is read back under its key, and under no other. -/
theorem get?_set (key key' : String) (value : Value) :
    (m.set key value).get? key' = if key = key' then some value else m.get? key' :=
  Dict.get?_insert ..

theorem get?_erase (key key' : String) :
    (m.erase key).get? key' = if key = key' then none else m.get? key' :=
  Dict.get?_erase ..

end FormModel

end LivePatching
