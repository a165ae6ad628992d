import LivePatching.Selection.Rules
import LivePatching.Form.Model

/-!
# The fields shown

`View.render` turns the lists that are loaded and the identifiers in the form into select fields.
The field of the template's scope is always there and required; the kernel field is required while
there is a scope, and open unless there is none or its list could not be loaded.
-/

namespace LivePatching

/-- The lists that are loaded. -/
structure Snapshot where
  clients : List Client
  products : List Product
  kernels : List Kernel
  status : KernelStatus
deriving DecidableEq, Repr, Inhabited

/-- Nothing is loaded and nothing asked for. -/
def Snapshot.empty : Snapshot := ⟨[], [], [], .idle⟩

/-- The identifiers in the form. -/
structure Chosen where
  clientId : Option EntityId
  productId : Option EntityId
  kernelId : Option EntityId
deriving DecidableEq, Repr, Inhabited

/-- The identifiers a model holds. -/
def Chosen.read (m : FormModel) : Chosen := ⟨m.id .clientId, m.id .productId, m.id .kernelId⟩

/-- The active scope of the identifiers. -/
def Chosen.scope (c : Chosen) (t : Template) : Option Scope :=
  activeScope t c.clientId c.productId

/-- One option of a select field. -/
structure SelectOption where
  value : EntityId
  label : String
deriving DecidableEq, Repr, Inhabited

/-- A select field as it is shown. -/
structure SelectField where
  field : Field
  label : String
  required : Bool
  disabled : Bool
  options : List SelectOption
  value : Option EntityId
deriving DecidableEq, Repr, Inhabited

/-- The label of the first option that has the value. -/
def SelectField.selectedLabel? (f : SelectField) : Option String := do
  let value ← f.value
  let option ← f.options.find? (·.value = value)
  return option.label

/-- The fields shown: those of the template, and the kernel's. -/
structure View where
  client : Option SelectField
  product : Option SelectField
  kernel : SelectField
deriving DecidableEq, Repr, Inhabited

namespace View

/-- The fields in the order they are shown. -/
def fields (v : View) : List SelectField := v.client.toList ++ v.product.toList ++ [v.kernel]

/-- The field shown for a field of the form. -/
def field? (v : View) (f : Field) : Option SelectField := v.fields.find? (·.field = f)

/-- The field for the client, locked while an existing entity is edited. -/
def clientField (editing : Bool) (chosen : Chosen) (s : Snapshot) : SelectField where
  field := .clientId
  label := "Client"
  required := true
  disabled := editing
  options := s.clients.map fun c => ⟨c.id, c.name⟩
  value := chosen.clientId

/-- The field for the product, locked while an existing entity is edited. -/
def productField (editing : Bool) (chosen : Chosen) (s : Snapshot) : SelectField where
  field := .productId
  label := "Product"
  required := true
  disabled := editing
  options := s.products.map fun p => ⟨p.id, p.name⟩
  value := chosen.productId

/-- The field for the kernel. -/
def kernelField (hasScope : Bool) (chosen : Chosen) (s : Snapshot) : SelectField where
  field := .kernelId
  label := "Kernel"
  required := hasScope
  disabled := !hasScope || s.status.isFailed
  options := s.kernels.map fun k => ⟨k.id, k.label⟩
  value := chosen.kernelId

/-- The fields of a template over the lists that are loaded. -/
def render (t : Template) (editing : Bool) (chosen : Chosen) (s : Snapshot) : View where
  client := if t = .system then some (clientField editing chosen s) else none
  product := if t = .product then some (productField editing chosen s) else none
  kernel := kernelField (chosen.scope t).isSome chosen s

end View

end LivePatching
