import LivePatching.Entity

/-!
# Templates and scopes

A filter template says what kind of entity a filter is scoped to; a scope is the entity that a
list of kernels is asked for.

* `Scope.text`: the key of a scope, such as `client:1`.
-/

namespace LivePatching

open Json

/-- What a live patching entity is created for: a system, or a product. -/
inductive Template where
  | system
  | product
deriving DecidableEq, Repr, Inhabited

namespace Template

/-- The name of a template in the form. -/
def name : Template → String
  | .system => "LivePatchingSystem"
  | .product => "LivePatchingProduct"

/-- The template with this name. -/
def ofName? (s : String) : Option Template := [system, product].find? (·.name = s)

/-- A template as a document. -/
def toNode (t : Template) : Node := .ofString t.name

/-- The template of a document. -/
def ofNode? (n : Node) : Option Template := n.variant? >>= ofName?

end Template

/-- Whose kernels are asked for. -/
inductive Scope where
  | client (id : EntityId)
  | product (id : EntityId)
deriving DecidableEq, Repr, Inhabited

namespace Scope

/-- The identifier in a scope. -/
def id : Scope → EntityId
  | .client id => id
  | .product id => id

/-- The word in front of a scope's identifier. -/
def kind : Scope → String
  | .client _ => "client"
  | .product _ => "product"

/-- A scope as text; distinct scopes have distinct texts. -/
def text (s : Scope) : String := s.kind ++ ":" ++ s.id.text

/-- The scope of a kind. -/
def ofKind? (kind : String) (id : EntityId) : Option Scope :=
  if kind = "client" then some (.client id)
  else if kind = "product" then some (.product id)
  else none

/-- A scope as a document. -/
def toNode (s : Scope) : Node := .record [("kind", .ofString s.kind), ("id", s.id.toNode)]

/-- The scope of a document. -/
def ofNode? (n : Node) : Option Scope := do
  let fields ← n.record? ["kind", "id"] 2
  let kind ← fields.lookup "kind" >>= Node.variant?
  let id ← fields.lookup "id" >>= EntityId.ofNode?
  ofKind? kind id

end Scope

end LivePatching
