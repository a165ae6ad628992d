import LivePatching.Text.Blank
import LivePatching.Text.Digits
import LivePatching.Entity

/-!
# The fields of the form

Three keys of the form belong to the live-patching fields. A value of the form stands for an
entity when it is a number or a text that names one.

* `parseId`: the entity a value stands for.
* `idValue`: the value that is written for an entity, or for none.
-/

namespace LivePatching

open Json

/-- The fields of the form that the sub-form is about. -/
inductive Field where
  | clientId
  | productId
  | kernelId
deriving DecidableEq, Repr, Inhabited

namespace Field

/-- The fields in their order. -/
def all : List Field := [clientId, productId, kernelId]

/-- The key of the field in a model. -/
def key : Field → String
  | clientId => "clientId"
  | productId => "productId"
  | kernelId => "kernelId"

/-- The field with the key. -/
def ofKey? (s : String) : Option Field := all.find? (·.key = s)

/-- The place of a field in the order of the fields. -/
def rank : Field → Nat
  | clientId => 0
  | productId => 1
  | kernelId => 2

/-- The field as JSON. -/
def toNode (f : Field) : Node := .ofString f.key

/-- The field of a JSON node. -/
def ofNode? (n : Node) : Option Field := n.variant? >>= ofKey?

end Field

/-- A number that is written as a whole one, or a text that holds such a number between blanks. -/
def parseId : Value → Option EntityId
  | .num (.int (.ofNat n)) => EntityId.ofNat? n
  | .str s => Text.ofSignedDigits? (Text.trim s.toList) >>= EntityId.ofNat?
  | _ => none

/-- The value that stands for an identifier, or for none. -/
def idValue : Option EntityId → Value
  | some id => .ofNat id.toNat
  | none => .null

end LivePatching
