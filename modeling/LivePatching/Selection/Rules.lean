import LivePatching.Scope

/-!
# Selection rules

Which kernels are asked for, and which of them is chosen first.

* `activeScope`: only the identifier that belongs to the template counts.
* `defaultKernel`: the first kernel marked as default, else the first one.
* `KernelStatus`: how far the list of kernels for a scope has come.
-/

namespace LivePatching

/-- The scope whose kernels the template asks for: the client's or the product's. -/
def activeScope (t : Template) (client product : Option EntityId) : Option Scope :=
  match t with
  | .system => client.map .client
  | .product => product.map .product

/-- The kernel chosen from a list: the first marked as default, else the first. -/
def defaultKernel (kernels : List Kernel) : Option EntityId :=
  ((kernels.find? (·.default)).or kernels.head?).map (·.id)

/-- Names one derivation of the list of kernels; an answer counts while its key is current. -/
structure RequestKey where
  generation : Nat
  /-- Without a scope the derivation clears the kernel. -/
  scope : Option Scope
deriving DecidableEq, Repr, Inhabited

/-- How far the kernel list is. -/
inductive KernelStatus where
  | idle
  | loading (s : Scope)
  | ready (s : Scope)
  | failed (s : Scope)
deriving DecidableEq, Repr, Inhabited

namespace KernelStatus

/-- The scope a status is about. -/
def scope? : KernelStatus → Option Scope
  | idle => none
  | loading s => some s
  | ready s => some s
  | failed s => some s

/-- Whether the list could not be loaded. -/
def isFailed : KernelStatus → Bool
  | failed _ => true
  | _ => false

/-- A status as text. -/
def text : KernelStatus → String
  | idle => "idle"
  | loading s => "loading:" ++ s.text
  | ready s => "ready:" ++ s.text
  | failed s => "failed:" ++ s.text

end KernelStatus

/-- What becomes of a load once a newer derivation takes its place. -/
inductive StalePolicy where
  /-- It is stopped. -/
  | cancel
  /-- It runs on, and its answer is dropped. -/
  | ignore
deriving DecidableEq, Repr, Inhabited

namespace StalePolicy

open Json

/-- The name of a policy. -/
def name : StalePolicy → String
  | cancel => "cancel"
  | ignore => "ignore"

/-- The policy with this name. -/
def ofName? (s : String) : Option StalePolicy := [cancel, ignore].find? (·.name = s)

/-- A policy as a document. -/
def toNode (p : StalePolicy) : Node := .ofString p.name

/-- The policy of a document. -/
def ofNode? (n : Node) : Option StalePolicy := n.variant? >>= ofName?

end StalePolicy

end LivePatching
