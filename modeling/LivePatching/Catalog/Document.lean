import LivePatching.Scope

/-!
# Catalog documents

A catalog lists clients and products, and kernels by the key of their scope. The key `*` holds
the kernels of scopes without a list of their own.

* `Document.kernelsFor`: the list of a scope.
* `Document.toNode`, `Document.ofNode?`: the JSON form.
-/

namespace LivePatching

open Json

/-- Why a provider has no answer. -/
inductive ProviderError where
  | unavailable (reason : String)
  | unknownScope (scope : String)
  | malformed (detail : String)
  | cancelled
deriving DecidableEq, Repr, Inhabited

/-- The text of the error. -/
def ProviderError.message : ProviderError → String
  | unavailable reason => "Provider unavailable: " ++ reason
  | unknownScope scope => "Unknown scope: " ++ scope
  | malformed detail => "Malformed response: " ++ detail
  | cancelled => "Request cancelled"

namespace Catalog

/-- A catalog: the clients, the products, and the kernels by the text of a scope. -/
structure Document where
  clients : List Client
  products : List Product
  kernels : Dict (List Kernel)
deriving DecidableEq, Repr, Inhabited

/-- The key of the kernels for scopes without a list of their own. -/
def fallbackKey : String := "*"

namespace Document

/-- The kernels of the scope: its own list, without one the list of the fallback key, and without
that an error that names the scope. -/
def kernelsFor (d : Document) (s : Scope) : Except ProviderError (List Kernel) :=
  match Dict.get? d.kernels s.text with
  | some kernels => .ok kernels
  | none =>
    match Dict.get? d.kernels fallbackKey with
    | some kernels => .ok kernels
    | none => .error (.unknownScope s.text)

/-- The document as JSON. -/
def toNode (d : Document) : Node :=
  .record
    [("clients", .arr (d.clients.map Client.toNode)),
      ("products", .arr (d.products.map Product.toNode)),
      ("kernels", .record (d.kernels.map fun (k, l) => (k, .arr (l.map Kernel.toNode))))]

/-- The kernels under one key. -/
def kernelList? (member : Option String × Node) : Option (String × List Kernel) := do
  let key ← member.1
  let kernels ← member.2.list? Kernel.ofNode?
  return (key, kernels)

/-- The lists of kernels by key; of two lists with one key the later one counts. -/
def kernelLists? : Node → Option (Dict (List Kernel))
  | .obj members => (members.mapM kernelList?).map Dict.ofPairs
  | _ => none

/-- Each of the three parts may be missing. -/
def ofNode? (n : Node) : Option Document := do
  let fields ← n.record? ["clients", "products", "kernels"] 0
  let clients ← ((fields.lookup "clients").getD (.arr [])).list? Client.ofNode?
  let products ← ((fields.lookup "products").getD (.arr [])).list? Product.ofNode?
  let kernels ← kernelLists? ((fields.lookup "kernels").getD (.obj []))
  return ⟨clients, products, kernels⟩

/-- The document as it is written to a file. -/
def text (d : Document) : String := d.toNode.text

/-- The document of a text, or an error if the text is none. -/
def parse (s : String) : Except ProviderError Document :=
  match Node.parse? s >>= ofNode? with
  | some d => .ok d
  | none => .error (.malformed "not a catalog document")

/-- Three clients, one product and the same two kernels for every scope. -/
def placeholder : Document where
  clients := [1, 2, 3].map fun n => ⟨⟨n⟩, "Placeholder Client " ++ toString n, none⟩
  products := [⟨⟨1⟩, "SLES product 1"⟩]
  kernels := [(fallbackKey, [⟨⟨345⟩, "1.2.3", false⟩, ⟨⟨456⟩, "1.2.4", true⟩])]

end Document

end Catalog

end LivePatching
