import LivePatching.Json.Record
import LivePatching.Json.Value

/-!
# Catalog entities

Clients and products are what a filter is scoped to; kernels are what live patches exist for.
Each entity has a JSON form, written by `toNode` and read by `ofNode?`.
-/

namespace LivePatching

open Json

/-- The stable identifier of an entity: 64 bits, unsigned. -/
structure EntityId where
  val : UInt64
deriving DecidableEq, Repr, Inhabited

namespace EntityId

/-- The identifier as a number. -/
def toNat (id : EntityId) : Nat := id.val.toNat

/-- The identifier with the number, if the number fits a machine word. -/
def ofNat? (n : Nat) : Option EntityId := if n < UInt64.size then some ⟨.ofNat n⟩ else none

/-- The identifier in decimal. -/
def text (id : EntityId) : String := toString id.toNat

/-- The identifier as JSON, a number. -/
def toNode (id : EntityId) : Node := .ofNat id.toNat

/-- The identifier of a JSON number; only an integer in range is one. -/
def ofNode? : Node → Option EntityId
  | .num n =>
    match Number.int? n with
    | some (.ofNat n) => ofNat? n
    | _ => none
  | _ => none

end EntityId

/-- A registered client system. The kernel that runs on it is a hint of the catalog only. -/
structure Client where
  id : EntityId
  name : String
  kernelId : Option String
deriving DecidableEq, Repr, Inhabited

/-- A product to choose. -/
structure Product where
  id : EntityId
  name : String
deriving DecidableEq, Repr, Inhabited

/-- A kernel version; `default` marks the one a provider prefers. -/
structure Kernel where
  id : EntityId
  version : String
  default : Bool
deriving DecidableEq, Repr, Inhabited

namespace Client

/-- The kernel hint is left out where there is none. -/
def toNode (c : Client) : Node :=
  .record <| [("id", c.id.toNode), ("name", .ofString c.name)] ++
    match c.kernelId with
    | none => []
    | some k => [("kernelId", .ofString k)]

/-- The client of a JSON record; the kernel may be left out. -/
def ofNode? (n : Node) : Option Client := do
  let fields ← n.record? ["id", "name", "kernelId"] 2
  let id ← fields.lookup "id" >>= EntityId.ofNode?
  let name ← fields.lookup "name" >>= Node.string?
  let kernelId ← Node.nullable? Node.string? ((fields.lookup "kernelId").getD .null)
  return ⟨id, name, kernelId⟩

end Client

namespace Product

/-- The product as JSON. -/
def toNode (p : Product) : Node := .record [("id", p.id.toNode), ("name", .ofString p.name)]

/-- The product of a JSON record. -/
def ofNode? (n : Node) : Option Product := do
  let fields ← n.record? ["id", "name"] 2
  let id ← fields.lookup "id" >>= EntityId.ofNode?
  let name ← fields.lookup "name" >>= Node.string?
  return ⟨id, name⟩

end Product

namespace Kernel

/-- What a list of kernels shows for one. -/
def label (k : Kernel) : String := if k.default then k.version ++ " (default)" else k.version

/-- The kernel as JSON. -/
def toNode (k : Kernel) : Node :=
  .record [("id", k.id.toNode), ("version", .ofString k.version), ("default", .bool k.default)]

/-- The kernel of a JSON record; without a mark it is no default. -/
def ofNode? (n : Node) : Option Kernel := do
  let fields ← n.record? ["id", "version", "default"] 2
  let id ← fields.lookup "id" >>= EntityId.ofNode?
  let version ← fields.lookup "version" >>= Node.string?
  let default ← Node.bool? ((fields.lookup "default").getD (.bool false))
  return ⟨id, version, default⟩

end Kernel

end LivePatching
