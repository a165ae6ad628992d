import LivePatching.Catalog.Document
import LivePatching.Proofs.Values

/-!
# Catalog documents are read back from their texts

* `Client.ofNode?_toNode`, `Product.ofNode?_toNode`, `Kernel.ofNode?_toNode`: entities are read
  back from their nodes.
* `Document.ofNode?_toNode`: so are documents whose scopes are in order.
* `Document.ordered_of_parse`: the scopes of a document that is read are.
* `Document.rereads`: **every document is read back from its text**, and a text that is accepted
  says the same as the text of what it names.
-/

namespace LivePatching

open Json

/-! ## Entities -/

namespace EntityId

theorem ofNat?_toNat (id : EntityId) : ofNat? id.toNat = some id := by
  unfold ofNat? toNat
  rw [if_pos id.val.toNat_lt, UInt64.ofNat_toNat]

/-- An identifier is read back from its document. -/
theorem ofNode?_toNode (id : EntityId) : ofNode? id.toNode = some id := by
  have hint : Number.int? (.ofInt id.toNat) = some (id.toNat : Int) := by
    have hlt : id.toNat < 2 ^ 64 := id.val.toNat_lt
    exact Number.int?_ofInt ⟨by omega, by omega⟩
  show ofNode? (.num (.ofInt id.toNat)) = some id
  rw [ofNode?, hint]
  exact ofNat?_toNat id

theorem written_toNode (id : EntityId) : id.toNode.Written :=
  .num (Numeral.written_ofInt id.toNat)

end EntityId

namespace Client

/-- A client is read back from its document. -/
theorem ofNode?_toNode (c : Client) : ofNode? c.toNode = some c := by
  obtain ⟨id, name, kernelId⟩ := c
  cases kernelId with
  | none =>
    have hrecord : (toNode ⟨id, name, none⟩).record? ["id", "name", "kernelId"] 2 =
        some [("id", id.toNode), ("name", .ofString name)] :=
      Node.record?_record (by simp) (by simp) 2
    rw [ofNode?, hrecord]
    simp [List.lookup_cons, EntityId.ofNode?_toNode, Node.ofString, Node.string?, Node.nullable?]
  | some k =>
    have hrecord : (toNode ⟨id, name, some k⟩).record? ["id", "name", "kernelId"] 2 =
        some [("id", id.toNode), ("name", .ofString name), ("kernelId", .ofString k)] :=
      Node.record?_record (by simp) (by simp) 2
    rw [ofNode?, hrecord]
    simp [List.lookup_cons, EntityId.ofNode?_toNode, Node.ofString, Node.string?, Node.nullable?]

theorem written_toNode (c : Client) : c.toNode.Written := by
  obtain ⟨id, name, kernelId⟩ := c
  refine Node.written_record ?_
  cases kernelId <;> simp [id.written_toNode, Node.written_ofString]

end Client

namespace Product

/-- A product is read back from its document. -/
theorem ofNode?_toNode (p : Product) : ofNode? p.toNode = some p := by
  obtain ⟨id, name⟩ := p
  have hrecord : (toNode ⟨id, name⟩).record? ["id", "name"] 2 =
      some [("id", id.toNode), ("name", .ofString name)] :=
    Node.record?_record (by simp) (by simp) 2
  rw [ofNode?, hrecord]
  simp [List.lookup_cons, EntityId.ofNode?_toNode, Node.ofString, Node.string?]

theorem written_toNode (p : Product) : p.toNode.Written :=
  Node.written_record (by simp [p.id.written_toNode, Node.written_ofString])

end Product

namespace Kernel

/-- A kernel is read back from its document. -/
theorem ofNode?_toNode (k : Kernel) : ofNode? k.toNode = some k := by
  obtain ⟨id, version, default⟩ := k
  have hrecord : (toNode ⟨id, version, default⟩).record? ["id", "version", "default"] 2 =
      some [("id", id.toNode), ("version", .ofString version), ("default", .bool default)] :=
    Node.record?_record (by simp) (by simp) 2
  rw [ofNode?, hrecord]
  simp [List.lookup_cons, EntityId.ofNode?_toNode, Node.ofString, Node.string?, Node.bool?]

theorem written_toNode (k : Kernel) : k.toNode.Written :=
  Node.written_record
    (by simp [k.id.written_toNode, Node.written_ofString, Node.Written.bool])

end Kernel

/-! ## Documents -/

namespace Catalog.Document

/-- The lists of kernels by the keys of their scopes. -/
def kernelsNode (kernels : Dict (List Kernel)) : Node :=
  .record (kernels.map fun (k, l) => (k, .arr (l.map Kernel.toNode)))

/-- The kernel lists are read back one by one. -/
theorem mapM_kernelList? (lists : List (String × List Kernel)) :
    ((lists.map fun (k, l) => (k, Node.arr (l.map Kernel.toNode))).map
      fun (k, n) => (some k, n)).mapM kernelList? = some lists := by
  induction lists with
  | nil => rfl
  | cons p lists ih =>
    obtain ⟨k, l⟩ := p
    have hlist : kernelList? (some k, .arr (l.map Kernel.toNode)) = some (k, l) := by
      simp [kernelList?, Node.list?_map Kernel.ofNode?_toNode]
    rw [List.map_cons, List.map_cons, List.mapM_cons, hlist, ih]
    rfl

/-- The kernel lists are read back, and their keys stay in order. -/
theorem kernelLists?_kernelsNode {kernels : Dict (List Kernel)} (h : kernels.Ordered) :
    kernelLists? (kernelsNode kernels) = some kernels := by
  show Option.map Dict.ofPairs _ = _
  rw [mapM_kernelList?, Option.map_some, h.ofPairs_eq]

theorem written_kernelsNode (kernels : Dict (List Kernel)) : (kernelsNode kernels).Written := by
  refine Node.written_record fun m hm => ?_
  obtain ⟨p, -, rfl⟩ := List.mem_map.mp hm
  exact Node.written_list Kernel.written_toNode p.2

variable {d : Document}

/-- Documents are read back from their nodes. -/
theorem ofNode?_toNode (h : d.kernels.Ordered) : ofNode? d.toNode = some d := by
  have hrecord : d.toNode.record? ["clients", "products", "kernels"] 0 =
      some [("clients", .arr (d.clients.map Client.toNode)),
        ("products", .arr (d.products.map Product.toNode)), ("kernels", kernelsNode d.kernels)] :=
    Node.record?_record (by simp) (by simp) 0
  rw [ofNode?, hrecord]
  simp [List.lookup_cons, Node.list?_map Client.ofNode?_toNode,
    Node.list?_map Product.ofNode?_toNode, kernelLists?_kernelsNode h]

theorem written_toNode (d : Document) : d.toNode.Written := by
  refine Node.written_record fun m hm => ?_
  simp only [List.mem_cons, List.not_mem_nil, or_false] at hm
  rcases hm with rfl | rfl | rfl
  · exact Node.written_list Client.written_toNode d.clients
  · exact Node.written_list Product.written_toNode d.products
  · exact written_kernelsNode d.kernels

/-- A document is read back from its text. -/
theorem parse_text (h : d.kernels.Ordered) : parse d.text = .ok d := by
  have hnode : Node.parse? d.text = some d.toNode := (written_toNode d).parse?_text
  have hread : Node.parse? d.text >>= ofNode? = some d := by
    rw [hnode]
    exact ofNode?_toNode h
  rw [parse, hread]

/-- The scopes of a document that is read are in order. -/
theorem ordered_of_ofNode? {n : Node} (h : ofNode? n = some d) : d.kernels.Ordered := by
  simp only [ofNode?, bind, Option.bind_eq_some_iff] at h
  obtain ⟨fields, -, clients, -, products, -, kernels, hkernels, hd⟩ := h
  cases hd
  unfold kernelLists? at hkernels
  split at hkernels
  · obtain ⟨lists, -, rfl⟩ := Option.map_eq_some_iff.mp hkernels
    exact Dict.ordered_ofPairs lists
  · cases hkernels

/-- What is read has its keys in order. -/
theorem ordered_of_parse {s : String} (h : parse s = .ok d) : d.kernels.Ordered := by
  unfold parse at h
  split at h
  · next d' hread =>
    cases h
    obtain ⟨n, -, hn⟩ := Option.bind_eq_some_iff.mp hread
    exact ordered_of_ofNode? hn
  · cases h

/-- **Every document is read back from its text**, whatever its lists, its scopes and the
characters of its names. So a text that is accepted says the same as the text of what it names,
and that text is written again as it is. -/
theorem rereads :
    (∀ (clients : List Client) (products : List Product) (lists : List (String × List Kernel)),
      parse (text ⟨clients, products, .ofPairs lists⟩) =
        .ok ⟨clients, products, .ofPairs lists⟩) ∧
    ∀ (s : String) (d : Document), parse s = .ok d →
      parse d.text = .ok d ∧ (parse d.text).map text = .ok d.text := by
  refine ⟨fun _ _ lists => parse_text (Dict.ordered_ofPairs lists), fun s d h => ?_⟩
  have hread : parse d.text = .ok d := parse_text (ordered_of_parse h)
  exact ⟨hread, by rw [hread]; rfl⟩

/-- Scopes out of order and named twice, a name of escapes only, the largest identifier, a product
without the names of its fields and a kernel without a default. -/
theorem rereads_unsorted :
    let d : Document :=
      { clients := [⟨⟨0xffffffffffffffff⟩, "\"\\\x01é", some "7"⟩]
        products := [⟨⟨3⟩, "p"⟩]
        kernels := [("*", []), ("client:1", [⟨⟨2⟩, "1.2", false⟩])] }
    let s : String :=
      "\x7b\"products\": [[3, \"p\"]], \"clients\": [\x7b\"kernelId\": \"7\", " ++
        "\"name\": \"\\\"\\\\\\u0001\\u00e9\", \"id\": 18446744073709551615\x7d], " ++
        "\"kernels\": \x7b\"client:1\": [], \"*\": [], " ++
        "\"client:1\": [\x7b\"id\": 2, \"version\": \"1.2\"\x7d]\x7d\x7d"
    parse s = .ok d ∧ parse d.text = .ok d ∧ (parse d.text).map text = .ok d.text := by
  intro d s
  have hread : parse s = .ok d := by decide +kernel
  exact ⟨hread, rereads.2 s d hread⟩

end Catalog.Document

end LivePatching
