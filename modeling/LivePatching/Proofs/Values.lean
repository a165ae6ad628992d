import LivePatching.Json.Record
import LivePatching.Proofs.KeyOrder
import LivePatching.Proofs.Printing

/-!
# Values and records are read back from their nodes

* `Node.record?_record`: a record is read as its members, if their names are known and distinct.
* `Value.Ordered`: the keys of every object are in order; `ordered_of_ofNode?`: those of a value
  that is read are.
* `Value.Integral`: every number is an integer of a machine word.
* `Value.ofNode?_toNode`: **such a value is the value of its node**, if that nests no deeper than
  allowed.
* `Value.written_toNode`: the node of every value is written, so its text is read back.
* `Value.Ordered.keysIncrease`: the keys of a value in order are written in the order of their
  bytes.
* `Value.Agrees.eq`: values in order in which all look-ups agree are the same.
-/

namespace LivePatching

namespace Json

/-! ## Nodes -/

namespace Node

mutual

/-- How deep arrays and objects nest. -/
def depth : Node → Nat
  | .arr items => depthItems items + 1
  | .obj members => depthMembers members + 1
  | _ => 0

/-- The depth of the deepest item. -/
def depthItems : List Node → Nat
  | [] => 0
  | n :: rest => max (depth n) (depthItems rest)

/-- The depth of the deepest member. -/
def depthMembers : List (Option String × Node) → Nat
  | [] => 0
  | (_, n) :: rest => max (depth n) (depthMembers rest)

end

/-- Every object lists its keys in the order of their bytes in UTF-8, each once. -/
inductive KeysIncrease : Node → Prop where
  | null : KeysIncrease .null
  | bool (b : Bool) : KeysIncrease (.bool b)
  | num (n : Numeral) : KeysIncrease (.num n)
  | str (s : Option String) : KeysIncrease (.str s)
  | arr {items : List Node} (h : ∀ n ∈ items, KeysIncrease n) : KeysIncrease (.arr items)
  | obj {members : List (Option String × Node)}
      (hk : (members.filterMap fun m => m.1.map Bytes.ofString).Pairwise (· < ·))
      (h : ∀ m ∈ members, KeysIncrease m.2) : KeysIncrease (.obj members)

/-! ## Records -/

/-- A record of written documents is written. -/
theorem written_record {members : List (String × Node)} (h : ∀ m ∈ members, m.2.Written) :
    (record members).Written := by
  refine .obj (fun m hm => ?_) fun m hm => ?_
  · obtain ⟨m', -, rfl⟩ := List.mem_map.mp hm
    exact ⟨m'.1, rfl⟩
  · obtain ⟨m', hm', rfl⟩ := List.mem_map.mp hm
    exact h m' hm'

theorem written_ofString (s : String) : (ofString s).Written := .str s

/-- Members are all read, if their names are known and distinct. -/
theorem knownMembers_map {names : List String} {members : List (String × Node)}
    (hknown : ∀ m ∈ members, m.1 ∈ names) (hdistinct : (members.map (·.1)).Nodup) :
    knownMembers names (members.map fun (k, n) => (some k, n)) = some members := by
  induction members with
  | nil => rfl
  | cons m members ih =>
    obtain ⟨k, n⟩ := m
    obtain ⟨hk, hknown⟩ := List.forall_mem_cons.mp hknown
    rw [List.map_cons, List.nodup_cons] at hdistinct
    -- the key is not among those to come
    have hlookup : (members.lookup k).isSome = false := by
      rw [Option.isSome_eq_false_iff, Option.isNone_iff_eq_none, List.lookup_eq_none_iff]
      intro m hm
      rw [bne_iff_ne]
      exact fun he => hdistinct.1 (List.mem_map.mpr ⟨m, hm, he.symm⟩)
    rw [List.map_cons, knownMembers, ih hknown hdistinct.2]
    simp [hk, hlookup]

/-- A record is read as its members, if their names are known and distinct. -/
theorem record?_record {names : List String} {members : List (String × Node)}
    (hknown : ∀ m ∈ members, m.1 ∈ names) (hdistinct : (members.map (·.1)).Nodup) (least : Nat) :
    (record members).record? names least = some members :=
  knownMembers_map hknown hdistinct

/-- A list is read back if each of its items is. -/
theorem list?_map {α : Type} {item : α → Node} {item? : Node → Option α}
    (h : ∀ a, item? (item a) = some a) (l : List α) :
    list? item? (.arr (l.map item)) = some l := by
  rw [list?]
  induction l with
  | nil => rfl
  | cons a l ih => rw [List.map_cons, List.mapM_cons, h, ih]; rfl

theorem written_list {α : Type} {item : α → Node} (h : ∀ a, (item a).Written) (l : List α) :
    (arr (l.map item)).Written := by
  refine .arr fun n hn => ?_
  obtain ⟨a, -, rfl⟩ := List.mem_map.mp hn
  exact h a

end Node

namespace Value

/-- The keys of every object are in order. -/
inductive Ordered : Value → Prop where
  | null : Ordered .null
  | bool (b : Bool) : Ordered (.bool b)
  | num (n : Number) : Ordered (.num n)
  | str (s : String) : Ordered (.str s)
  | arr {items : List Value} (h : ∀ v ∈ items, Ordered v) : Ordered (.arr items)
  | obj {members : Dict Value} (hk : Dict.Ordered members) (h : ∀ m ∈ members, Ordered m.2) :
      Ordered (.obj members)

/-- Every number is an integer of a machine word. -/
inductive Integral : Value → Prop where
  | null : Integral .null
  | bool (b : Bool) : Integral (.bool b)
  | num {i : Int} (h : Number.InRange i) : Integral (.num (.int i))
  | str (s : String) : Integral (.str s)
  | arr {items : List Value} (h : ∀ v ∈ items, Integral v) : Integral (.arr items)
  | obj {members : Dict Value} (h : ∀ m ∈ members, Integral m.2) : Integral (.obj members)

/-- The same value, whatever the order in which objects list their keys. -/
inductive Agrees : Value → Value → Prop where
  | null : Agrees .null .null
  | bool (b : Bool) : Agrees (.bool b) (.bool b)
  | num (n : Number) : Agrees (.num n) (.num n)
  | str (s : String) : Agrees (.str s) (.str s)
  | arr {items items' : List Value} (hlen : items.length = items'.length)
      (h : ∀ (i : Nat) v v', items[i]? = some v → items'[i]? = some v' → Agrees v v') :
      Agrees (.arr items) (.arr items')
  | obj {d d' : Dict Value} (hkeys : ∀ key, (d.get? key).isSome = (d'.get? key).isSome)
      (h : ∀ key v v', d.get? key = some v → d'.get? key = some v' → Agrees v v') :
      Agrees (.obj d) (.obj d')

/-! ## Values and nodes -/

theorem itemNodes_eq (items : List Value) : itemNodes items = items.map toNode := by
  induction items with
  | nil => rfl
  | cons v items ih => rw [itemNodes, ih, List.map_cons]

/-- The members are written one by one. -/
theorem memberNodes_eq (members : List (String × Value)) :
    memberNodes members = members.map fun m => (some m.1, m.2.toNode) := by
  induction members with
  | nil => rfl
  | cons m members ih => obtain ⟨k, v⟩ := m; rw [memberNodes, ih, List.map_cons]

/-- A number is written as a numeral. -/
theorem written_number (n : Number) : n.toNode.Written := by
  cases n with
  | int i => exact .num (Numeral.written_ofInt i)
  | real x =>
    rw [Number.toNode]
    split
    · next h => exact .num (Numeral.written_of_read h)
    · exact .null

mutual

/-- The node of every value is written. -/
theorem written_toNode : ∀ v : Value, v.toNode.Written
  | .null => by rw [toNode]; exact .null
  | .bool b => by rw [toNode]; exact .bool b
  | .num n => by rw [toNode]; exact written_number n
  | .str s => by rw [toNode]; exact .str s
  | .arr items => by rw [toNode]; exact .arr (written_itemNodes items)
  | .obj members => by
    rw [toNode]
    refine .obj (fun m hm => ?_) (written_memberNodes members)
    rw [memberNodes_eq, List.mem_map] at hm
    obtain ⟨m', -, rfl⟩ := hm
    exact ⟨m'.1, rfl⟩

theorem written_itemNodes : ∀ items : List Value, ∀ n ∈ itemNodes items, n.Written
  | [] => by simp [itemNodes]
  | v :: items => by
    rw [itemNodes, List.forall_mem_cons]
    exact ⟨written_toNode v, written_itemNodes items⟩

theorem written_memberNodes :
    ∀ members : List (String × Value), ∀ m ∈ memberNodes members, m.2.Written
  | [] => by simp [memberNodes]
  | (k, v) :: members => by
    rw [memberNodes, List.forall_mem_cons]
    exact ⟨written_toNode v, written_memberNodes members⟩

end

/-- Items are read back if each of them is. -/
theorem ofItems?_itemNodes {levels : Nat} {items : List Value}
    (h : ∀ v ∈ items, v.toNode.depth ≤ levels → ofNode? levels v.toNode = some v)
    (hd : Node.depthItems (itemNodes items) ≤ levels) :
    ofItems? levels (itemNodes items) = some items := by
  induction items with
  | nil => rfl
  | cons v items ih =>
    obtain ⟨hv, hitems⟩ := List.forall_mem_cons.mp h
    rw [itemNodes, Node.depthItems] at hd
    rw [itemNodes, ofItems?, hv (by omega), ih hitems (by omega)]

/-- The members of an object are read back. -/
theorem ofMembers?_memberNodes {levels : Nat} {members : List (String × Value)}
    (h : ∀ m ∈ members, m.2.toNode.depth ≤ levels → ofNode? levels m.2.toNode = some m.2)
    (hd : Node.depthMembers (memberNodes members) ≤ levels) :
    ofMembers? levels (memberNodes members) = some members := by
  induction members with
  | nil => rfl
  | cons m members ih =>
    obtain ⟨k, v⟩ := m
    obtain ⟨hv, hmembers⟩ := List.forall_mem_cons.mp h
    rw [memberNodes, Node.depthMembers] at hd
    have hread : ofNode? levels v.toNode = some v := hv (by simp only; omega)
    have hrest : ofMembers? levels (memberNodes members) = some members := ih hmembers (by omega)
    simp only [memberNodes, ofMembers?, hread, hrest]

/-- **A value is the value of its node**, if its numbers are integers and its keys in order. -/
theorem ofNode?_toNode {v : Value} (ho : v.Ordered) (hi : v.Integral) {levels : Nat}
    (hd : v.toNode.depth ≤ levels) : ofNode? levels v.toNode = some v := by
  induction hi generalizing levels with
  | null => rfl
  | bool b => rfl
  | @num i h =>
    have hnode : (num (.int i)).toNode = .num (.ofInt i) := rfl
    rw [hnode, ofNode?, Number.ofNumeral?_ofInt h]
    rfl
  | str s => rfl
  | @arr items h ih =>
    cases ho with
    | arr ho =>
      rw [toNode, Node.depth] at hd
      obtain ⟨levels, rfl⟩ : ∃ k, levels = k + 1 := ⟨levels - 1, by omega⟩
      have hitems : ofItems? levels (itemNodes items) = some items :=
        ofItems?_itemNodes (fun v hv hvd => ih v hv (ho v hv) hvd) (by omega)
      rw [toNode, ofNode?, hitems]
      rfl
  | @obj members h ih =>
    cases ho with
    | obj hk ho =>
      rw [toNode, Node.depth] at hd
      obtain ⟨levels, rfl⟩ : ∃ k, levels = k + 1 := ⟨levels - 1, by omega⟩
      -- the members come in order, so none of them is lost
      have hmembers : ofMembers? levels (memberNodes members) = some members :=
        ofMembers?_memberNodes (fun m hm hmd => ih m hm (ho m hm) hmd) (by omega)
      rw [toNode, ofNode?, hmembers]
      simp only [Option.map_some, hk.ofPairs_eq]

/-! ## The order of keys -/

/-- What is read as a list has its keys in order. -/
theorem ordered_ofItems? {levels : Nat} (h : ∀ n v, ofNode? levels n = some v → v.Ordered)
    {items : List Node} {vs : List Value} (hvs : ofItems? levels items = some vs) :
    ∀ v ∈ vs, v.Ordered := by
  induction items generalizing vs with
  | nil => cases hvs; simp
  | cons n items ih =>
    rw [ofItems?] at hvs
    split at hvs
    · next v vs' hv hvs' =>
      cases hvs
      exact List.forall_mem_cons.mpr ⟨h n v hv, ih hvs'⟩
    · cases hvs

/-- What is read as members has its keys in order. -/
theorem ordered_ofMembers? {levels : Nat} (h : ∀ n v, ofNode? levels n = some v → v.Ordered)
    {members : List (Option String × Node)} {vs : List (String × Value)}
    (hvs : ofMembers? levels members = some vs) : ∀ m ∈ vs, m.2.Ordered := by
  induction members generalizing vs with
  | nil => cases hvs; simp
  | cons m members ih =>
    obtain ⟨k, n⟩ := m
    simp only [ofMembers?] at hvs
    split at hvs
    · next k v vs' hv hvs' =>
      cases hvs
      exact List.forall_mem_cons.mpr ⟨h n v hv, ih hvs'⟩
    · cases hvs

/-- The keys of a value that is read are in order. -/
theorem ordered_of_ofNode? {levels : Nat} {n : Node} {v : Value}
    (h : ofNode? levels n = some v) : v.Ordered := by
  -- by the levels that are left, for what stands inside is read with one less
  induction levels using Nat.strongRecOn generalizing n v with
  | ind levels ih =>
    cases n with
    | null => cases h; exact .null
    | bool b => cases h; exact .bool b
    | num n =>
      obtain ⟨x, -, rfl⟩ := Option.map_eq_some_iff.mp h
      exact .num x
    | str s =>
      obtain ⟨s, -, rfl⟩ := Option.map_eq_some_iff.mp h
      exact .str s
    | arr items =>
      cases levels with
      | zero => cases h
      | succ levels =>
        obtain ⟨vs, hvs, rfl⟩ := Option.map_eq_some_iff.mp h
        exact .arr (ordered_ofItems? (fun _ _ => ih levels (Nat.lt_succ_self _)) hvs)
    | obj members =>
      cases levels with
      | zero => cases h
      | succ levels =>
        obtain ⟨vs, hvs, rfl⟩ := Option.map_eq_some_iff.mp h
        refine .obj (Dict.ordered_ofPairs vs) fun m hm => ?_
        exact ordered_ofMembers? (fun _ _ => ih levels (Nat.lt_succ_self _)) hvs m
          (Dict.mem_ofPairs hm)

/-- The keys of a value in order are written in the order of their bytes. -/
theorem Ordered.keysIncrease {v : Value} (h : v.Ordered) : v.toNode.KeysIncrease := by
  induction h with
  | null => exact .null
  | bool b => exact .bool b
  | num n =>
    cases n with
    | int i => exact .num _
    | real x =>
      rw [toNode, Number.toNode]
      split
      · exact .num _
      · exact .null
  | str s => exact .str _
  | @arr items _ ih =>
    rw [toNode, itemNodes_eq]
    refine .arr fun n hn => ?_
    obtain ⟨v, hv, rfl⟩ := List.mem_map.mp hn
    exact ih v hv
  -- keys in order have their bytes in order
  | @obj members hk _ ih =>
    rw [toNode, memberNodes_eq]
    refine .obj ?_ fun m hm => ?_
    · rw [List.filterMap_map, List.pairwise_filterMap]
      refine hk.imp fun hlt b hb b' hb' => ?_
      cases hb
      cases hb'
      exact Bytes.ofString_lt hlt
    · obtain ⟨m', hm', rfl⟩ := List.mem_map.mp hm
      exact ih m' hm'

/-- Values in order in which all look-ups agree are the same. -/
theorem Agrees.eq {v v' : Value} (h : v.Agrees v') (ho : v.Ordered) (ho' : v'.Ordered) :
    v = v' := by
  induction h with
  | null => rfl
  | bool b => rfl
  | num n => rfl
  | str s => rfl
  | @arr items items' hlen _ ih =>
    cases ho with
    | arr ho =>
      cases ho' with
      | arr ho' =>
        refine congrArg _ (List.ext_getElem hlen fun i hi hi' => ?_)
        exact ih i _ _ (List.getElem?_eq_getElem hi) (List.getElem?_eq_getElem hi')
          (ho _ (List.getElem_mem hi)) (ho' _ (List.getElem_mem hi'))
  | @obj d d' hkeys _ ih =>
    cases ho with
    | obj hk ho =>
      cases ho' with
      | obj hk' ho' =>
        -- members in the order of their keys are determined by the value of each key
        refine congrArg _ (hk.ext hk' fun key => ?_)
        have hkey := hkeys key
        cases hv : d.get? key with
        | none =>
          rw [hv] at hkey
          exact (Option.isSome_eq_false_iff.mp hkey.symm |> Option.isNone_iff_eq_none.mp).symm
        | some v =>
          rw [hv] at hkey
          obtain ⟨v', hv'⟩ := Option.isSome_iff_exists.mp hkey.symm
          rw [hv', ih key v v' hv hv' (ho _ (Dict.mem_of_get? hv)) (ho' _ (Dict.mem_of_get? hv'))]

end Value

end Json

end LivePatching
