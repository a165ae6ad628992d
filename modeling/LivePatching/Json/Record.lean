import LivePatching.Json.Reader

/-!
# Records in JSON

A record is written as an object or as an array of its fields in their order.

* `Node.record?`: the fields present, by name. Unknown members are skipped unread; a known member
  that occurs twice is refused. An array may leave out fields at its end, down to a least number.
* `Node.variant?`: the name of a bare alternative, written as a text or as a member with value
  `null`.
-/

namespace LivePatching.Json.Node

/-- The members with a known name. -/
def knownMembers (names : List String) :
    List (Option String × Node) → Option (List (String × Node))
  | [] => some []
  | (none, _) :: _ => none
  | (some k, n) :: rest =>
    match knownMembers names rest with
    | none => none
    | some fields =>
      if names.contains k then
        if (fields.lookup k).isSome then none else some ((k, n) :: fields)
      else some fields

/-- The members of a record: an object by its names, or a list by position with at least `least`
items. -/
def record? (names : List String) (least : Nat) : Node → Option (List (String × Node))
  | .arr items =>
    if least ≤ items.length ∧ items.length ≤ names.length then some (names.zip items)
    else none
  | .obj members => knownMembers names members
  | _ => none

/-- The name of a variant without content. -/
def variant? : Node → Option String
  | .str s => s
  | .obj [(k, .null)] => k
  | _ => none

/-- The text of a string. -/
def string? : Node → Option String
  | .str s => s
  | _ => none

/-- The truth value. -/
def bool? : Node → Option Bool
  | .bool b => some b
  | _ => none

/-- A list of values, each read by `item?`. -/
def list? (item? : Node → Option α) : Node → Option (List α)
  | .arr items => items.mapM item?
  | _ => none

/-- A value or `null`. -/
def nullable? (value? : Node → Option α) : Node → Option (Option α)
  | .null => some none
  | n => (value? n).map some

end LivePatching.Json.Node
