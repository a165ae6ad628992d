import LivePatching.Dict
import LivePatching.Decimal.Binary64
import LivePatching.Json.Reader

/-!
# JSON values

* `Value.ofNode?`: the value of a node, if every text has its characters, every number is within
  range and arrays and objects nest no deeper than allowed. Of members with one key the last wins.
* `Value.toNode`: the canonical node of a value.
* `Number.ofNumeral?`: a numeral without point and exponent is an integer while it fits a machine
  word; every other numeral is a binary floating point number.
-/

namespace LivePatching.Json

/-- A number in memory: a word-size integer or a double. -/
inductive Number where
  | int (i : Int)
  | real (x : Binary64)
deriving DecidableEq, Repr, Inhabited

/-- A document in memory, the numerals read as numbers. -/
inductive Value where
  | null
  | bool (b : Bool)
  | num (n : Number)
  | str (s : String)
  | arr (items : List Value)
  | obj (members : List (String × Value))
deriving Repr, Inhabited

/-! ## Numbers -/

namespace Number

/-- Appends digits to a significand as long as it fits 64 bits, and says which are left. -/
def absorb (significand : Nat) : List Char → Nat × List Char
  | [] => (significand, [])
  | d :: ds =>
    let next := significand * 10 + (d.toNat - '0'.toNat)
    if next < UInt64.size then absorb next ds else (significand, d :: ds)

/-- Powers of ten of a double: the largest is `10 ^ 308`. -/
def powerOfTen (n : Nat) : Float := Float.ofScientific 1 false n

/-- `x / 10 ^ n`, in steps that a double can divide by. -/
def divideByPower (x : Float) (n : Nat) : Float :=
  if n ≤ 308 then x / powerOfTen n
  else if x == 0 then x
  else divideByPower (x / powerOfTen 308) (n - 308)
termination_by n

/-- The double of `significand * 10 ^ exponent`, unless it is too large. -/
def scale? (significand : Nat) (exponent : Int) : Option Float :=
  let x := Float.ofNat significand
  if exponent < 0 then some (divideByPower x (-exponent).toNat)
  else if exponent ≤ 308 then
    let y := x * powerOfTen exponent.toNat
    if y.isInf then none else some y
  else if x == 0 then some x
  else none

/-- An exponent of more than 31 bits counts as infinitely large. -/
def exponentBound : Nat := Nat.pow 2 31

/-- The double a numeral stands for, `none` when it is too large. -/
def real? (n : Numeral) : Option Binary64 := do
  let (significand, left) := absorb 0 n.whole
  let (significand, unread) := absorb significand n.fraction
  let shift : Int := (left.length : Int) - (n.fraction.length - unread.length : Nat)
  let magnitude ←
    match n.exponent with
    | none => scale? significand shift
    | some (negative, ds) =>
      let power := Nat.ofDigitChars 10 ds 0
      if power < exponentBound then
        scale? significand (if negative then shift - power else shift + power)
      else if significand ≠ 0 ∧ negative = false then none
      else some 0
  return .ofFloat (if n.negative then -magnitude else magnitude)

/-- The integer a numeral names, if it has neither point nor exponent and is not `-0`. -/
def int? (n : Numeral) : Option Int :=
  if n.fraction.isEmpty && n.exponent.isNone then
    let magnitude := Nat.ofDigitChars 10 n.whole 0
    if n.negative then
      if magnitude = 0 ∨ Nat.pow 2 63 < magnitude then none else some (-magnitude)
    else if magnitude < UInt64.size then some magnitude
    else none
  else none

/-- The number of a numeral: an integer where one fits, a double otherwise. -/
def ofNumeral? (n : Numeral) : Option Number :=
  match int? n with
  | some i => some (.int i)
  | none => (real? n).map .real

/-- The numeral a number is written as. -/
def toNode : Number → Node
  | .int i => .num (.ofInt i)
  | .real x =>
    match Numeral.read x.shortest.scientific with
    | some (n, _) => .num n
    | none => .null

end Number

/-! ## Values and nodes -/

namespace Value

mutual

/-- The value of a node that nests at most `levels` deep. -/
def ofNode? (levels : Nat) : Node → Option Value
  | .null => some .null
  | .bool b => some (.bool b)
  | .num n => (Number.ofNumeral? n).map .num
  | .str s => s.map .str
  | .arr items =>
    match levels with
    | 0 => none
    | levels + 1 => (ofItems? levels items).map .arr
  | .obj members =>
    match levels with
    | 0 => none
    | levels + 1 => (ofMembers? levels members).map fun pairs => .obj (Dict.ofPairs pairs)

/-- The values of a list's items. -/
def ofItems? (levels : Nat) : List Node → Option (List Value)
  | [] => some []
  | n :: rest =>
    match ofNode? levels n, ofItems? levels rest with
    | some v, some vs => some (v :: vs)
    | _, _ => none

/-- The values of an object's members. -/
def ofMembers? (levels : Nat) : List (Option String × Node) → Option (List (String × Value))
  | [] => some []
  | (k, n) :: rest =>
    match k, ofNode? levels n, ofMembers? levels rest with
    | some k, some v, some vs => some ((k, v) :: vs)
    | _, _, _ => none

end

mutual

/-- The document a value is written as. -/
def toNode : Value → Node
  | .null => .null
  | .bool b => .bool b
  | .num n => n.toNode
  | .str s => .ofString s
  | .arr items => .arr (itemNodes items)
  | .obj members => .obj (memberNodes members)

/-- The items of a list as they are written. -/
def itemNodes : List Value → List Node
  | [] => []
  | v :: rest => toNode v :: itemNodes rest

/-- The members of an object as they are written. -/
def memberNodes : List (String × Value) → List (Option String × Node)
  | [] => []
  | (k, v) :: rest => (some k, toNode v) :: memberNodes rest

end

/-- Arrays and objects may nest this deep in a text that is read. -/
def maxLevels : Nat := 127

/-- The value a text holds. -/
def parse? (s : String) : Option Value := Node.parse? s >>= ofNode? maxLevels

/-- A value as a text. -/
def text (v : Value) : String := v.toNode.text

/-- The value of a natural number. -/
def ofNat (n : Nat) : Value := .num (.int n)

end Value

end LivePatching.Json
