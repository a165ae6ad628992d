/-!
# JSON text as a tree

A `Node` keeps what a JSON text says before any meaning is given to it: numbers by their digits,
members in the order written and with their repetitions. A text in which an escape names half of
a surrogate pair alone has no characters, and is kept as `none`.

* `Node.print`: the text of a node, without blanks.
* `Numeral.natural?`: the numeral of an unsigned integer.
-/

namespace LivePatching.Json

/-- A number as written: `whole`, the digits after the point, the exponent and its sign. -/
structure Numeral where
  negative : Bool
  whole : List Char
  /-- Empty iff there is no point. -/
  fraction : List Char
  exponent : Option (Bool × List Char)
deriving DecidableEq, Repr, Inhabited

/-- A document as it is written: the numerals with their spelling, and the members of an object in
order with their repetitions. A string is `none` when its escapes do not make text. -/
inductive Node where
  | null
  | bool (b : Bool)
  | num (n : Numeral)
  | str (s : Option String)
  | arr (items : List Node)
  | obj (members : List (Option String × Node))
deriving Repr, Inhabited

namespace Numeral

/-- The numeral of a natural number. -/
def ofNat (n : Nat) : Numeral := ⟨false, Nat.toDigits 10 n, [], none⟩

/-- The numeral of an integer. -/
def ofInt : Int → Numeral
  | .ofNat n => ofNat n
  | .negSucc n => ⟨true, Nat.toDigits 10 (n + 1), [], none⟩

/-- The characters of a numeral. -/
def print (n : Numeral) : List Char :=
  (if n.negative then ['-'] else []) ++ n.whole ++
    (if n.fraction.isEmpty then [] else '.' :: n.fraction) ++
    match n.exponent with
    | none => []
    | some (negative, ds) => 'e' :: (if negative then ['-'] else []) ++ ds

end Numeral

/-! ## Text -/

/-- The escape of a character: only quotes, backslashes and control characters have one. -/
def escape (c : Char) : List Char :=
  if c = '"' then ['\\', '"']
  else if c = '\\' then ['\\', '\\']
  else if c = '\x08' then ['\\', 'b']
  else if c = '\x0c' then ['\\', 'f']
  else if c = '\n' then ['\\', 'n']
  else if c = '\r' then ['\\', 'r']
  else if c = '\t' then ['\\', 't']
  else if c.toNat < 32 then
    ['\\', 'u', '0', '0', Nat.digitChar (c.toNat / 16), Nat.digitChar (c.toNat % 16)]
  else [c]

/-- A string literal, with what has to be escaped escaped. -/
def quote (s : String) : List Char := '"' :: s.toList.flatMap escape ++ ['"']

/-- A text without characters is written as one half of a surrogate pair. -/
def quote? : Option String → List Char
  | some s => quote s
  | none => ['"', '\\', 'u', 'd', '8', '0', '0', '"']

namespace Node

mutual

/-- The document without any blanks. -/
def print : Node → List Char
  | .null => ['n', 'u', 'l', 'l']
  | .bool true => ['t', 'r', 'u', 'e']
  | .bool false => ['f', 'a', 'l', 's', 'e']
  | .num n => n.print
  | .str s => quote? s
  | .arr items => '[' :: printItems items
  | .obj members => '{' :: printMembers members

/-- The items and the closing bracket. -/
def printItems : List Node → List Char
  | [] => [']']
  | [n] => print n ++ [']']
  | n :: rest => print n ++ ',' :: printItems rest

/-- The members that are left and the closing brace. -/
def printMembers : List (Option String × Node) → List Char
  | [] => ['}']
  | [(k, n)] => quote? k ++ ':' :: print n ++ ['}']
  | (k, n) :: rest => quote? k ++ ':' :: print n ++ ',' :: printMembers rest

end

/-- The document as a text. -/
def text (n : Node) : String := String.ofList n.print

/-- A string of the document. -/
def ofString (s : String) : Node := .str (some s)

/-- A natural number of the document. -/
def ofNat (n : Nat) : Node := .num (.ofNat n)

/-- An object whose members are written in the order given. -/
def record (members : List (String × Node)) : Node :=
  .obj (members.map fun (k, n) => (some k, n))

end Node

end LivePatching.Json
