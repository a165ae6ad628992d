import LivePatching.Json.Node

/-!
# Reading JSON text

`Node.parse?` reads one value with blanks around it. It checks the grammar only: neither nesting
nor the size of numbers is bounded here, since members that nobody asks for are skipped unread.

Each step takes characters off the front of the text, so twice the length of the text bounds the
number of nested calls.
-/

namespace LivePatching.Json

/-- The blanks that may stand between tokens. -/
def isBlank (c : Char) : Bool := c == ' ' || c == '\n' || c == '\t' || c == '\r'

/-- What follows the blanks at the front. -/
def skipBlanks (cs : List Char) : List Char := cs.dropWhile isBlank

/-! ## Numbers -/

namespace Numeral

/-- The digits before the point: a leading zero stands alone. -/
def readWhole : List Char → Option (List Char × List Char)
  | '0' :: rest => some (['0'], rest)
  | cs =>
    match cs.takeWhile Char.isDigit with
    | [] => none
    | ds => some (ds, cs.dropWhile Char.isDigit)

/-- The digits behind a point, none when no point stands there. -/
def readFraction : List Char → Option (List Char × List Char)
  | '.' :: cs =>
    match cs.takeWhile Char.isDigit with
    | [] => none
    | ds => some (ds, cs.dropWhile Char.isDigit)
  | cs => some ([], cs)

/-- The sign of an exponent, which may be left out. -/
def readSign : List Char → Bool × List Char
  | '+' :: cs => (false, cs)
  | '-' :: cs => (true, cs)
  | cs => (false, cs)

/-- The sign and the digits of an exponent. -/
def readPower (cs : List Char) : Option (Option (Bool × List Char) × List Char) :=
  let (negative, cs) := readSign cs
  match cs.takeWhile Char.isDigit with
  | [] => none
  | ds => some (some (negative, ds), cs.dropWhile Char.isDigit)

/-- The exponent, none when no `e` stands there. -/
def readExponent : List Char → Option (Option (Bool × List Char) × List Char)
  | 'e' :: cs => readPower cs
  | 'E' :: cs => readPower cs
  | cs => some (none, cs)

/-- A numeral behind its sign. -/
def readUnsigned (negative : Bool) (cs : List Char) : Option (Numeral × List Char) := do
  let (whole, cs) ← readWhole cs
  let (fraction, cs) ← readFraction cs
  let (exponent, cs) ← readExponent cs
  return (⟨negative, whole, fraction, exponent⟩, cs)

/-- A numeral and what follows it. -/
def read : List Char → Option (Numeral × List Char)
  | '-' :: cs => readUnsigned true cs
  | cs => readUnsigned false cs

end Numeral

/-! ## Text -/

/-- The value of a hexadecimal digit. -/
def hexDigit? (c : Char) : Option Nat :=
  if '0' ≤ c ∧ c ≤ '9' then some (c.toNat - '0'.toNat)
  else if 'a' ≤ c ∧ c ≤ 'f' then some (c.toNat - 'a'.toNat + 10)
  else if 'A' ≤ c ∧ c ≤ 'F' then some (c.toNat - 'A'.toNat + 10)
  else none

/-- The 16-bit unit of a `\u` escape. -/
def unit? (a b c d : Char) : Option Nat := do
  return (((← hexDigit? a) * 16 + (← hexDigit? b)) * 16 + (← hexDigit? c)) * 16 + (← hexDigit? d)

/-- Whether a code unit opens a surrogate pair. -/
def isLeading (u : Nat) : Bool := 0xd800 ≤ u && u < 0xdc00

/-- Whether a code unit closes a surrogate pair. -/
def isTrailing (u : Nat) : Bool := 0xdc00 ≤ u && u < 0xe000

/-- The character of an escape of one letter. -/
def unescape? : Char → Option Char
  | '"' => some '"'
  | '\\' => some '\\'
  | '/' => some '/'
  | 'b' => some '\x08'
  | 'f' => some '\x0c'
  | 'n' => some '\n'
  | 'r' => some '\r'
  | 't' => some '\t'
  | _ => none

/-- A character of a text, or a surrogate that an escape names. -/
inductive Piece where
  | char (c : Char)
  | half (u : Nat)
deriving DecidableEq, Repr

/-- A 16-bit unit as a piece. -/
def Piece.ofUnit (u : Nat) : Piece :=
  if isLeading u || isTrailing u then .half u else .char (Char.ofNat u)

/-- Reads the pieces of a text from behind its opening quote to behind its closing quote. -/
def readPieces : List Char → Option (List Piece × List Char)
  | [] => none
  | '"' :: rest => some ([], rest)
  | '\\' :: 'u' :: a :: b :: c :: d :: rest =>
    match unit? a b c d with
    | some u => (readPieces rest).map fun (ps, rest) => (.ofUnit u :: ps, rest)
    | none => none
  | '\\' :: c :: rest =>
    match unescape? c with
    | some e => (readPieces rest).map fun (ps, rest) => (.char e :: ps, rest)
    | none => none
  | c :: rest =>
    if c.toNat < 32 then none else (readPieces rest).map fun (ps, rest) => (.char c :: ps, rest)

/-- The characters of a text: a leading surrogate and the trailing one right after it make one
character, and no other surrogate makes any. -/
def assemble : List Piece → Option (List Char)
  | [] => some []
  | .char c :: ps => (assemble ps).map (c :: ·)
  | .half u :: .half v :: ps =>
    if isLeading u && isTrailing v then
      (assemble ps).map (Char.ofNat (0x10000 + (u - 0xd800) * 0x400 + (v - 0xdc00)) :: ·)
    else none
  | .half _ :: _ => none

/-! ## Values -/

/-- A text and what follows it, from its opening quote on. -/
def readKey : List Char → Option (Option String × List Char)
  | '"' :: cs => (readPieces cs).map fun (ps, rest) => ((assemble ps).map String.ofList, rest)
  | _ => none

mutual

/-- A document and what follows it, read with fuel. -/
def readNode : Nat → List Char → Option (Node × List Char)
  | 0, _ => none
  | fuel + 1, cs =>
    match skipBlanks cs with
    | 'n' :: 'u' :: 'l' :: 'l' :: rest => some (.null, rest)
    | 't' :: 'r' :: 'u' :: 'e' :: rest => some (.bool true, rest)
    | 'f' :: 'a' :: 'l' :: 's' :: 'e' :: rest => some (.bool false, rest)
    | '"' :: rest => (readKey ('"' :: rest)).map fun (s, rest) => (.str s, rest)
    | '[' :: rest =>
      match skipBlanks rest with
      | ']' :: rest => some (.arr [], rest)
      | rest => (readItems fuel rest).map fun (items, rest) => (.arr items, rest)
    | '{' :: rest =>
      match skipBlanks rest with
      | '}' :: rest => some (.obj [], rest)
      | rest => (readMembers fuel rest).map fun (members, rest) => (.obj members, rest)
    | rest => (Numeral.read rest).map fun (n, rest) => (.num n, rest)

/-- One item or more, and the closing bracket. -/
def readItems : Nat → List Char → Option (List Node × List Char)
  | 0, _ => none
  | fuel + 1, cs => do
    let (n, cs) ← readNode fuel cs
    match skipBlanks cs with
    | ']' :: cs => return ([n], cs)
    | ',' :: cs =>
      let (items, cs) ← readItems fuel cs
      return (n :: items, cs)
    | _ => none

/-- One member or more, and the closing brace. -/
def readMembers : Nat → List Char → Option (List (Option String × Node) × List Char)
  | 0, _ => none
  | fuel + 1, cs => do
    let (k, cs) ← readKey (skipBlanks cs)
    let ':' :: cs := skipBlanks cs | none
    let (n, cs) ← readNode fuel cs
    match skipBlanks cs with
    | '}' :: cs => return ([(k, n)], cs)
    | ',' :: cs =>
      let (members, cs) ← readMembers fuel cs
      return ((k, n) :: members, cs)
    | _ => none

end

namespace Node

/-- The value that makes up a text. -/
def read? (cs : List Char) : Option Node :=
  match readNode (2 * cs.length + 2) cs with
  | some (n, rest) => if (skipBlanks rest).isEmpty then some n else none
  | none => none

/-- The document a text holds, blanks around it allowed. -/
def parse? (s : String) : Option Node := read? s.toList

end Node

end LivePatching.Json
