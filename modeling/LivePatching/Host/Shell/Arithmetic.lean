import LivePatching.Json.Reader
import LivePatching.Text.Digits

/-!
# Calculations in the shell

Whole numbers of 64 bits with the usual operators; a name stands for the number in its variable.

* `Arithmetic.evaluate?`: the value of an expression, if it can be read and divides by no zero.
-/

namespace LivePatching.Host.Shell.Arithmetic

/-- The nearest number of 64 bits with the same last 64 binary places. -/
def wrap (n : Int) : Int := n.bmod UInt64.size

/-- Blanks between the parts of an expression count for nothing. -/
def skip (cs : List Char) : List Char := cs.dropWhile (·.isWhitespace)

/-- Truth as a number. -/
def ofTruth (b : Bool) : Int := if b then 1 else 0

/-- An operator of two sides; it may have no value. -/
abbrev Operator := String × (Int → Int → Option Int)

/-- The operators of two sides by how tightly they bind; those that are longer come first. -/
def operators : List (List Operator) := [
  [("||", fun a b => some (ofTruth (a != 0 || b != 0)))],
  [("&&", fun a b => some (ofTruth (a != 0 && b != 0)))],
  [("==", fun a b => some (ofTruth (a == b))), ("!=", fun a b => some (ofTruth (a != b)))],
  [("<=", fun a b => some (ofTruth (a ≤ b))), (">=", fun a b => some (ofTruth (b ≤ a))),
    ("<", fun a b => some (ofTruth (a < b))), (">", fun a b => some (ofTruth (b < a)))],
  [("+", fun a b => some (a + b)), ("-", fun a b => some (a - b))],
  [("*", fun a b => some (a * b)),
    ("/", fun a b => if b = 0 then none else some (a.tdiv b)),
    ("%", fun a b => if b = 0 then none else some (a.tmod b))]]

/-- The operator that a text starts with, of those of one level. -/
def operator? (level : List Operator) (cs : List Char) :
    Option ((Int → Int → Option Int) × List Char) :=
  level.findSome? fun (name, f) =>
    let name := name.toList
    if name.isPrefixOf cs then some (f, cs.drop name.length) else none

/-- Digits in base eight after a zero, in base sixteen after `0x`, else in base ten. -/
def number? (cs : List Char) : Option Int :=
  let inBase := fun (base : Nat) (digits : List Char) =>
    digits.foldlM (fun (n : Nat) c => do
      let d ← Json.hexDigit? c
      if d < base then some (n * base + d) else none) 0
  match cs with
  | '0' :: 'x' :: digits => (inBase 16 digits).map Int.ofNat
  | '0' :: digits => (inBase 8 digits).map Int.ofNat
  | digits => (Text.ofDigits? digits).map Int.ofNat

mutual

/-- A number, a name, something in brackets, or a sign before one of these. -/
def operand? (value : String → Int) : Nat → List Char → Option (Int × List Char)
  | 0, _ => none
  | fuel + 1, cs =>
    match skip cs with
    | '(' :: rest => do
      let (n, rest) ← sides? value fuel operators rest
      match skip rest with
      | ')' :: rest => some (n, rest)
      | _ => none
    | '-' :: rest => (operand? value fuel rest).map fun (n, rest) => (-n, rest)
    | '+' :: rest => operand? value fuel rest
    | '!' :: rest => (operand? value fuel rest).map fun (n, rest) => (ofTruth (n == 0), rest)
    | '~' :: rest => (operand? value fuel rest).map fun (n, rest) => (-n - 1, rest)
    | c :: rest =>
      let word := (c :: rest).takeWhile fun c => c.isAlphanum || c == '_'
      let rest := (c :: rest).drop word.length
      if c.isDigit then (number? word).map (·, rest)
      else if word.isEmpty then none
      else some (value (String.ofList word), rest)
    | [] => none

/-- An operand of the level below, and what is joined to it. -/
def sides? (value : String → Int) :
    Nat → List (List Operator) → List Char → Option (Int × List Char)
  | 0, _, _ => none
  | fuel + 1, [], cs => operand? value fuel cs
  | fuel + 1, level :: tighter, cs => do
    let (n, rest) ← sides? value fuel tighter cs
    joined? value fuel level tighter n rest

/-- Goes on with operators of the level, from left to right, as long as there are any. -/
def joined? (value : String → Int) : Nat → List Operator → List (List Operator) → Int →
    List Char → Option (Int × List Char)
  | 0, _, _, _, _ => none
  | fuel + 1, level, tighter, n, cs => do
    match operator? level (skip cs) with
    | none => return (n, cs)
    | some (f, rest) =>
      let (m, rest) ← sides? value fuel tighter rest
      joined? value fuel level tighter (wrap (← f n m)) rest

end

/-- An expression of blanks alone is zero. -/
def evaluate? (value : String → Int) (source : List Char) : Option Int := do
  if (skip source).isEmpty then return 0
  let (n, rest) ← sides? value (20 * source.length + 20) operators source
  if (skip rest).isEmpty then return wrap n else none

end LivePatching.Host.Shell.Arithmetic
