import LivePatching.Host.Shell.Arithmetic
import LivePatching.Text.Digits

/-!
# Utilities

The utilities that scripts call, as functions of their arguments and their input.

* `Utility.find?`: the utility of a name.
-/

namespace LivePatching.Host.Shell

/-- What a utility is called with. -/
structure Request where
  arguments : List (List Char)
  input : List Char
  /-- The content of a file, if there is such a file. -/
  content? : List Char → Option (List Char)

/-- What a utility leaves. -/
structure Reply where
  output : List Char := []
  errors : List Char := []
  /-- What the shell itself says about the call. -/
  fault : Option String := none
  status : Nat := 0
  /-- The input that was not read. -/
  rest : List Char := []
deriving Repr, Inhabited

/-- A command that only reads its input and writes. -/
abbrev Utility := Request → Reply

namespace Utility

/-! ## Escapes -/

/-- The value of an octal digit. -/
def octal? (c : Char) : Option Nat :=
  if '0' ≤ c ∧ c ≤ '7' then some (c.toNat - '0'.toNat) else none

/-- The byte of at most `n` octal digits, and what follows them. -/
def readOctal : Nat → Nat → List Char → Nat × List Char
  | 0, value, cs => (value, cs)
  | n + 1, value, c :: rest =>
    match octal? c with
    | some d => readOctal n (value * 8 + d) rest
    | none => (value, c :: rest)
  | _, value, [] => (value, [])

/-- A number as one byte. -/
def byte (n : Nat) : Char := Char.ofNat (n % 256)

/-- What a backslash stands for, given what follows it. -/
def escaped (cs : List Char) : List Char × List Char :=
  match cs with
  | '\\' :: rest => (['\\'], rest)
  | 'a' :: rest => (['\x07'], rest)
  | 'b' :: rest => (['\x08'], rest)
  | 'f' :: rest => (['\x0c'], rest)
  | 'n' :: rest => (['\n'], rest)
  | 'r' :: rest => (['\r'], rest)
  | 't' :: rest => (['\t'], rest)
  | 'v' :: rest => (['\x0b'], rest)
  | c :: rest =>
    if (octal? c).isSome then
      let (value, rest) := readOctal 3 0 (c :: rest)
      ([byte value], rest)
    else (['\\'], c :: rest)
  | [] => (['\\'], [])

/-- A text with its escapes resolved, and whether `\c` cut it short. A zero may stand before the
octal digits. -/
def unescape : Nat → List Char → List Char × Bool
  | 0, _ => ([], false)
  | _, [] => ([], false)
  | fuel + 1, '\\' :: rest =>
    match rest with
    | 'c' :: _ => ([], true)
    | '0' :: rest =>
      let (value, rest) := readOctal 3 0 rest
      let (text, cut) := unescape fuel rest
      (byte value :: text, cut)
    | rest =>
      let (start, rest) := escaped rest
      let (text, cut) := unescape fuel rest
      (start ++ text, cut)
  | fuel + 1, c :: rest =>
    let (text, cut) := unescape fuel rest
    (c :: text, cut)

/-! ## Writing -/

/-- The arguments with one blank between them. -/
def joined (arguments : List (List Char)) : List Char := [' '].intercalate arguments

/-- Writes its arguments; after a backslash and a c nothing more is written. -/
def echo : Utility := fun r =>
  let (arguments, ending) :=
    match r.arguments with
    | ['-', 'n'] :: rest => (rest, [])
    | all => (all, ['\n'])
  let text := joined arguments
  let (text, cut) := unescape (text.length + 1) text
  { output := text ++ (if cut then [] else ending), rest := r.input }

/-- A conversion in a format: its flags, width and precision, and its letter. -/
structure Conversion where
  left : Bool
  zeros : Bool
  plus : Bool
  width : Nat
  precision : Option Nat
  letter : Char

/-- Reads what stands behind a percent sign: flags, width, precision and kind. -/
def readConversion? (cs : List Char) : Option (Conversion × List Char) :=
  let flags := cs.takeWhile fun c => c == '-' || c == '0' || c == '+' || c == ' ' || c == '#'
  let cs := cs.drop flags.length
  let width := cs.takeWhile Char.isDigit
  let cs := cs.drop width.length
  let (precision, cs) :=
    match cs with
    | '.' :: rest =>
      let digits := rest.takeWhile Char.isDigit
      (some ((Text.ofDigits? digits).getD 0), rest.drop digits.length)
    | cs => (none, cs)
  match cs with
  | letter :: rest =>
    some (⟨flags.contains '-', flags.contains '0', flags.contains '+',
      (Text.ofDigits? width).getD 0, precision, letter⟩, rest)
  | [] => none

/-- A text in a field of some width. -/
def Conversion.field (c : Conversion) (text : List Char) : List Char :=
  let blanks := List.replicate (c.width - text.length) ' '
  if c.left then text ++ blanks else blanks ++ text

/-- The number in its field; zeros go between the sign and the digits. -/
def Conversion.number (c : Conversion) (sign digits : List Char) : List Char :=
  let digits := List.replicate (c.precision.getD 0 - digits.length) '0' ++ digits
  if c.zeros && !c.left && c.precision.isNone then
    sign ++ List.replicate (c.width - sign.length - digits.length) '0' ++ digits
  else c.field (sign ++ digits)

/-- The number that an argument names; a quote before a character gives its code. -/
def integer? (cs : List Char) : Option Int :=
  match cs with
  | [] => some 0
  | '\'' :: c :: _ => some c.toNat
  | '"' :: c :: _ => some c.toNat
  | '-' :: digits => (Arithmetic.number? digits).map (- ·)
  | '+' :: digits => Arithmetic.number? digits
  | digits => Arithmetic.number? digits

/-- What a conversion writes for an argument, and whether the argument fits it. -/
def Conversion.write (c : Conversion) (argument : List Char) : List Char × Bool :=
  let n := (integer? argument).getD 0
  let fits := (integer? argument).isSome
  let based := fun (base : Nat) =>
    Nat.toDigits base (if n < 0 then (n + UInt64.size).toNat else n.toNat)
  match c.letter with
  | 's' => (c.field (argument.take (c.precision.getD argument.length)), true)
  | 'b' => (c.field (unescape (argument.length + 1) argument).1, true)
  | 'c' => (c.field (argument.take 1), true)
  | 'u' => (c.number [] (based 10), fits)
  | 'o' => (c.number [] (based 8), fits)
  | 'x' => (c.number [] (based 16), fits)
  | 'X' => (c.number [] ((based 16).map Char.toUpper), fits)
  | _ =>
    let sign := if n < 0 then ['-'] else if c.plus then ['+'] else []
    (c.number sign (Nat.toDigits 10 n.natAbs), fits)

/-- One pass through a format: the text, the arguments that are left, and whether all fitted. -/
def printOnce : Nat → List Char → List (List Char) → List Char × List (List Char) × Bool
  | 0, _, arguments => ([], arguments, true)
  | _, [], arguments => ([], arguments, true)
  | fuel + 1, '%' :: '%' :: rest, arguments =>
    let (text, left, fits) := printOnce fuel rest arguments
    ('%' :: text, left, fits)
  | fuel + 1, '%' :: rest, arguments =>
    match readConversion? rest with
    | none => (['%'], arguments, true)
    | some (c, rest) =>
      let (start, ok) := c.write (arguments.head?.getD [])
      let (text, left, fits) := printOnce fuel rest arguments.tail
      (start ++ text, left, ok && fits)
  | fuel + 1, '\\' :: rest, arguments =>
    let (start, rest) := escaped rest
    let (text, left, fits) := printOnce fuel rest arguments
    (start ++ text, left, fits)
  | fuel + 1, c :: rest, arguments =>
    let (text, left, fits) := printOnce fuel rest arguments
    (c :: text, left, fits)

/-- A format is used again as long as it takes arguments and some are left. -/
def printAll (format : List Char) : Nat → List (List Char) → List Char × Bool
  | 0, _ => ([], true)
  | fuel + 1, arguments =>
    let (text, left, ok) := printOnce (format.length + 1) format arguments
    if left.isEmpty || left.length = arguments.length then (text, ok)
    else
      let (more, fits) := printAll format fuel left
      (text ++ more, ok && fits)

/-- Writes its arguments by the format, again and again as long as there are arguments left. -/
def printf : Utility := fun r =>
  match r.arguments with
  | [] => { fault := "printf: usage: printf format [arg ...]", status := 2, rest := r.input }
  | format :: arguments =>
    let (text, fits) := printAll format (arguments.length + 1) arguments
    { output := text, status := if fits then 0 else 1, rest := r.input }

/-! ## Copying and choosing -/

/-- What a utility says of a file that is not there. -/
def missing (utility path : List Char) : List Char :=
  utility ++ ": ".toList ++ path ++ ": No such file or directory\n".toList

/-- The contents of files one after another; a dash stands for the input. -/
def gather (utility : List Char) (r : Request) : List (List Char) → Reply
  | [] => { rest := r.input }
  | path :: paths =>
    let content? := if path == ['-'] then some r.input else r.content? path
    let after := gather utility { r with input := if path == ['-'] then [] else r.input } paths
    match content? with
    | some content => { after with output := content ++ after.output }
    | none => { after with errors := missing utility path ++ after.errors, status := 1 }

/-- What a filter gets: its files, or its input if it names none. -/
def source (utility : String) (r : Request) (paths : List (List Char)) : Reply :=
  if paths.isEmpty then { output := r.input } else gather utility.toList r paths

/-- Writes the files, or its input. -/
def cat : Utility := fun r => source "cat" r (r.arguments.filter (· != ['-', 'u']))

/-- The classes of characters that sets may name. -/
def classes : List (String × (Char → Bool)) := [
  ("[:upper:]", Char.isUpper), ("[:lower:]", Char.isLower), ("[:digit:]", Char.isDigit),
  ("[:alpha:]", Char.isAlpha), ("[:alnum:]", Char.isAlphanum),
  ("[:space:]", fun c => c == ' ' || ('\t' ≤ c && c ≤ '\r'))]

/-- The characters of a set, ranges and classes written out. -/
def members : Nat → List Char → List Char
  | 0, _ => []
  | _, [] => []
  | fuel + 1, c :: rest =>
    match classes.find? fun (name, _) => name.toList.isPrefixOf (c :: rest) with
    | some (name, holds) =>
      ((List.range 256).map Char.ofNat).filter holds ++
        members fuel ((c :: rest).drop name.length)
    | none =>
      let (low, rest) :=
        match c, rest with
        | '\\', rest =>
          let (text, rest) := escaped rest
          (text.headD '\\', rest)
        | c, rest => (c, rest)
      match rest with
      | '-' :: high :: rest =>
        ((List.range (high.toNat + 1)).drop low.toNat).map Char.ofNat ++ members fuel rest
      | rest => low :: members fuel rest

/-- A character becomes the one at its place in the second set, or the last one of that. -/
def replaced (wanted new : List Char) (c : Char) : Char :=
  if wanted.contains c then (new[wanted.idxOf c]?).getD (new.getLast?.getD c) else c

/-- Of equal neighbours in a set only the first stays. -/
def squeezed (set : List Char) : List Char → List Char
  | [] => []
  | [c] => [c]
  | c :: d :: rest =>
    if c == d && set.contains c then squeezed set (d :: rest) else c :: squeezed set (d :: rest)

/-- Replaces, deletes or squeezes characters. -/
def tr : Utility := fun r =>
  let set := fun (s : List Char) => members (s.length + 1) s
  match r.arguments with
  | [['-', 'd'], s] => { output := r.input.filter fun c => !(set s).contains c }
  | [['-', 's'], s] => { output := squeezed (set s) r.input }
  | [s, t] => { output := r.input.map (replaced (set s) (set t)) }
  | _ => { errors := "tr: missing operand\n".toList, status := 1, rest := r.input }

/-- The lines of a text, each with its line break. -/
def lines (cs : List Char) : List (List Char) :=
  cs.foldr (fun c ls =>
    match ls with
    | [] => [[c]]
    | l :: ls => if c == '\n' then [c] :: l :: ls else (c :: l) :: ls) []

/-- How many lines or characters are asked for. -/
def amount : List (List Char) → Bool × Nat × List (List Char)
  | ['-', 'n'] :: n :: paths => (true, (Text.ofDigits? n).getD 0, paths)
  | ['-', 'c'] :: n :: paths => (false, (Text.ofDigits? n).getD 0, paths)
  | ('-' :: 'n' :: n) :: paths => (true, (Text.ofDigits? n).getD 0, paths)
  | ('-' :: 'c' :: n) :: paths => (false, (Text.ofDigits? n).getD 0, paths)
  | ('-' :: n) :: paths => (true, (Text.ofDigits? n).getD 0, paths)
  | paths => (true, 10, paths)

/-- Writes the first lines or the first characters. -/
def head : Utility := fun r =>
  let (whole, n, paths) := amount r.arguments
  let s := source "head" r paths
  { s with output := if whole then ((lines s.output).take n).flatten else s.output.take n }

/-- The number of words. -/
def words (cs : List Char) : Nat :=
  (cs.foldl (fun (n, inside) c =>
    if c == ' ' || ('\t' ≤ c && c ≤ '\r') then (n, false)
    else (if inside then n else n + 1, true)) ((0 : Nat), false)).1

/-- Counts lines, characters or words of its input. -/
def wc : Utility := fun r =>
  let text := r.input
  let number := fun (n : Nat) => Nat.toDigits 10 n
  match r.arguments with
  | [['-', 'l']] => { output := number (text.count '\n') ++ ['\n'] }
  | [['-', 'c']] => { output := number text.length ++ ['\n'] }
  | [['-', 'w']] => { output := number (words text) ++ ['\n'] }
  | _ => { errors := "wc: missing operand\n".toList, status := 1 }

/-- Writes the numbers of a range, one a line. -/
def seq : Utility := fun r =>
  let count := fun (low step high : Int) =>
    let n := if step = 0 then 0 else ((high - low).fdiv step + 1).toNat
    (List.range n).flatMap fun (i : Nat) => (toString (low + step * (i : Int))).toList ++ ['\n']
  match r.arguments.mapM integer? with
  | some [high] => { output := count 1 1 high, rest := r.input }
  | some [low, high] => { output := count low 1 high, rest := r.input }
  | some [low, step, high] => { output := count low step high, rest := r.input }
  | _ => { errors := "seq: missing operand\n".toList, status := 1, rest := r.input }

/-! ## Tests -/

/-- Whether a condition holds; none if it cannot be read. -/
def holds? (exists? : List Char → Bool) : List (List Char) → Option Bool
  | [] => some false
  | [a] => some (!a.isEmpty)
  | ['!'] :: rest => (holds? exists? rest).map (!·)
  | [['-', 'n'], a] => some (!a.isEmpty)
  | [['-', 'z'], a] => some a.isEmpty
  | [['-', _], path] => some (exists? path)
  | [a, ['='], b] => some (a == b)
  | [a, ['!', '='], b] => some (a != b)
  | [a, ['-', x, y], b] => do
    let n ← integer? a
    let m ← integer? b
    match x, y with
    | 'e', 'q' => some (n == m)
    | 'n', 'e' => some (n != m)
    | 'l', 't' => some (n < m)
    | 'l', 'e' => some (n ≤ m)
    | 'g', 't' => some (m < n)
    | 'g', 'e' => some (m ≤ n)
    | _, _ => none
  | _ => none

/-- Answers whether the condition holds. -/
def condition (r : Request) (arguments : List (List Char)) : Reply :=
  match holds? (fun path => (r.content? path).isSome) arguments with
  | some b => { status := if b then 0 else 1, rest := r.input }
  | none => { fault := "[: unexpected operator", status := 2, rest := r.input }

/-- A condition as the arguments of a command. -/
def test : Utility := fun r => condition r r.arguments

/-- A condition in brackets. -/
def bracket : Utility := fun r =>
  match r.arguments.reverse with
  | [']'] :: reversed => condition r reversed.reverse
  | _ => { fault := "[: missing ]", status := 2, rest := r.input }

/-- The utility with the name. -/
def find? (name : List Char) : Option Utility :=
  [("true", fun r => { rest := r.input }), (":", fun r => { rest := r.input }),
    ("false", fun r => { status := 1, rest := r.input }), ("echo", echo), ("printf", printf),
    ("cat", cat), ("tr", tr), ("head", head), ("wc", wc), ("seq", seq),
    ("test", test), ("[", bracket)].lookup (String.ofList name)

end Utility

end LivePatching.Host.Shell
