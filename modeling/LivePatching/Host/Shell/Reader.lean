import LivePatching.Host.Shell.Command
import LivePatching.Text.Digits

/-!
# Except SyntaxError (shell × List Char) commands

A descent through the grammar of the shell; the length of the text bounds its depth.

* `readWord`: a word up to a blank or an operator outside of quotes.
* `readCommand`: one command with its redirections.
* `Script.read`: a whole script, line by line.
-/

namespace LivePatching.Host.Shell

/-! ## Blanks and names -/

/-- What separates words within a line. -/
def isSpace (c : Char) : Bool := c == ' ' || c == '\t'

/-- What a name can start with. -/
def isNameStart (c : Char) : Bool := c.isAlpha || c == '_'

/-- What a name can go on with. -/
def isNameChar (c : Char) : Bool := c.isAlphanum || c == '_'

/-- What ends a word unless it is quoted. -/
def endsWord (c : Char) : Bool :=
  isSpace c || c == '\n' || c == ';' || c == '&' || c == '|' || c == '<' || c == '>' || c == '(' ||
    c == ')'

/-- Skips spaces, continued lines and a comment. -/
def skipSpaces : List Char → List Char
  | '\\' :: '\n' :: rest => skipSpaces rest
  | '#' :: rest => rest.dropWhile (· != '\n')
  | c :: rest => if isSpace c then skipSpaces rest else c :: rest
  | [] => []

/-- Skips lines without a command, and the blanks before the next one. -/
def skipLines : Nat → List Char → List Char
  | 0, cs => cs
  | fuel + 1, cs =>
    match skipSpaces cs with
    | '\n' :: rest => skipLines fuel rest
    | rest => rest

/-! ## Words -/

/-- What stands up to a closing double quote, that included, and what follows it. -/
def spanQuoted : List Char → List Char × List Char
  | [] => ([], [])
  | '"' :: rest => (['"'], rest)
  | '\\' :: c :: rest =>
    let (inside, rest) := spanQuoted rest
    ('\\' :: c :: inside, rest)
  | c :: rest =>
    let (inside, rest) := spanQuoted rest
    (c :: inside, rest)

/-- What stands before a closing bracket, brackets inside and quotes skipped. -/
def readNested : Nat → Nat → List Char → Except SyntaxError (List Char × List Char)
  | 0, _, _ => .error .endOfFile
  | _, _, [] => .error .endOfFile
  | fuel + 1, depth, c :: rest =>
    let keep := fun (taken rest : List Char) (depth : Nat) => do
      let (inside, rest) ← readNested fuel depth rest
      return (taken ++ inside, rest)
    match c, rest with
    | ')', rest => if depth = 0 then .ok ([], rest) else keep [')'] rest (depth - 1)
    | '(', rest => keep ['('] rest (depth + 1)
    | '\\', d :: rest => keep ['\\', d] rest depth
    | '\'', rest =>
      let text := rest.takeWhile (· != '\'')
      keep ('\'' :: text ++ ['\'']) (rest.drop (text.length + 1)) depth
    | '"', rest =>
      let (text, rest) := spanQuoted rest
      keep ('"' :: text) rest depth
    | c, rest => keep [c] rest depth

/-- The source of a calculation, for what stands between two pairs of brackets. -/
def readArithmetic (source : List Char) : Option (List Char) :=
  match source with
  | '(' :: inside =>
    match inside.reverse with
    | ')' :: reversed => some reversed.reverse
    | _ => none
  | _ => none

/-- Parameters whose name is one character that no name could start with. -/
def isSpecial (c : Char) : Bool := c == '?' || c == '$' || c == '#' || c.isDigit

/-- What a dollar sign stands for, given what follows it. -/
def readDollar (quoted : Bool) (cs : List Char) : Except SyntaxError (Part × List Char) :=
  match cs with
  | '(' :: rest => do
    let (inside, rest) ← readNested rest.length 0 rest
    match readArithmetic inside with
    | some source => return (.arithmetic quoted source, rest)
    | none => return (.output quoted inside, rest)
  | '\x7b' :: rest =>
    let name := rest.takeWhile (· != '\x7d')
    match rest.drop name.length with
    | _ :: rest => .ok (.parameter quoted (String.ofList name), rest)
    | [] => .error .endOfFile
  | c :: rest =>
    if isNameStart c then
      let name := (c :: rest).takeWhile isNameChar
      .ok (.parameter quoted (String.ofList name), (c :: rest).drop name.length)
    else if isSpecial c then .ok (.parameter quoted (String.ofList [c]), rest)
    else .ok (.text quoted ['$'], c :: rest)
  | [] => .ok (.text quoted ['$'], [])

/-- A script between backquotes, in which a backslash only hides a few characters. -/
def readBackquoted : List Char → Except SyntaxError (List Char × List Char)
  | [] => .error .endOfFile
  | '`' :: rest => .ok ([], rest)
  | '\\' :: c :: rest => do
    let (inside, rest) ← readBackquoted rest
    return ((if c = '`' ∨ c = '$' ∨ c = '\\' then [c] else ['\\', c]) ++ inside, rest)
  | c :: rest => do
    let (inside, rest) ← readBackquoted rest
    return (c :: inside, rest)

/-- What a backslash hides between double quotes; it stands for itself before anything else. -/
def hiddenInQuotes (c : Char) : Bool := c == '$' || c == '`' || c == '"' || c == '\\'

/-- The parts up to the closing double quote. -/
def readQuoted : Nat → List Char → Except SyntaxError (Word × List Char)
  | 0, _ => .error .unterminated
  | _, [] => .error .unterminated
  | _, '"' :: rest => .ok ([], rest)
  | fuel + 1, '\\' :: '\n' :: rest => readQuoted fuel rest
  | fuel + 1, '\\' :: c :: rest => do
    let (word, rest) ← readQuoted fuel rest
    return (.text true (if hiddenInQuotes c then [c] else ['\\', c]) :: word, rest)
  | fuel + 1, '$' :: rest => do
    let (part, rest) ← readDollar true rest
    let (word, rest) ← readQuoted fuel rest
    return (part :: word, rest)
  | fuel + 1, '`' :: rest => do
    let (inside, rest) ← readBackquoted rest
    let (word, rest) ← readQuoted fuel rest
    return (.output true inside :: word, rest)
  | fuel + 1, c :: rest => do
    let (word, rest) ← readQuoted fuel rest
    return (.text true [c] :: word, rest)

/-- Reads a word part by part; it is empty where no word starts. -/
def readWord : Nat → List Char → Except SyntaxError (Word × List Char)
  | 0, cs => .ok ([], cs)
  | _, [] => .ok ([], [])
  | fuel + 1, c :: rest =>
    let onwards := fun (parts : Word) (rest : List Char) => do
      let (word, rest) ← readWord fuel rest
      return (parts ++ word, rest)
    match c, rest with
    | '\'', rest =>
      let text := rest.takeWhile (· != '\'')
      match rest.drop text.length with
      | _ :: rest => onwards [.text true text] rest
      | [] => .error .unterminated
    | '"', rest => do
      let (parts, rest) ← readQuoted (rest.length + 1) rest
      onwards (.text true [] :: parts) rest
    | '\\', '\n' :: rest => onwards [] rest
    | '\\', d :: rest => onwards [.text true [d]] rest
    | '$', rest => do
      let (part, rest) ← readDollar false rest
      onwards [part] rest
    | '`', rest => do
      let (inside, rest) ← readBackquoted rest
      onwards [.output false inside] rest
    | c, rest =>
      if endsWord c then .ok ([], c :: rest)
      else
        let text := (c :: rest).takeWhile fun d =>
          !endsWord d && d != '\'' && d != '"' && d != '\\' && d != '$' && d != '`'
        if text.isEmpty then onwards [.text false [c]] rest
        else onwards [.text false text] ((c :: rest).drop text.length)

/-- A word without quotes and without anything to expand. -/
def plain? : Word → Option (List Char)
  | [] => some []
  | .text false cs :: rest => (plain? rest).map (cs ++ ·)
  | _ => none

/-- A name and what is bound to it, for a word such as `x=1`. -/
def binding? : Word → Option (String × Word)
  | .text false cs :: rest =>
    let name := cs.takeWhile isNameChar
    match name, cs.drop name.length with
    | c :: _, '=' :: value =>
      if isNameStart c then some (String.ofList name, .text true value :: rest) else none
    | _, _ => none
  | _ => none

/-! ## Commands -/

/-- Words that stand for themselves where a command could start. -/
def reserved : List String :=
  ["if", "then", "else", "elif", "fi", "while", "until", "for", "do", "done", "\x7b", "\x7d", "!"]

/-- The reserved word that a text starts with. -/
def reserved? (cs : List Char) : Option (String × List Char) := do
  let text := cs.takeWhile fun c => !endsWord c
  let word := String.ofList text
  if reserved.contains word then some (word, cs.drop text.length) else none

/-- Words that end a list of commands. -/
def closes (word : String) : Bool :=
  ["then", "else", "elif", "fi", "do", "done", "\x7d"].contains word

/-- How the next token is called when it is out of place. -/
def tokenName (cs : List Char) : SyntaxError :=
  let named := fun (s : String) => SyntaxError.unexpected ("\"" ++ s ++ "\"")
  match cs with
  | [] => .endOfFile
  | '\n' :: _ => .unexpected "newline"
  | '&' :: '&' :: _ => named "&&"
  | '|' :: '|' :: _ => named "||"
  | ';' :: ';' :: _ => named ";;"
  | c :: rest =>
    if endsWord c then named (String.ofList [c])
    else
      match reserved? (c :: rest) with
      | some (word, _) => named word
      | none => .unexpected "word"

/-- Reads the reserved word, and nothing else will do. -/
def expect (word : String) (cs : List Char) : Except SyntaxError (List Char) :=
  let cs := skipSpaces cs
  match reserved? cs with
  | some (found, rest) => if found = word then .ok rest else .error (tokenName cs)
  | none => .error (tokenName cs)

/-- A redirection, if one stands here: perhaps the number of a descriptor, then an operator. -/
def readRedirection? (cs : List Char) : Option (Except SyntaxError (Redirection × List Char)) :=
  let digits := cs.takeWhile Char.isDigit
  let number := fun otherwise => (Text.ofDigits? digits).getD otherwise
  let make := fun (otherwise : Nat) (direction : Direction) (rest : List Char) =>
    some do
      let rest := skipSpaces rest
      let (target, rest) ← readWord (rest.length + 1) rest
      if target.isEmpty then .error (tokenName rest)
      else return (⟨number otherwise, direction, target⟩, rest)
  match cs.drop digits.length with
  | '>' :: '&' :: rest => make 1 .same rest
  | '>' :: '>' :: rest => make 1 .append rest
  | '>' :: '|' :: rest => make 1 .output rest
  | '>' :: rest => make 1 .output rest
  | '<' :: '&' :: rest => make 0 .same rest
  | '<' :: rest => make 0 .input rest
  | _ => none

/-- Reads redirections as long as there are any. -/
def readRedirections : Nat → List Char → Except SyntaxError (List Redirection × List Char)
  | 0, cs => .ok ([], cs)
  | fuel + 1, cs =>
    match readRedirection? (skipSpaces cs) with
    | none => .ok ([], cs)
    | some reading => do
      let (r, rest) ← reading
      let (rs, rest) ← readRedirections fuel rest
      return (r :: rs, rest)

/-- The rest of a simple command. Bindings stand before the first word. -/
def readSimple : Nat → List Char →
    Except SyntaxError ((List (String × Word) × List Word × List Redirection) × List Char)
  | 0, cs => .ok (([], [], []), cs)
  | fuel + 1, cs =>
    let cs := skipSpaces cs
    match readRedirection? cs with
    | some reading => do
      let (r, rest) ← reading
      let ((bindings, words, rs), rest) ← readSimple fuel rest
      return ((bindings, words, r :: rs), rest)
    | none => do
      let (word, rest) ← readWord (cs.length + 1) cs
      if word.isEmpty then return (([], [], []), cs)
      let ((bindings, words, rs), rest) ← readSimple fuel rest
      match binding? word with
      | some b => return ((b :: bindings, words, rs), rest)
      | none =>
        return (([], word :: bindings.map (fun (name, value) =>
          .text false (name.toList ++ ['=']) :: value) ++ words, rs), rest)

/-- Reads words up to the end of the command. -/
def readWords : Nat → List Char → Except SyntaxError (List Word × List Char)
  | 0, cs => .ok ([], cs)
  | fuel + 1, cs => do
    let cs := skipSpaces cs
    let (word, rest) ← readWord (cs.length + 1) cs
    if word.isEmpty then return ([], cs)
    let (words, rest) ← readWords fuel rest
    return (word :: words, rest)

/-- The line on which a rest of the script starts. -/
def lineOf (lines : Nat) (rest : List Char) : Nat := lines + 1 - rest.count '\n'

/-- Whether a list of commands goes on: not before a closing word or bracket, nor at the end. -/
def listEnds (cs : List Char) : Bool :=
  match cs with
  | [] => true
  | ')' :: _ => true
  | cs => (reserved? cs).any fun (word, _) => closes word

mutual

/-- `lines` is the number of line breaks in the script. -/
def readCommand (lines : Nat) : Nat → List Char → Except SyntaxError (Command × List Char)
  | 0, _ => .error .endOfFile
  | fuel + 1, cs => do
    let cs := skipSpaces cs
    let compound := fun (body : Command) (rest : List Char) => do
      let (rs, rest) ← readRedirections rest.length rest
      return (if rs.isEmpty then body else .redirected (lineOf lines cs) body rs, rest)
    match cs with
    | '(' :: rest =>
      let (body, rest) ← readList lines fuel rest
      match skipSpaces rest with
      | ')' :: rest => compound (.subshell body) rest
      | rest => .error (tokenName rest)
    | cs =>
      match reserved? cs with
      | some ("\x7b", rest) =>
        let (body, rest) ← readList lines fuel rest
        compound body (← expect "\x7d" rest)
      | some ("if", rest) =>
        let (body, rest) ← readBranch lines fuel rest
        compound body rest
      | some ("while", rest) =>
        let (body, rest) ← readLoop lines fuel true rest
        compound body rest
      | some ("until", rest) =>
        let (body, rest) ← readLoop lines fuel false rest
        compound body rest
      | some ("for", rest) =>
        let rest := skipSpaces rest
        let name := rest.takeWhile isNameChar
        let rest := skipSpaces (rest.drop name.length)
        match rest with
        | 'i' :: 'n' :: rest =>
          let (words, rest) ← readWords rest.length rest
          let (body, rest) ← readBody lines fuel rest
          compound (.each (String.ofList name) words body) rest
        | rest => .error (tokenName rest)
      | some _ => .error (tokenName cs)
      | none =>
        let ((bindings, words, rs), rest) ← readSimple cs.length cs
        if bindings.isEmpty && words.isEmpty && rs.isEmpty then .error (tokenName rest)
        else return (.simple (lineOf lines cs) bindings words rs, rest)

/-- A condition, what follows if it succeeds, and perhaps what follows if not. -/
def readBranch (lines : Nat) : Nat → List Char → Except SyntaxError (Command × List Char)
  | 0, _ => .error .endOfFile
  | fuel + 1, cs => do
    let (condition, rest) ← readList lines fuel cs
    let (yes, rest) ← readList lines fuel (← expect "then" rest)
    match reserved? (skipSpaces rest) with
    | some ("elif", rest) =>
      let (no, rest) ← readBranch lines fuel rest
      return (.branch condition yes no, rest)
    | some ("else", rest) =>
      let (no, rest) ← readList lines fuel rest
      return (.branch condition yes no, ← expect "fi" rest)
    | _ => return (.branch condition yes .skip, ← expect "fi" rest)

/-- Reads the condition and the body of a loop that goes on while the condition is as wanted. -/
def readLoop (lines : Nat) : Nat → Bool → List Char → Except SyntaxError (Command × List Char)
  | 0, _, _ => .error .endOfFile
  | fuel + 1, wanted, cs => do
    let (condition, rest) ← readList lines fuel cs
    let (body, rest) ← readList lines fuel (← expect "do" rest)
    return (.loop wanted condition body, ← expect "done" rest)

/-- The body of a loop, after a semicolon or a line break. -/
def readBody (lines : Nat) : Nat → List Char → Except SyntaxError (Command × List Char)
  | 0, _ => .error .endOfFile
  | fuel + 1, cs => do
    let rest :=
      match skipSpaces cs with
      | ';' :: rest => rest
      | rest => rest
    let (body, rest) ← readList lines fuel (← expect "do" (skipLines rest.length rest))
    return (body, ← expect "done" rest)

/-- Reads commands joined by bars, with a negation before them or not. -/
def readPipeline (lines : Nat) : Nat → List Char → Except SyntaxError (Command × List Char)
  | 0, _ => .error .endOfFile
  | fuel + 1, cs => do
    match reserved? (skipSpaces cs) with
    | some ("!", rest) =>
      let (body, rest) ← readPipeline lines fuel rest
      return (.negation body, rest)
    | _ =>
      let (first, rest) ← readCommand lines fuel cs
      match skipSpaces rest with
      | '|' :: '|' :: _ => return (first, rest)
      | '|' :: rest =>
        let (second, rest) ← readPipeline lines fuel (skipLines rest.length rest)
        return (.pipe first second, rest)
      | _ => return (first, rest)

/-- The pipelines that follow one, joined from the left. -/
def readChain (lines : Nat) : Nat → Command → List Char → Except SyntaxError (Command × List Char)
  | 0, first, cs => .ok (first, cs)
  | fuel + 1, first, cs => do
    match skipSpaces cs with
    | '&' :: '&' :: rest =>
      let (second, rest) ← readPipeline lines fuel (skipLines rest.length rest)
      readChain lines fuel (.both first second) rest
    | '|' :: '|' :: rest =>
      let (second, rest) ← readPipeline lines fuel (skipLines rest.length rest)
      readChain lines fuel (.either first second) rest
    | rest => return (first, rest)

/-- The commands of one line; a list in brackets may go on over line breaks. -/
def readLine (lines : Nat) : Nat → List Char → Except SyntaxError (Command × List Char)
  | 0, _ => .error .endOfFile
  | fuel + 1, cs => do
    let (first, rest) ← readPipeline lines fuel cs
    let (chain, rest) ← readChain lines fuel first rest
    let more := fun (head : Command) (rest : List Char) => do
      let rest := skipSpaces rest
      if rest.head? == some '\n' || listEnds rest then return (head, rest)
      let (tail, rest) ← readLine lines fuel rest
      return (.seq head tail, rest)
    match rest with
    | ';' :: rest => more chain rest
    | '&' :: rest => more (.background chain) rest
    | rest => return (chain, rest)

/-- Reads lines of commands up to a word or a sign that ends a list. -/
def readList (lines : Nat) : Nat → List Char → Except SyntaxError (Command × List Char)
  | 0, _ => .error .endOfFile
  | fuel + 1, cs => do
    let (first, rest) ← readLine lines fuel (skipLines cs.length cs)
    let rest := skipLines rest.length rest
    if listEnds rest then return (first, rest)
    match rest with
    | ';' :: _ => .error (tokenName rest)
    | rest =>
      let (second, rest) ← readList lines fuel rest
      return (.seq first second, rest)

end

namespace Script

/-- Reads line by line; the commands before a fault are kept, with the line of the fault. -/
def readFrom (lines : Nat) : Nat → List Char → Script
  | 0, _ => ⟨[], none⟩
  | fuel + 1, cs =>
    match skipLines (cs.length + 1) cs with
    | [] => ⟨[], none⟩
    | cs =>
      match readLine lines (6 * cs.length + 6) cs with
      | .error e => ⟨[], some (lines + 1, e)⟩
      | .ok (c, rest) =>
        match skipSpaces rest with
        | [] => ⟨[c], none⟩
        | '\n' :: rest =>
          let script := readFrom lines fuel rest
          { script with commands := c :: script.commands }
        | rest => ⟨[], some (lineOf lines rest, tokenName rest)⟩

/-- Reads a whole script. -/
def read (source : List Char) : Script := readFrom (source.count '\n') (source.length + 1) source

end Script

end LivePatching.Host.Shell
