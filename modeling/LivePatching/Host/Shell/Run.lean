import LivePatching.Host.Programs
import LivePatching.Host.Shell.Reader
import LivePatching.Host.Shell.Utility

/-!
# Running scripts

A shell runs commands one after another. The processes of a pipeline run to their end in turn; time
passes only while something sleeps.

* `Shell.run`: runs a command, as far as its fuel goes.
* `Shell.runScript`: runs the commands of a script until one of them ends it.
* `Shell.outcome`: what is left of a process that ran a script.
-/

namespace LivePatching.Host.Shell

/-- Where what is written to a descriptor goes. -/
inductive Stream where
  | buffer (n : Nat)
  | nowhere
deriving DecidableEq, Repr, Inhabited

/-- What the shell knows while it runs. -/
structure State where
  bindings : List (String × List Char) := []
  /-- What the last command answered. -/
  status : Nat := 0
  /-- What was written to each buffer, the last chunk first; the first two are the output and the
  errors of the process. -/
  buffers : List (List (List Char)) := [[], []]
  descriptors : List (Nat × Stream) := [(1, .buffer 0), (2, .buffer 1)]
  input : List Char := []
  /-- The files that were written, each with its buffer. -/
  files : List (List Char × Nat) := []
  clock : Duration := ⟨0⟩
  /-- When the last background command ends. -/
  horizon : Duration := ⟨0⟩
deriving Repr, Inhabited

/-- How a command leaves the shell. -/
inductive Flow where
  | next
  | exit
  | killed
  /-- Leaves some loops. -/
  | leave (loops : Nat)
  /-- Goes on with the next turn of a loop. -/
  | turn (loops : Nat)
  /-- Ran out of fuel. -/
  | spent
deriving DecidableEq, Repr, Inhabited

namespace State

/-- Where the descriptor goes; one that is not open goes nowhere. -/
def stream (st : State) (fd : Nat) : Stream := (st.descriptors.lookup fd).getD .nowhere

/-- What the buffer holds. -/
def written (st : State) (n : Nat) : List Char := (st.buffers[n]?.getD []).reverse.flatten

/-- Writes to the descriptor. -/
def write (st : State) (fd : Nat) (text : List Char) : State :=
  match st.stream fd with
  | .nowhere => st
  | .buffer n => { st with buffers := st.buffers.modify n (text :: ·) }

/-- What the shell itself has to say goes to the errors, with the line. -/
def complain (st : State) (line : Nat) (message : String) : State :=
  st.write 2 ("sh: ".toList ++ (toString line).toList ++ ": ".toList ++
    message.toList ++ ['\n'])

/-- Binds the name to the value. -/
def bind (st : State) (name : String) (value : List Char) : State :=
  { st with bindings := (name, value) :: st.bindings.filter (·.1 != name) }

/-- The number by which the shell calls itself. -/
def ownNumber : List Char := ['4', '2']

/-- The value of a parameter; one that is not bound is empty. -/
def value (st : State) (name : String) : List Char :=
  match name with
  | "?" => Nat.toDigits 10 st.status
  | "$" => ownNumber
  | "#" => ['0']
  | "0" => ['s', 'h']
  | name => (st.bindings.lookup name).getD []

/-- The value of a parameter in an expression; what is no number counts as zero. -/
def number (st : State) (name : String) : Int := (Utility.integer? (st.value name)).getD 0

/-- The content of the file, if there is one that the script can read. -/
def content? (st : State) (path : List Char) : Option (List Char) :=
  match String.ofList path with
  | "/dev/null" => some []
  | "/dev/zero" => some (List.replicate (Nat.pow 2 20) '\x00')
  | _ => (st.files.lookup path).map st.written

/-- The state after a command that answers with the status. -/
def answer (st : State) (status : Nat) : State := { st with status }

/-- What stays of a subshell: what was written and read, and the time. -/
def afterSubshell (st inner : State) : State :=
  { inner with bindings := st.bindings, descriptors := st.descriptors }

end State

/-! ## Expansion -/

/-- How a command substitution is run: the state after it, and its output. -/
abbrev Capture := List Char → State → State × List Char

/-- What separates fields. -/
def isBlankOrLine (c : Char) : Bool := isSpace c || c == '\n'

/-- The value of a part; a calculation can fail. -/
def expandPart (capture : Capture) (st : State) : Part → Except String (State × List Char)
  | .text _ cs => .ok (st, cs)
  | .parameter _ name => .ok (st, st.value name)
  | .arithmetic _ source =>
    match Arithmetic.evaluate? st.number (source.filter (· != '$')) with
    | some n => .ok (st, (toString n).toList)
    | none =>
      .error ("arithmetic expression: expecting primary: \"" ++ String.ofList source ++ "\"")
  | .output _ source =>
    let (st, text) := capture source st
    .ok (st, (text.reverse.dropWhile (· == '\n')).reverse)

/-- Whether what the part expands to is split into fields. -/
def isSplit : Part → Bool
  | .text _ _ => false
  | .parameter quoted _ => !quoted
  | .arithmetic quoted _ => !quoted
  | .output quoted _ => !quoted

/-- Whether the part is what a command writes. -/
def isOutput : Part → Bool
  | .output _ _ => true
  | _ => false

/-- Joins the pieces of a value to the fields so far: the first piece goes on with the last field
unless a blank stands before it. -/
def joinSplit (fields : List (List Char)) (current : Option (List Char)) (value : List Char) :
    List (List Char) × Option (List Char) :=
  value.foldl (fun (fields, current) c =>
    if isBlankOrLine c then (fields ++ current.toList, none)
    else (fields, some (current.getD [] ++ [c]))) (fields, current)

/-- The fields of a word: a word in quotes is one field, an empty value without quotes is none. -/
def expandWord (capture : Capture) (st : State) (word : Word) :
    Except String (State × List (List Char)) := do
  let (st, fields, current) ← word.foldlM (fun (st, fields, current) part => do
    let (st, value) ← expandPart capture st part
    if isSplit part then
      let (fields, current) := joinSplit fields current value
      return (st, fields, current)
    else return (st, fields, some (current.getD [] ++ value))) (st, [], none)
  return (st, fields ++ current.toList)

/-- The fields of the words, from left to right; what one word changes the next one sees. -/
def expandWords (capture : Capture) (st : State) (words : List Word) :
    Except String (State × List (List Char)) :=
  words.foldlM (fun (st, fields) word => do
    let (st, more) ← expandWord capture st word
    return (st, fields ++ more)) (st, [])

/-- The value of a word that stays in one piece. -/
def expandValue (capture : Capture) (st : State) (word : Word) :
    Except String (State × List Char) :=
  word.foldlM (fun (st, value) part => do
    let (st, more) ← expandPart capture st part
    return (st, value ++ more)) (st, [])

/-! ## Redirections -/

/-- Points the descriptor to the stream. -/
def pointTo (st : State) (fd : Nat) (stream : Stream) : State :=
  { st with descriptors := (fd, stream) :: st.descriptors.filter (·.1 != fd) }

/-- Points the descriptor to a file, which starts empty unless it is appended to. -/
def openFile (st : State) (fd : Nat) (path : List Char) (append : Bool) : State :=
  if path == "/dev/null".toList then pointTo st fd .nowhere
  else
    match st.files.lookup path, append with
    | some n, true => pointTo st fd (.buffer n)
    | _, _ =>
      let n := st.buffers.length
      pointTo { st with
        buffers := st.buffers ++ [[]]
        files := (path, n) :: st.files.filter (·.1 != path) } fd (.buffer n)

/-- Points a descriptor as the redirection says. -/
def redirect (capture : Capture) (st : State) (r : Redirection) : Except String State := do
  let (st, target) ← expandValue capture st r.target
  match r.direction with
  | .output => return openFile st r.descriptor target false
  | .append => return openFile st r.descriptor target true
  | .input =>
    match st.content? target with
    | some content => return { st with input := content }
    | none => throw ("cannot open " ++ String.ofList target ++ ": No such file")
  | .same =>
    if target == ['-'] then return pointTo st r.descriptor .nowhere
    match Text.ofDigits? target with
    | some fd => return pointTo st r.descriptor (st.stream fd)
    | none => throw "Bad fd number"

/-- Redirects from left to right. -/
def redirectAll (capture : Capture) (st : State) (rs : List Redirection) : Except String State :=
  rs.foldlM (redirect capture) st

/-- The descriptors and the input of a state come back after a command with redirections. -/
def restored (st : State) (rs : List Redirection) (result : State × Flow) : State × Flow :=
  let readElsewhere := rs.any (·.direction == .input)
  ({ result.1 with
      descriptors := st.descriptors
      input := if readElsewhere then st.input else result.1.input }, result.2)

/-- Expands the words of a simple command, then redirects, then binds. -/
def prepare (capture : Capture) (st : State) (bindings : List (String × Word)) (words : List Word)
    (rs : List Redirection) : Except String (State × List (List Char)) := do
  let (st, arguments) ← expandWords capture st words
  let st ← redirectAll capture st rs
  let st ← bindings.foldlM (fun st (name, word) => do
    let (st, value) ← expandValue capture st word
    return st.bind name value) st
  return (st, arguments)

/-! ## What the shell does itself -/

/-- The time that a word such as `0.5` or `2m` stands for. -/
def spanOf? (cs : List Char) : Option Duration := do
  let whole := cs.takeWhile Char.isDigit
  let rest := cs.drop whole.length
  let fraction :=
    match rest with
    | '.' :: rest => rest.takeWhile Char.isDigit
    | _ => []
  let unit := rest.drop (if rest.head? == some '.' then fraction.length + 1 else 0)
  let factor ←
    match unit with
    | [] => some 1
    | ['s'] => some 1
    | ['m'] => some 60
    | ['h'] => some 3600
    | _ => none
  let digits ← Text.ofDigits? (whole ++ (fraction ++ List.replicate 9 '0').take 9)
  return ⟨digits * factor⟩

/-- The time when something of the length ends that starts at a time. -/
def after (a b : Duration) : Duration := ⟨a.nanos + b.nanos⟩

/-- The later one of two times. -/
def later (a b : Duration) : Duration := ⟨max a.nanos b.nanos⟩

/-- A signal that ends a process. -/
def isLethal (signal : List Char) : Bool :=
  let harmless := ["0", "CHLD", "CONT", "URG", "WINCH", "17", "18", "23", "28"]
  !harmless.contains (String.ofList signal)

/-- Which signal goes to whom. -/
def killArguments : List (List Char) → List Char × List (List Char)
  | ['-', 's'] :: signal :: targets => (signal, targets)
  | ('-' :: signal) :: targets => (signal, targets)
  | targets => ("TERM".toList, targets)

/-- Reads a line and gives its words to names, what is left to the last of them. -/
def readLineInto (st : State) (names : List (List Char)) : State :=
  let line := st.input.takeWhile (· != '\n')
  let rest := st.input.drop line.length
  let trimmed := fun cs : List Char => cs.dropWhile isBlankOrLine
  let rec give (st : State) (cs : List Char) : List (List Char) → State
    | [] => st
    | [name] =>
      st.bind (String.ofList name) (trimmed (trimmed cs).reverse).reverse
    | name :: names =>
      let word := (trimmed cs).takeWhile (!isBlankOrLine ·)
      give (st.bind (String.ofList name) word) ((trimmed cs).drop word.length) names
  (give { st with input := rest.drop 1 } line names).answer (if rest.isEmpty then 1 else 0)

/-- The number that ends the shell or a loop; without one, a given one. -/
def countOr (otherwise : Nat) : List (List Char) → Option Nat
  | [] => some otherwise
  | n :: _ => Text.ofDigits? n

/-- The commands that change the shell itself. -/
def builtin? (st : State) (line : Nat) (name : String) (arguments : List (List Char)) :
    Option (State × Flow) :=
  match name with
  | "exit" =>
    match countOr st.status arguments with
    | some n => some (st.answer (n % 256), .exit)
    | none =>
      let st := st.complain line ("exit: Illegal number: " ++
        String.ofList (arguments.head?.getD []))
      some (st.answer 2, .exit)
  | "break" => some (st.answer 0, .leave ((countOr 1 arguments).getD 1))
  | "continue" => some (st.answer 0, .turn ((countOr 1 arguments).getD 1))
  | "kill" =>
    let (signal, targets) := killArguments arguments
    if targets.contains State.ownNumber ∧ isLethal signal then some (st, .killed)
    else some (st.answer 0, .next)
  | "sleep" =>
    match arguments.mapM spanOf? with
    | some spans => some ({ st with clock := spans.foldl after st.clock, status := 0 }, .next)
    | none => some ((st.write 2 "sleep: invalid time interval\n".toList).answer 1, .next)
  | "read" => some (readLineInto st (arguments.filter (·.head? != some '-')), .next)
  | "export" =>
    let bound := arguments.foldl (fun st a =>
      let name := a.takeWhile (· != '=')
      if name.length < a.length then
        st.bind (String.ofList name) (a.drop (name.length + 1))
      else st) st
    some (bound.answer 0, .next)
  | "unset" =>
    let names := arguments.map String.ofList
    some ({ st with bindings := st.bindings.filter fun v => !names.contains v.1 }.answer 0, .next)
  | "wait" => some ({ st with clock := later st.clock st.horizon, status := 0 }, .next)
  | _ => none

/-- Runs a utility on what the descriptors lead to. -/
def call (st : State) (line : Nat) (name : List Char) (arguments : List (List Char)) :
    State × Flow :=
  match builtin? st line (String.ofList name) arguments with
  | some result => result
  | none =>
    match Utility.find? name with
    | some utility =>
      let reply := utility ⟨arguments, st.input, st.content?⟩
      let st := (st.write 1 reply.output).write 2 reply.errors
      let st := reply.fault.elim st (st.complain line)
      ({ st with input := reply.rest, status := reply.status }, .next)
    | none => ((st.complain line (String.ofList name ++ ": not found")).answer 127, .next)

/-! ## Commands -/

/-- A part of the script that cannot be carried out ends it. -/
def failAt (st : State) (line : Nat) (message : String) : State × Flow :=
  ((st.complain line message).answer 2, .exit)

/-- What a subshell does to the shell around it: leaving it is no more than an answer. -/
def leaveSubshell (st : State) (inner : State × Flow) : State × Flow :=
  let flow :=
    match inner.2 with
    | .killed => .killed
    | .spent => .spent
    | _ => .next
  (st.afterSubshell inner.1, flow)

/-- Whether a loop goes on after a turn, and how it is left if not. -/
def afterTurn : Flow → Option Flow
  | .next => none
  | .leave n => some (if n ≤ 1 then .next else .leave (n - 1))
  | .turn n => if n ≤ 1 then none else some (.turn (n - 1))
  | flow => some flow

mutual

/-- Runs one command. Each level of the command takes one unit of fuel, and so does each turn of a
loop. -/
def run : Nat → Command → State → State × Flow
  | 0, _, st => (st, .spent)
  | fuel + 1, command, st =>
    let capture : Capture := fun source st =>
      let n := st.buffers.length
      let inner := pointTo { st with buffers := st.buffers ++ [[]] } 1 (.buffer n)
      let (done, _) := runCommands fuel (Script.read source) inner
      ({ st.afterSubshell done with buffers := done.buffers.take n }, done.written n)
    match command with
    | .skip => (st, .next)
    | .simple line bindings words redirections =>
      match prepare capture st bindings words redirections with
      | .error message =>
        let (st, flow) := failAt st line message
        (st, if redirections.isEmpty then flow else .next)
      | .ok (inner, []) =>
        let kept := (words ++ bindings.map (·.2)).any (·.any isOutput)
        restored st redirections (inner.answer (if kept then inner.status else 0), .next)
      | .ok (inner, name :: arguments) =>
        match String.ofList name, arguments with
        | "exec", [] => (inner.answer 0, .next)
        | "exec", name :: arguments =>
          let (st, flow) := call inner line name arguments
          (st, if flow == .next then .exit else flow)
        | "eval", arguments =>
          let script := Script.read (Utility.joined arguments)
          restored st redirections (runCommands fuel script (inner.answer 0))
        | "sh", ['-', 'c'] :: source :: _ =>
          let started := runCommands fuel (Script.read source) (inner.answer 0)
          restored st redirections (leaveSubshell inner started)
        | _, _ => restored st redirections (call inner line name arguments)
    | .seq first second =>
      match run fuel first st with
      | (st, .next) => run fuel second st
      | left => left
    | .both first second =>
      match run fuel first st with
      | (st, .next) => if st.status = 0 then run fuel second st else (st, .next)
      | left => left
    | .either first second =>
      match run fuel first st with
      | (st, .next) => if st.status = 0 then (st, .next) else run fuel second st
      | left => left
    | .negation body =>
      let (st, flow) := run fuel body st
      (st.answer (if st.status = 0 then 1 else 0), flow)
    | .pipe first second =>
      let n := st.buffers.length
      let start := { st with buffers := st.buffers ++ [[]] }
      let (left, flow) := leaveSubshell st (run fuel first (pointTo start 1 (.buffer n)))
      match flow with
      | .next =>
        let fed := { left with
          buffers := left.buffers.take n
          input := left.written n
          clock := st.clock }
        let (right, flow) := leaveSubshell st (run fuel second fed)
        ({ right with input := left.input, clock := later left.clock right.clock }, flow)
      | flow => (left, flow)
    | .subshell body => leaveSubshell st (run fuel body st)
    | .background body =>
      let (inner, flow) := leaveSubshell st (run fuel body { st with input := [] })
      ({ inner with
          input := st.input
          clock := st.clock
          horizon := later inner.horizon inner.clock
          status := 0 }, flow)
    | .loop wanted condition body =>
      match run fuel condition st with
      | (st, .next) =>
        if (st.status == 0) == wanted then
          match run fuel body st with
          | (st, flow) =>
            match afterTurn flow with
            | none => run fuel (.loop wanted condition body) st
            | some flow => (st, flow)
        else (st.answer 0, .next)
      | left => left
    | .branch condition yes no =>
      match run fuel condition st with
      | (st, .next) =>
        if st.status = 0 then run fuel yes st else run fuel no (st.answer 0)
      | left => left
    | .each name words body =>
      match expandWords capture st words with
      | .error message => failAt st 1 message
      | .ok (st, values) => runEach fuel name body values st
    | .redirected line body redirections =>
      match redirectAll capture st redirections with
      | .error message => ((st.complain line message).answer 2, .next)
      | .ok inner => restored st redirections (run fuel body inner)

/-- One turn for each value. -/
def runEach : Nat → String → Command → List (List Char) → State → State × Flow
  | 0, _, _, _, st => (st, .spent)
  | _, _, _, [], st => (st, .next)
  | fuel + 1, name, body, value :: values, st =>
    let (st, flow) := run fuel body (st.bind name value)
    match afterTurn flow with
    | none => runEach fuel name body values st
    | some flow => (st, flow)

/-- The commands of a script until one of them ends it, then its fault if it has one. -/
def runCommands : Nat → Script → State → State × Flow
  | 0, _, st => (st, .spent)
  | _, ⟨[], none⟩, st => (st, .next)
  | _, ⟨[], some (line, e)⟩, st => failAt st line e.message
  | fuel + 1, ⟨command :: rest, fault⟩, st =>
    match run fuel command st with
    | (st, .next) => runCommands fuel ⟨rest, fault⟩ st
    | (st, .leave _) => runCommands fuel ⟨rest, fault⟩ st
    | (st, .turn _) => runCommands fuel ⟨rest, fault⟩ st
    | left => left

end

/-! ## Scripts as processes -/

/-- More steps than a script that ends will need. -/
def steps : Nat := 200000

/-- Bytes as the characters that the shell goes by, one for each byte. -/
def ofBytes (b : Bytes) : List Char := b.map fun x => Char.ofNat x.toNat

/-- The bytes that the characters stand for. -/
def toBytes (cs : List Char) : Bytes := cs.map fun c => UInt8.ofNat c.toNat

/-- Runs a script without input, after some output. -/
def outcome (before source : Bytes) : Outcome :=
  let start := ({} : State).write 1 (ofBytes before)
  let (st, flow) := runCommands steps (Script.read (ofBytes source)) start
  { code := if flow == .killed then none else some st.status
    written := toBytes (st.written 0 ++ st.written 1)
    elapsed := if flow == .spent then none else some (later st.clock st.horizon) }

end LivePatching.Host.Shell
