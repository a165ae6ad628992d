import LivePatching.Text.Blank
import LivePatching.Text.Digits
import LivePatching.Telemetry.Record

/-!
# Log filters

A filter is a list of directives with commas between them. A directive gives a level to the
records whose source starts with a given text and that have given fields: `warn`, `net=debug`,
`[{host}]=info`. A directive for named spans, or for the values of fields, touches no record
outside of a span.

* `Threshold.parse?`: a level, by name or by number.
* `Directive.parse`: one directive.
* `Filter.parse`: all of them; without any, errors pass.
* `Filter.passes`: the most specific directive that applies to a record decides.
-/

namespace LivePatching.Telemetry

/-- The most verbose level that passes; none if nothing does. -/
abbrev Threshold := Option Level

namespace Threshold

/-- A threshold as a number, nothing passing at zero. -/
def verbosity (t : Threshold) : Nat := (t.map Level.verbosity).getD 0

/-- The threshold of a number. -/
def ofNumber? (n : Nat) : Option Threshold :=
  if n = 0 then some none else (Level.all.find? (·.verbosity == n)).map some

/-- The threshold of a name, in upper or lower case. -/
def ofName? (s : String) : Option Threshold :=
  let name := String.ofList (s.toList.map Char.toUpper)
  if name = "OFF" then some none else (Level.all.find? (·.name == name)).map some

/-- A number that is too large for a word names no level either. -/
def parse? (s : String) : Option Threshold :=
  match Text.ofSignedDigits? s.toList with
  | some n => ofNumber? n
  | none => if s.isEmpty then some (some .error) else ofName? s

end Threshold

/-- Why a text is no filter. -/
inductive FilterError where
  | level
  | directive
deriving DecidableEq, Repr

/-- The text of an error. -/
def FilterError.message : FilterError → String
  | level => "error parsing level filter: expected one of \"off\", \"error\", \"warn\", " ++
      "\"info\", \"debug\", \"trace\", or a number 0-5"
  | directive => "invalid filter directive"

/-- A threshold for the records that fit a source and fields. -/
structure Directive where
  threshold : Threshold := some .trace
  target : Option String := none
  span : Option String := none
  /-- The fields, each with whether a value is asked for. -/
  fields : List (String × Bool) := []
deriving DecidableEq, Repr, Inhabited

namespace Directive

/-- What of a directive is being read; the numbers say where it began. -/
inductive Place where
  | start
  | word (start : Nat)
  | span (start : Nat)
  | field (start : Nat)
  | fieldsRead
  | targetRead
  | level (start : Nat)
deriving DecidableEq, Repr

/-- The characters of a text from one place up to another. -/
def slice (text : List Char) (start stop : Nat) : String :=
  String.ofList ((text.take stop).drop start)

/-- The characters a source or a level may begin with. -/
def isWordStart (c : Char) : Bool :=
  c == '-' || c == ':' || c == '_' || c.isAlphanum || 128 ≤ c.toNat

/-- A field, and whether a value is asked for. -/
def fieldOf (text : String) : Except FilterError (String × Bool) :=
  if text.isEmpty then .error .directive
  else
    match text.splitOn "=" with
    | name :: _ :: _ => .ok (name, true)
    | _ => .ok (text, false)

/-- The level behind the last `=`; all levels when none stands there. -/
def levelOf (text : String) : Except FilterError Threshold :=
  if text.isEmpty then .ok (some .trace)
  else
    match Threshold.parse? text with
    | some t => .ok t
    | none => .error .level

/-- Reads the character at place `i`. -/
def advance (text : List Char) (d : Directive) (i : Nat) (c : Char) :
    Place → Except FilterError (Directive × Place)
  | .start =>
    if c = '[' then .ok (d, .span (i + 1))
    else if isWordStart c then .ok (d, .word i)
    else .error .directive
  | .word s =>
    if c = '=' then .ok ({ d with target := slice text s i }, .level (i + 1))
    else if c = '[' then .ok ({ d with target := slice text s i }, .span (i + 1))
    else .ok (d, .word s)
  | .span s =>
    if c = ']' then .ok ({ d with span := slice text s i }, .targetRead)
    else if c = '\x7b' then
      let name := slice text s i
      .ok ({ d with span := if name.isEmpty then none else some name }, .field (i + 1))
    else .ok (d, .span s)
  | .field s =>
    if c = '\x7d' then do
      let f ← fieldOf (slice text s i)
      return ({ d with fields := d.fields ++ [f] }, .fieldsRead)
    else .ok (d, .field s)
  | .fieldsRead => if c = ']' then .ok (d, .targetRead) else .error .directive
  | .targetRead => if c = '=' then .ok (d, .level (i + 1)) else .error .directive
  | .level s => .ok (d, .level s)

/-- Reads the characters from place `i` on. -/
def scan (text : List Char) : List Char → Nat → Directive → Place →
    Except FilterError (Directive × Place)
  | [], _, d, p => .ok (d, p)
  | c :: rest, i, d, p => do
    let (d, p) ← advance text d i c p
    scan text rest (i + 1) d p

/-- What the end of the text means. A lone word is a level, or else a target for all levels. -/
def finish (text : List Char) (d : Directive) : Place → Except FilterError Directive
  | .word s =>
    let name := slice text s text.length
    match Threshold.parse? name with
    | some t => .ok { d with threshold := t, target := none }
    | none => .ok { d with threshold := some .trace, target := name }
  | .level s => do return { d with threshold := ← levelOf (slice text s text.length) }
  | .targetRead => .ok d
  | _ => .error .directive

/-- Blanks at the two ends are not read, but places count from the start of the whole text. -/
def parse (text : List Char) : Except FilterError Directive := do
  let (d, p) ← scan text (Text.trim text) 0 {} .start
  finish text d p

/-- Whether it can apply outside of a span. -/
def isStatic (d : Directive) : Bool := d.span.isNone && !d.fields.any (·.2)

/-- Whether a directive depends on more than source and level. -/
def isDynamic (d : Directive) : Bool := d.span.isSome || !d.fields.isEmpty

/-- The fields a directive asks for. -/
def fieldNames (d : Directive) : List String := d.fields.map (·.1)

/-- Whether a record fits a directive. -/
def applies (d : Directive) (r : Record) : Bool :=
  (d.target.all fun t => r.source.startsWith t) && d.fieldNames.all r.fieldNames.contains

/-- The longer target first, then the more fields; the rest only makes the order total. -/
def precedence (d e : Directive) : Ordering :=
  let length := fun d : Directive => (d.target.map fun t => t.utf8ByteSize + 1).getD 0
  compare (length e) (length d) |>.then
    (compare e.fields.length d.fields.length) |>.then
    (compare (e.target.getD "") (d.target.getD "")) |>.then
    (compareOfLessAndEq e.fieldNames d.fieldNames)

end Directive

/-- The static directives, the most specific first. -/
structure Filter where
  directives : List Directive
deriving Repr

namespace Filter

/-- A directive replaces the one that is for the same records. -/
def insert (d : Directive) : List Directive → List Directive
  | [] => [d]
  | e :: rest =>
    match d.precedence e with
    | .lt => d :: e :: rest
    | .eq => d :: rest
    | .gt => e :: insert d rest

/-- Those that are for fields only come after the others. -/
def ofDirectives (ds : List Directive) : Filter :=
  let usable := ds.filter (!·.isDynamic) ++ ds.filter fun d => d.isDynamic && d.isStatic
  if ds.isEmpty then ⟨[{ threshold := some .error }]⟩
  else ⟨usable.foldl (fun sorted d => insert d sorted) []⟩

/-- The filter of a list of directives between commas. -/
def parse (text : String) : Except FilterError Filter := do
  let ds ← ((text.splitOn ",").filter (!·.isEmpty)).mapM fun s => Directive.parse s.toList
  return ofDirectives ds

/-- Whether a record passes: the first directive that fits it decides. -/
def passes (f : Filter) (r : Record) : Bool :=
  match f.directives.find? (·.applies r) with
  | some d => decide (r.level.verbosity ≤ d.threshold.verbosity)
  | none => false

end Filter

end LivePatching.Telemetry
