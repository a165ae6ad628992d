import LivePatching.Host.Environment
import LivePatching.Junit.Suite
import LivePatching.Text.Digits

/-!
# The command line

Options stand as `--name value` or `--name=value`, each at most once. Some have a variable of the
environment that counts when the option is not given, even if its value is empty.

* `Setting.all`: the options with their defaults and variables.
* `Request.read`: what a command line asks for.
* `helpText`: the options explained.
-/

namespace LivePatching.Junit.CommandLine

open Host (Environment)

/-- An option: its name, what it is for, and where its value comes from if it is not given. -/
inductive Setting where
  | client
  | server
  | minion
  | clientIp
  | clientFamily
  | group
  | role
  | command
  | case
  | timeout
  | user
deriving DecidableEq, Repr

namespace Setting

/-- The settings in the order the help lists them. -/
def all : List Setting :=
  [client, server, minion, clientIp, clientFamily, group, role, command, case, timeout, user]

/-- The long name of a setting. -/
def name : Setting → String
  | client => "client"
  | server => "server"
  | minion => "minion"
  | clientIp => "client-ip"
  | clientFamily => "client-family"
  | group => "group"
  | role => "role"
  | command => "command"
  | case => "case"
  | timeout => "timeout"
  | user => "user"

/-- The setting with this name. -/
def ofName? (s : String) : Option Setting := all.find? (·.name = s)

/-- What the help says about a setting. -/
def purpose : Setting → String
  | client => "Client target spec (ssh:<host> or local:)"
  | server => "Server target spec"
  | minion => "Minion target spec"
  | clientIp => "Internal IP address of the client"
  | clientFamily => "Distribution family of the client (e.g. sles-12-sp2)"
  | group => "Suite name"
  | role => "Machine the command runs on"
  | command => "Command to run"
  | case => "Testcase name"
  | timeout => "Command timeout in seconds"
  | user => "Account the command runs as"

/-- The variable that stands in for a setting. -/
def envName? : Setting → Option String
  | client => some "TARGET_CLIENT"
  | server => some "TARGET_SERVER"
  | minion => some "TARGET_MINION"
  | clientIp => some "INTERNAL_IP_CLIENT"
  | clientFamily => some "FAMILY_CLIENT"
  | _ => none

/-- The value of a setting that is not given. -/
def default? : Setting → Option String
  | group => some ({} : Suite).group
  | role => some ({} : Suite).role.name
  | command => some ({} : Suite).command
  | case => some ({} : Suite).case
  | timeout => some "1000"
  | user => some ({} : Suite).user
  | _ => none

/-- Seconds are a number below `2 ^ 64`. -/
def seconds? (s : String) : Option Nat :=
  match Text.ofSignedDigits? s.toList with
  | some n => if n < UInt64.size then some n else none
  | none => none

/-- Whether a setting takes this value. -/
def accepts (o : Setting) (value : String) : Bool :=
  match o with
  | role => (Role.ofName? value).isSome
  | timeout => (seconds? value).isSome
  | _ => true

end Setting

/-- The values that were given. -/
abbrev Given := List (Setting × String)

/-- Why there is no request: help was asked for, or the command line is wrong. -/
inductive Refusal where
  | help
  | usage
deriving DecidableEq, Repr

/-- Whether an argument cannot be the value of the option before it. -/
def isOption (argument : String) : Bool := argument.startsWith "-" && argument != "-"

/-- The name before an equals sign, and the value after it. -/
def splitValue (cs : List Char) : List Char × Option String :=
  let name := cs.takeWhile (· != '=')
  match cs.drop name.length with
  | _ :: value => (name, some (String.ofList value))
  | [] => (name, none)

/-- Gives a setting its value, once. -/
def give (given : Given) (o : Setting) (value : String) : Except Refusal Given :=
  if given.any (·.1 == o) || !o.accepts value then .error .usage
  else .ok (given ++ [(o, value)])

/-- Reads arguments from left to right; one that is not text ends the reading. -/
def collect (given : Given) : List (Option String) → Except Refusal Given
  | [] => .ok given
  | none :: _ => .error .usage
  | some argument :: rest =>
    match argument.toList with
    | '-' :: '-' :: [] => if rest.isEmpty then .ok given else .error .usage
    | '-' :: 'h' :: _ => .error .help
    | '-' :: '-' :: cs =>
      let (name, value?) := splitValue cs
      if name == "help".toList then .error (if value?.isNone then .help else .usage)
      else
        match Setting.ofName? (String.ofList name), value?, rest with
        | some o, some value, rest => do collect (← give given o value) rest
        | some o, none, some value :: rest =>
          if isOption value then .error .usage else do collect (← give given o value) rest
        | _, _, _ => .error .usage
    | _ => .error .usage

/-- What a run is asked to do. -/
structure Request where
  specs : PerRole String
  clientIp : Option String
  clientFamily : Option String
  suite : Suite

/-- The value of a setting: given, or from the environment. -/
def value? (env : Environment) (given : Given) (o : Setting) : Except Refusal (Option String) :=
  match given.lookup o, o.envName? >>= env.get? with
  | some value, _ => .ok (some value)
  | none, some bytes =>
    match Bytes.toString? bytes with
    | some value => .ok (some value)
    | none => .error .usage
  | none, none => .ok none

/-- The request of a command line, its variables and its defaults. -/
def Request.read (arguments : List Bytes) (env : Environment) : Except Refusal Request := do
  let given ← collect [] (arguments.map Bytes.toString?)
  let client ← value? env given .client
  let server ← value? env given .server
  let minion ← value? env given .minion
  let d : Suite := {}
  let chosen := fun (o : Setting) => given.lookup o
  return {
    specs := fun
      | .client => client
      | .server => server
      | .minion => minion
    clientIp := ← value? env given .clientIp
    clientFamily := ← value? env given .clientFamily
    suite := {
      group := (chosen .group).getD d.group
      role := (chosen .role >>= Role.ofName?).getD d.role
      command := (chosen .command).getD d.command
      case := (chosen .case).getD d.case
      timeout := ((chosen .timeout >>= Setting.seconds?).map .ofSecs).getD d.timeout
      user := (chosen .user).getD d.user } }

/-! ## Help -/

/-- A default with a blank in it stands in quotes. -/
def shownDefault (s : String) : String :=
  if s.toList.any Text.isBlank then Text.quoted s else s

/-- The bracketed notes behind a setting's purpose. -/
def notes (env : Environment) (o : Setting) : List String :=
  let fromVariable := o.envName?.map fun v =>
    "[env: " ++ v ++ "=" ++ (env.text? v).getD "" ++ "]"
  let fromDefault := o.default?.map fun d => "[default: " ++ shownDefault d ++ "]"
  let choices :=
    if o = .role then
      ["[possible values: " ++ ", ".intercalate (Role.all.map Role.name) ++ "]"] else []
  fromVariable.toList ++ fromDefault.toList ++ choices

/-- The help's lines about one setting. -/
def settingHelp (env : Environment) (o : Setting) : String :=
  let placeholder := String.ofList <| o.name.toList.map fun c =>
    if c = '-' then '_' else c.toUpper
  "      --" ++ o.name ++ " <" ++ placeholder ++ ">\n          " ++
    " ".intercalate (o.purpose :: notes env o) ++ "\n"

/-- What `--help` prints. -/
def helpText (env : Environment) : String :=
  "Run a test suite on the test bed machines and print JUnit markers\n\n" ++
    "Usage: junit-runner [OPTIONS]\n\nOptions:\n" ++
    String.join (Setting.all.map (settingHelp env)) ++
    "  -h, --help\n          Print help\n"

/-- What a wrong command line prints. -/
def usageText : String :=
  "error: unexpected command line\n\nUsage: junit-runner [OPTIONS]\n\n" ++
    "For more information, try '--help'.\n"

end LivePatching.Junit.CommandLine
