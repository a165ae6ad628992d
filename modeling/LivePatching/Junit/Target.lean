import LivePatching.Text.Blank
import LivePatching.Text.Quoted

/-!
# Targets

A target says where commands run: on a host reached by ssh, or in the local shell. It is written
as a scheme and an address with a colon between them.

* `Target.parse`: reads a target; the address may have blanks around it, the scheme may not.
* `Target.text`: writes it.
* `parseTargets`: the targets of the three roles.
-/

namespace LivePatching.Junit

/-- What a machine is reached by. -/
inductive Target where
  | ssh (host : String)
  | shell
deriving DecidableEq, Repr, Inhabited

/-- Why a spec names no target. -/
inductive TargetError where
  | invalid (spec : String)
  | unsupported (scheme : String)
  | missingAddress (spec : String)
deriving DecidableEq, Repr, Inhabited

/-- The text of a target's error. -/
def TargetError.message : TargetError → String
  | invalid spec => "Invalid target spec " ++ Text.quoted spec ++ ": expected <scheme>:<address>"
  | unsupported scheme => "Unsupported transport " ++ Text.quoted scheme
  | missingAddress spec => "Target spec " ++ Text.quoted spec ++ " has no address"

namespace Target

/-- What stands before the first colon and after it. -/
def splitScheme? : List Char → Option (List Char × List Char)
  | [] => none
  | ':' :: rest => some ([], rest)
  | c :: rest => (splitScheme? rest).map fun (scheme, address) => (c :: scheme, address)

/-- The target of a spec `scheme:address`. -/
def parse (spec : String) : Except TargetError Target :=
  match splitScheme? spec.toList with
  | none => .error (.invalid spec)
  | some (scheme, address) =>
    let host := Text.trim address
    if scheme = "ssh".toList then
      if host.isEmpty then .error (.missingAddress spec) else .ok (.ssh (String.ofList host))
    else if scheme = "local".toList then .ok .shell
    else if scheme = "virtio".toList ∨ scheme = "serial".toList then
      .error (.unsupported (String.ofList scheme))
    else .error (.invalid spec)

/-- The spec of a target. -/
def text : Target → String
  | ssh host => "ssh:" ++ host
  | shell => "local:"

/-- The name of the machine. -/
def host : Target → String
  | ssh host => host
  | shell => "localhost"

end Target

/-- The machines of a test bed. -/
inductive Role where
  | client
  | server
  | minion
deriving DecidableEq, Repr, Inhabited

namespace Role

/-- Every role. -/
def all : List Role := [client, server, minion]

/-- The name of a role. -/
def name : Role → String
  | client => "client"
  | server => "server"
  | minion => "minion"

/-- The role with this name. -/
def ofName? (s : String) : Option Role := all.find? (·.name = s)

end Role

/-- What a role has; some roles have none. -/
abbrev PerRole (α : Type) := Role → Option α

/-- The first of the three specs that cannot be read is the one reported. -/
def parseTargets (specs : PerRole String) : Except (Role × TargetError) (PerRole Target) :=
  let read := fun role =>
    match specs role with
    | none => .ok none
    | some spec => (Target.parse spec).map some |>.mapError (role, ·)
  do
    let client ← read .client
    let server ← read .server
    let minion ← read .minion
    return fun
      | .client => client
      | .server => server
      | .minion => minion

end LivePatching.Junit
