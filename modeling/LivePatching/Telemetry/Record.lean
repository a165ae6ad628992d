import LivePatching.Json.Node

/-!
# Log records

A record has a level and a source, the part of the program that wrote it; its message is one of
its fields.
-/

namespace LivePatching.Telemetry

open Json

/-- The levels of a record. -/
inductive Level where
  | error
  | warn
  | info
  | debug
  | trace
deriving DecidableEq, Repr, Inhabited

namespace Level

/-- Every level, the gravest first. -/
def all : List Level := [error, warn, info, debug, trace]

/-- The name of a level. -/
def name : Level → String
  | error => "ERROR"
  | warn => "WARN"
  | info => "INFO"
  | debug => "DEBUG"
  | trace => "TRACE"

/-- How much a level lets through: 1 for errors only, 5 for all. -/
def verbosity : Level → Nat
  | error => 1
  | warn => 2
  | info => 3
  | debug => 4
  | trace => 5

end Level

/-- One record of the log. -/
structure Record where
  source : String
  level : Level
  message : String
  fields : List (String × Node)
deriving Repr

namespace Record

/-- The names of a record's fields, the message among them. -/
def fieldNames (r : Record) : List String := "message" :: r.fields.map (·.1)

/-- A record as a document. -/
def toNode (r : Record) : Node :=
  .record [("level", .ofString r.level.name),
    ("fields", .record (("message", .ofString r.message) :: r.fields))]

end Record

end LivePatching.Telemetry
