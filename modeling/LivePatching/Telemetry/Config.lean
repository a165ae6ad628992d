import LivePatching.Host.Environment
import LivePatching.Telemetry.Filter

/-!
# Telemetry settings

* `Config.ofEnvironment`: the settings that the environment asks for.
* `Config.flag`: a switch written as a word; any other word leaves it as it is.
* `Logger.start`: the log of a program, started at most once.
-/

namespace LivePatching.Telemetry

open Host (Environment)

/-- What the variables say about logging. -/
structure Config where
  service : String := "cm-filters"
  /-- The part of the service that runs. -/
  component : String := ""
  level : String := "info"
  console : Bool := true
  json : Bool := false
deriving DecidableEq, Repr, Inhabited

/-- Why logging or the metrics could not be started. -/
inductive TelemetryError where
  | logging (reason : String)
  | metrics (reason : String)
  | config (reason : String)
deriving DecidableEq, Repr

/-- The text of an error. -/
def TelemetryError.message : TelemetryError → String
  | logging reason => "Failed to initialize logging: " ++ reason
  | metrics reason => "Failed to initialize Prometheus metrics: " ++ reason
  | config reason => "Invalid configuration: " ++ reason

namespace Config

/-- A truth value in words; other words leave the value as it is. -/
def flag (word : String) (otherwise : Bool) : Bool :=
  let word := String.ofList ((Text.trim word.toList).map Char.toLower)
  if ["1", "true", "yes", "on"].contains word then true
  else if ["0", "false", "no", "off"].contains word then false
  else otherwise

/-- A program in a container writes its log for machines, unless it is told not to. -/
def ofEnvironment (env : Environment) (component : String) : Config where
  service := (env.text? "CM_SERVICE_NAME").getD "cm-filters"
  component := component
  level := ((env.text? "CM_LOG_LEVEL").or (env.text? "RUST_LOG")).getD "info"
  console := ((env.text? "CM_CONSOLE_OUTPUT").map (flag · true)).getD true
  json :=
    let contained := (env.text? "KUBERNETES_SERVICE_HOST").isSome ||
      (env.text? "DOCKER_CONTAINER").isSome
    ((env.text? "CM_JSON_LOGS").map (flag · false)).getD contained

/-- The name of the service with its component. -/
def fullService (c : Config) : String :=
  if c.component.isEmpty then c.service else c.service ++ "-" ++ c.component

/-- The filter of the environment, if it can be read, else the one of the settings. -/
def filter (c : Config) (env : Environment) : Except TelemetryError Filter :=
  match (env.text? "RUST_LOG").map Filter.parse with
  | some (.ok f) => .ok f
  | _ => (Filter.parse c.level).mapError fun e => .config e.message

end Config

/-- A log that is running. -/
structure Logger where
  filter : Filter
  console : Bool
deriving Repr

namespace Logger

/-- A filter that cannot be read is the first thing to go wrong, a log that already runs the
second. -/
def start (running : Option Logger) (env : Environment) (c : Config) :
    Except TelemetryError Logger := do
  let f ← c.filter env
  if running.isSome then
    throw (.logging "a global default trace dispatcher has already been set")
  return ⟨f, c.console⟩

/-- Whether a record is written. -/
def writes (l : Logger) (r : Record) : Bool := l.console && l.filter.passes r

/-- The first record of a log. -/
def opening (c : Config) : Record where
  source := "cm_telemetry::logging"
  level := .info
  message := "Logging initialized"
  fields := [("service", .ofString c.fullService), ("json_logs", .bool c.json)]

/-- The last record of a log. -/
def closing : Record where
  source := "cm_telemetry"
  level := .debug
  message := "Shutting down telemetry"
  fields := []

end Logger

end LivePatching.Telemetry
