import LivePatching.Decimal.Binary64
import LivePatching.Dict

/-!
# Metrics

Counters, counters by the value of a label, and a histogram, with a text that a collector reads.

* `Family.text`: a family of metrics, two comment lines before its samples; a family without
  samples has no text.
* `Metrics.text`: the families in the order of their names.
-/

namespace LivePatching.Telemetry

/-- Samples of a histogram: the values seen, in order. A bucket counts those up to its bound. -/
structure Histogram where
  bounds : List Binary64
  seen : List Binary64 := []
deriving DecidableEq, Repr, Inhabited

namespace Histogram

/-- One more observation. -/
def observe (h : Histogram) (x : Binary64) : Histogram := { h with seen := h.seen ++ [x] }

/-- The number of observations up to a bound. -/
def upTo (h : Histogram) (bound : Binary64) : Nat :=
  h.seen.countP fun x => x.toFloat ≤ bound.toFloat

/-- The values are added in the order in which they were seen. -/
def sum (h : Histogram) : Binary64 :=
  .ofFloat (h.seen.foldl (fun total x => total + x.toFloat) 0)

/-- Bounds that start at a value, each twice the one before. -/
def doubling (first : Float) : Nat → List Binary64
  | 0 => []
  | n + 1 => .ofFloat first :: doubling (first * 2) n

end Histogram

/-- What a family counts or measures. -/
inductive Metric where
  | counter (count : Nat)
  | counters (label : String) (counts : Dict Nat)
  | histogram (h : Histogram)
deriving Repr

/-- A metric with its name and its help text. -/
structure Family where
  name : String
  help : String
  metric : Metric
deriving Repr

namespace Family

/-- A number as the samples show it. -/
def number (x : Binary64) : String := String.ofList x.shortest.plain

/-- A character of a label's value. -/
def escape (c : Char) : List Char :=
  if c = '\\' then ['\\', '\\']
  else if c = '"' then ['\\', '"']
  else if c = '\n' then ['\\', 'n']
  else [c]

/-- A label with its value, in braces. -/
def label (name value : String) : String :=
  "\x7b" ++ name ++ "=\"" ++ String.ofList (value.toList.flatMap escape) ++ "\"\x7d"

/-- The type a metric is announced with. -/
def kind : Metric → String
  | .counter _ => "counter"
  | .counters _ _ => "counter"
  | .histogram _ => "histogram"

/-- One line for each sample: its name and label, and its value. -/
def samples (name : String) : Metric → List (String × String)
  | .counter n => [(name, toString n)]
  | .counters l counts => counts.map fun (value, n) => (name ++ label l value, toString n)
  | .histogram h =>
    h.bounds.map (fun b => (name ++ "_bucket" ++ label "le" (number b), toString (h.upTo b))) ++
      [(name ++ "_bucket" ++ label "le" "+Inf", toString h.seen.length),
        (name ++ "_sum", number h.sum), (name ++ "_count", toString h.seen.length)]

/-- A family's lines, or nothing when there is no sample. -/
def text (f : Family) : String :=
  match samples f.name f.metric with
  | [] => ""
  | lines =>
    "# HELP " ++ f.name ++ " " ++ f.help ++ "\n# TYPE " ++ f.name ++ " " ++ kind f.metric ++ "\n" ++
      String.join (lines.map fun (sample, value) => sample ++ " " ++ value ++ "\n")

end Family

/-- The counts and times of the whole process; nothing is shown before they are registered. -/
structure Metrics where
  registered : Bool := false
  kernelLoads : Nat := 0
  staleResults : Nat := 0
  /-- By provider. -/
  failures : Dict Nat := []
  loadSeconds : Histogram := ⟨Histogram.doubling 0.001 12, []⟩
  /-- By outcome. -/
  testcases : Dict Nat := []
deriving Repr, Inhabited

namespace Metrics

/-- Counts a label's value once more. -/
def increment (counts : Dict Nat) (value : String) : Dict Nat :=
  counts.insert value ((counts.get? value).getD 0 + 1)

/-- Registering twice is as good as once. -/
def register (m : Metrics) : Metrics := { m with registered := true }

/-- A kernel load was issued. -/
def loadIssued (m : Metrics) : Metrics := { m with kernelLoads := m.kernelLoads + 1 }

/-- A result was discarded as stale. -/
def resultDiscarded (m : Metrics) : Metrics := { m with staleResults := m.staleResults + 1 }

/-- A provider failed. -/
def providerFailed (m : Metrics) (provider : String) : Metrics :=
  { m with failures := increment m.failures provider }

/-- A testcase ended. -/
def testcaseEnded (m : Metrics) (outcome : String) : Metrics :=
  { m with testcases := increment m.testcases outcome }

/-- A kernel load took so many seconds. -/
def loadTook (m : Metrics) (seconds : Binary64) : Metrics :=
  { m with loadSeconds := m.loadSeconds.observe seconds }

/-- The families in the order they are shown. -/
def families (m : Metrics) : List Family := [
  ⟨"cm_filter_kernel_load_duration_seconds", "Time spent waiting for the kernel provider",
    .histogram m.loadSeconds⟩,
  ⟨"cm_filter_kernel_loads_total", "Total number of kernel loads issued", .counter m.kernelLoads⟩,
  ⟨"cm_filter_provider_failures_total", "Provider failures by provider",
    .counters "provider" m.failures⟩,
  ⟨"cm_filter_stale_results_total", "Provider results discarded as stale",
    .counter m.staleResults⟩,
  ⟨"cm_runner_testcases_total", "Testcases executed by outcome",
    .counters "outcome" m.testcases⟩]

/-- The metrics as text. -/
def text (m : Metrics) : String :=
  if m.registered then String.join (m.families.map Family.text) else ""

end Metrics

/-- A number of milliseconds, in seconds. -/
def secondsOfMillis (ms : Nat) : Binary64 := .ofFloat (Float.ofNat ms / 1000)

end LivePatching.Telemetry
