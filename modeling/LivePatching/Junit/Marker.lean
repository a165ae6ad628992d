import LivePatching.Instant

/-!
# Markers

A report is assembled from markers in the output of a run. A marker is one line between two
separator lines; its attributes are written as they are, without escapes.

* `Marker.line`: keyword and time, then the attributes that are set, always in the same order.
* `Marker.block`: the line between its separators, in the pieces in which it is written.
-/

namespace LivePatching.Junit

/-- The kinds of marker. -/
inductive Keyword where
  /-- Opens a suite. -/
  | testsuite
  /-- Opens a testcase. -/
  | testcase
  /-- Closes the open testcase as passed. -/
  | success
  /-- Closes the open testcase as failed. -/
  | failure
  /-- Closes the open suite. -/
  | endsuite
deriving DecidableEq, Repr, Inhabited

namespace Keyword

/-- Every keyword. -/
def all : List Keyword := [testsuite, testcase, success, failure, endsuite]

/-- The word as it stands in the marker. -/
def name : Keyword → String
  | testsuite => "testsuite"
  | testcase => "testcase"
  | success => "success"
  | failure => "failure"
  | endsuite => "endsuite"

/-- The keyword with this name. -/
def ofName? (s : String) : Option Keyword := all.find? (·.name = s)

/-- The keyword that closes a testcase. -/
def verdict (passed : Bool) : Keyword := if passed then success else failure

end Keyword

/-- A marker: its keyword, its time and its attributes. -/
structure Marker where
  keyword : Keyword
  time : Instant
  id : Option String := none
  text : Option String := none
  hostname : Option String := none
  kind : Option String := none
deriving DecidableEq, Inhabited

namespace Marker

/-- The lead-in of a marker line. -/
def lead : String := "###junit"

/-- The line that frames a marker. -/
def separator : String := "=================================================="

/-- Sets the attribute of a name; there are four names. -/
def set? (m : Marker) (name value : String) : Option Marker :=
  match name with
  | "id" => some { m with id := value }
  | "text" => some { m with text := value }
  | "hostname" => some { m with hostname := value }
  | "type" => some { m with kind := value }
  | _ => none

/-- An attribute as the marker shows it, its value verbatim. -/
def attributeText (name : String) : Option String → String
  | some value => " " ++ name ++ "=\"" ++ value ++ "\""
  | none => ""

/-- The marker's own line, without framing. -/
def line (m : Marker) : String :=
  lead ++ " " ++ m.keyword.name ++ " time=\"" ++ m.time.text ++ "\"" ++ attributeText "id" m.id ++
    attributeText "text" m.text ++ attributeText "hostname" m.hostname ++
    attributeText "type" m.kind

/-- The pieces written for a marker, framed by separators. -/
def block (m : Marker) : List String := [separator, "\n", m.line, "\n", separator, "\n"]

end Marker

end LivePatching.Junit
