import LivePatching.Bus.Channel
import LivePatching.Bus.Filter
import LivePatching.Catalog.Document
import LivePatching.Catalog.Provider
import LivePatching.Decimal.Binary64
import LivePatching.Dict
import LivePatching.Duration
import LivePatching.Entity
import LivePatching.Form.Event
import LivePatching.Form.Field
import LivePatching.Form.Model
import LivePatching.Form.Shared
import LivePatching.Host.Environment
import LivePatching.Host.Files
import LivePatching.Host.Loopback
import LivePatching.Host.Programs
import LivePatching.Host.Shell.Arithmetic
import LivePatching.Host.Shell.Command
import LivePatching.Host.Shell.Reader
import LivePatching.Host.Shell.Run
import LivePatching.Host.Shell.Utility
import LivePatching.Instant
import LivePatching.Json.Node
import LivePatching.Json.Reader
import LivePatching.Json.Record
import LivePatching.Json.Value
import LivePatching.Junit.CommandLine
import LivePatching.Junit.Connection
import LivePatching.Junit.Machine
import LivePatching.Junit.Marker
import LivePatching.Junit.Program
import LivePatching.Junit.Runner
import LivePatching.Junit.Sink
import LivePatching.Junit.Suite
import LivePatching.Junit.Target
import LivePatching.Main
import LivePatching.Proofs.Account
import LivePatching.Proofs.Attributes
import LivePatching.Proofs.Authorship
import LivePatching.Proofs.Background
import LivePatching.Proofs.Calendar
import LivePatching.Proofs.Carryover
import LivePatching.Proofs.Catalog
import LivePatching.Proofs.Change
import LivePatching.Proofs.Chronicle
import LivePatching.Proofs.Coherence
import LivePatching.Proofs.Confluence
import LivePatching.Proofs.Custody
import LivePatching.Proofs.Delivery
import LivePatching.Proofs.Documents
import LivePatching.Proofs.Effort
import LivePatching.Proofs.Ending
import LivePatching.Proofs.Events
import LivePatching.Proofs.FirstKernel
import LivePatching.Proofs.Following
import LivePatching.Proofs.Framing
import LivePatching.Proofs.History
import LivePatching.Proofs.Identifiers
import LivePatching.Proofs.Isolation
import LivePatching.Proofs.KernelStep
import LivePatching.Proofs.KeyOrder
import LivePatching.Proofs.Lag
import LivePatching.Proofs.Lines
import LivePatching.Proofs.Loads
import LivePatching.Proofs.Lookup
import LivePatching.Proofs.Loop
import LivePatching.Proofs.Marking
import LivePatching.Proofs.Numerals
import LivePatching.Proofs.Operation
import LivePatching.Proofs.Policy
import LivePatching.Proofs.Printing
import LivePatching.Proofs.Provenance
import LivePatching.Proofs.Quiescence
import LivePatching.Proofs.Quoting
import LivePatching.Proofs.Reading
import LivePatching.Proofs.Record
import LivePatching.Proofs.Rendering
import LivePatching.Proofs.Replay
import LivePatching.Proofs.Report
import LivePatching.Proofs.Settling
import LivePatching.Proofs.Stages
import LivePatching.Proofs.Status
import LivePatching.Proofs.Stream
import LivePatching.Proofs.Tallying
import LivePatching.Proofs.Targets
import LivePatching.Proofs.Teardown
import LivePatching.Proofs.Tracking
import LivePatching.Proofs.Trimming
import LivePatching.Proofs.Truncation
import LivePatching.Proofs.Turn
import LivePatching.Proofs.Values
import LivePatching.Proofs.Write
import LivePatching.Scene.Operation
import LivePatching.Scene.Schedule
import LivePatching.Scene.Script
import LivePatching.Scope
import LivePatching.Selection.Invariant
import LivePatching.Selection.Rules
import LivePatching.Selection.View
import LivePatching.Subform.Action
import LivePatching.Subform.Controller
import LivePatching.Subform.Load
import LivePatching.Subform.Render
import LivePatching.Telemetry.Config
import LivePatching.Telemetry.Filter
import LivePatching.Telemetry.Metrics
import LivePatching.Telemetry.Record
import LivePatching.Text.Blank
import LivePatching.Text.Category
import LivePatching.Text.Digits
import LivePatching.Text.Quoted
