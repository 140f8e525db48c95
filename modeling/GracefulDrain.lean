import GracefulDrain.Connector.Arguments
import GracefulDrain.Connector.Command
import GracefulDrain.Connector.Config
import GracefulDrain.Connector.Endpoint
import GracefulDrain.Credentials
import GracefulDrain.Drain.Campaign
import GracefulDrain.Drain.Report
import GracefulDrain.Drain.Scenario
import GracefulDrain.Drain.Settings
import GracefulDrain.Drain.Verify
import GracefulDrain.Drain.Window
import GracefulDrain.Drain.World
import GracefulDrain.Duration
import GracefulDrain.Environment
import GracefulDrain.Failure
import GracefulDrain.File
import GracefulDrain.Instant
import GracefulDrain.Json.Decode
import GracefulDrain.Json.Double
import GracefulDrain.Json.Fault
import GracefulDrain.Json.Reader
import GracefulDrain.Json.Skip
import GracefulDrain.Json.Value
import GracefulDrain.Json.Writer
import GracefulDrain.Lifecycle
import GracefulDrain.Main
import GracefulDrain.Management.Query
import GracefulDrain.Management.Record
import GracefulDrain.Management.Url
import GracefulDrain.Process.Administrative
import GracefulDrain.Process.Command
import GracefulDrain.Process.Config
import GracefulDrain.Process.Handle
import GracefulDrain.Process.Host
import GracefulDrain.Process.Output
import GracefulDrain.Process.Supervised
import GracefulDrain.Proofs.Connector.Arguments
import GracefulDrain.Proofs.Connector.Composition
import GracefulDrain.Proofs.Credentials.CommandLine
import GracefulDrain.Proofs.Credentials.Declared
import GracefulDrain.Proofs.Drain.Cleanup
import GracefulDrain.Proofs.Drain.Course
import GracefulDrain.Proofs.Drain.Established
import GracefulDrain.Proofs.Drain.Invariant
import GracefulDrain.Proofs.Drain.Mirror
import GracefulDrain.Proofs.Drain.Objections
import GracefulDrain.Proofs.Drain.Refusals
import GracefulDrain.Proofs.Drain.Tolerance
import GracefulDrain.Proofs.Drain.Trace
import GracefulDrain.Proofs.Drain.Verdict
import GracefulDrain.Proofs.Duration.Notation
import GracefulDrain.Proofs.Duration.Parts
import GracefulDrain.Proofs.Environment.Acceptance
import GracefulDrain.Proofs.Json.Numbers
import GracefulDrain.Proofs.Json.Refused
import GracefulDrain.Proofs.Json.Skipped
import GracefulDrain.Proofs.Json.Text
import GracefulDrain.Proofs.Json.Values
import GracefulDrain.Proofs.Json.Written
import GracefulDrain.Proofs.Management.Address
import GracefulDrain.Proofs.Management.Answers
import GracefulDrain.Proofs.Management.Records
import GracefulDrain.Proofs.Management.Resolution
import GracefulDrain.Proofs.Process.Act
import GracefulDrain.Proofs.Process.Administrative
import GracefulDrain.Proofs.Process.Captured
import GracefulDrain.Proofs.Process.Completion
import GracefulDrain.Proofs.Process.Deliveries
import GracefulDrain.Proofs.Process.Frame
import GracefulDrain.Proofs.Process.Grace
import GracefulDrain.Proofs.Process.Invariant
import GracefulDrain.Proofs.Process.Life
import GracefulDrain.Proofs.Process.Mirror
import GracefulDrain.Proofs.Process.Reactions
import GracefulDrain.Proofs.Process.Reclaim
import GracefulDrain.Proofs.Process.Record
import GracefulDrain.Proofs.Process.Shutdown
import GracefulDrain.Proofs.Process.Truth
import GracefulDrain.Proofs.Process.Undelivered
import GracefulDrain.Proofs.Readiness.Agreement
import GracefulDrain.Proofs.Readiness.Rounds
import GracefulDrain.Proofs.Stream.Drained
import GracefulDrain.Proofs.Stream.Handoff
import GracefulDrain.Proofs.Stream.Lines
import GracefulDrain.Proofs.Stream.Numbered
import GracefulDrain.Proofs.Stream.Reading
import GracefulDrain.Proofs.Stream.Timing
import GracefulDrain.Proofs.Text.Numeral
import GracefulDrain.Proofs.Text.Trim
import GracefulDrain.Proofs.Text.Utf8
import GracefulDrain.Proofs.Uuid
import GracefulDrain.Readiness.Report
import GracefulDrain.Readiness.Wait
import GracefulDrain.Rehearsal.Address
import GracefulDrain.Rehearsal.Script
import GracefulDrain.Rehearsal.Stage
import GracefulDrain.Rehearsal.World
import GracefulDrain.Signal
import GracefulDrain.Stream.Events
import GracefulDrain.Stream.Eyeball
import GracefulDrain.Stream.Handoff
import GracefulDrain.Stream.LineCounter
import GracefulDrain.Stream.Session
import GracefulDrain.Stream.Status
import GracefulDrain.Text.Numeral
import GracefulDrain.Text.Printable
import GracefulDrain.Text.Quoted
import GracefulDrain.Text.Trim
import GracefulDrain.Text.Utf8
import GracefulDrain.Uuid
