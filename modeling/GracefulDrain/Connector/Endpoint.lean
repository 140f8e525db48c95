import GracefulDrain.Connector.Command
import GracefulDrain.Readiness.Report
import GracefulDrain.Stream.Events
import GracefulDrain.Stream.Status
/-!
# Endpoints of the stand-in connector

What the connector answers to requests while it serves.
-/

namespace GracefulDrain.Connector

/-- The answer to a request for the readiness document. Once the shutdown has begun no connections are
reported. A report whose status is none would be answered as that of an unavailable service. -/
def ready (connections : UInt32) (connector : Uuid) (signalled : Bool) : ReadinessReport × Answer :=
  let report := ReadinessReport.of (if signalled then 0 else connections) connector
  (report, ⟨(statusOf? report.status.toNat).getD 503, some (Utf8.encode report.document)⟩)

def defaultInterval : Duration := .ofSecs 1

inductive Body
  | empty
  | events (stream : EventStream)
  /-- A text that is sent at once, and whether it has been sent. -/
  | text (content : String) (sent : Bool)

structure StreamAnswer where
  status : Nat
  contentType : String
  cacheControl : Option String
  body : Body

/-- The answer to a request for a stream that asks for `freq` as its interval, at time `now`. -/
def stream (c : Config) (grace : Duration) (freq : Option String) (now : Nat) : StreamAnswer :=
  let interval :=
    match freq with
    | none => some defaultInterval
    | some raw =>
      match Duration.parse raw with
      | .ok d => if d.nanos = 0 then none else some d
      | .error _ => none
  match interval with
  | none => ⟨400, "text/plain; charset=utf-8", none, .text "invalid freq" false⟩
  | some interval =>
    ⟨200, "text/event-stream", some "no-cache",
      if c.emptyStreams then .empty
      else .events { interval, grace, dropOnSignal := c.dropStreamsOnSignal, opened := now }⟩

/-- The next chunk of a body that is asked for at time `now`, where a signal comes at `signal`. -/
def Body.next (ties : EventStream.Ties) (signal : Option Nat) (now : Nat) :
    Body → Option String × Nat × Body
  | .empty => (none, now, .empty)
  | .text content sent => (if sent then none else some content, now, .text content true)
  | .events s =>
    let (chunk, time, s) := s.next ties signal now
    (chunk, time, .events s)

end GracefulDrain.Connector
