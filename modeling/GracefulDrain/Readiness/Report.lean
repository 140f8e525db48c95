import GracefulDrain.Json.Decode
import GracefulDrain.Json.Writer
import GracefulDrain.Uuid
/-!
# Readiness reports

The document a running connector serves about itself, and what a client makes of an answer.
-/

namespace GracefulDrain

structure ReadinessReport where
  status : UInt16
  readyConnections : UInt32
  connectorId : Uuid
  deriving DecidableEq

/-- The answer to a request: its status, and its body if that arrived whole. -/
structure Answer where
  status : Nat
  body : Option Bytes

namespace ReadinessReport

/-- The report of a connector with some connections to the edge. -/
def of (connections : UInt32) (connector : Uuid) : ReadinessReport :=
  ⟨if 0 < connections then 200 else 503, connections, connector⟩

/-- Whether the report says that the connector takes connections. -/
def isReady (r : ReadinessReport) : Bool := r.status == 200 && 0 < r.readyConnections

def toJson (r : ReadinessReport) : Json :=
  .obj [("status", .int r.status.toNat), ("readyConnections", .int r.readyConnections.toNat),
    ("connectorId", .str r.connectorId.toString)]

def document (r : ReadinessReport) : String := r.toJson.render

open Json Json.Reader

/-- The fields that have been met so far. -/
structure Fields where
  status : Option UInt16 := none
  readyConnections : Option UInt32 := none
  connectorId : Option Uuid := none

def statusField : Reader UInt16 := return (← natural 65535 "u16").toUInt16

def connectionsField : Reader UInt32 := return (← natural 4294967295 "u32").toUInt32

def connectorField : Reader Uuid := do
  if (← peekValue) = '"' then
    advance
    let s ← text
    match Uuid.parse? s with
    | some id => pure id
    | none => here (.invalidValue (.str s) "a UUID")
  else mismatch "a UUID"

def member (name : String) (f : Fields) : Reader Fields := do
  if name = "status" then return { f with status := ← once name f.status statusField }
  else if name = "readyConnections" then
    return { f with readyConnections := ← once name f.readyConnections connectionsField }
  else if name = "connectorId" then
    return { f with connectorId := ← once name f.connectorId connectorField }
  else
    colon
    skipValue
    pure f

def recordName : String := "struct ReadinessReport"

def fromMembers : Reader ReadinessReport := do
  let f ← members member {}
  return ⟨← required "status" f.status, ← required "readyConnections" f.readyConnections,
    ← required "connectorId" f.connectorId⟩

def fromItems : Reader ReadinessReport := do
  let expected := recordName ++ " with 3 elements"
  return ⟨← itemAt 0 expected statusField, ← itemAt 1 expected connectionsField,
    ← itemAt 2 expected connectorField⟩

def parse (body : Bytes) : Except Json.Error ReadinessReport :=
  Json.Reader.document (fromEither recordName fromMembers fromItems) body

end ReadinessReport

/-- Whether an answer counts as ready. Anything but status 200 does not; a body that is no readiness
report is taken at face value. -/
def Answer.isReady (a : Answer) : Bool :=
  a.status == 200 &&
    match a.body with
    | none => false
    | some body =>
      match ReadinessReport.parse body with
      | .ok report => report.isReady
      | .error _ => true

end GracefulDrain
