import GracefulDrain.File
import GracefulDrain.Json.Decode
/-!
# Configuration of the stand-in connector

A JSON file of which every field has a default. Some fields make the connector misbehave on purpose.
-/

namespace GracefulDrain.Connector

structure Config where
  gracePeriod : String := "5s"
  listen : String := "127.0.0.1:8080"
  protocol : String := "http2"
  /-- Go on after a termination signal. -/
  ignoreSignals : Bool := false
  /-- End open streams at the signal instead of draining them. -/
  dropStreamsOnSignal : Bool := false
  /-- Answer with an empty stream. -/
  emptyStreams : Bool := false
  /-- Linger that long after the server has stopped. -/
  exitDelay : String := "0s"
  token : String := "stub.management.token"
  /-- Print a token document without a token. -/
  malformedToken : Bool := false
  tunnelId : String := "00000000-0000-0000-0000-000000000001"
  deriving DecidableEq, Repr

inductive ConfigFault
  | unreadable (path : String) (reason : OsError)
  | unparsable (path : String) (reason : Json.Error)
  deriving DecidableEq

def ConfigFault.message : ConfigFault → String
  | .unreadable path _ => s!"reading config {path}"
  | .unparsable path _ => s!"parsing config {path}"

def ConfigFault.cause : ConfigFault → String
  | .unreadable _ reason => reason.text
  | .unparsable _ reason => reason.message

namespace Config
open Json Json.Reader

/-- The identifier of the one connector that is reported. -/
def connectorId (c : Config) : String := c.tunnelId ++ "-connector"

structure Fields where
  gracePeriod : Option String := none
  listen : Option String := none
  protocol : Option String := none
  ignoreSignals : Option Bool := none
  dropStreamsOnSignal : Option Bool := none
  emptyStreams : Option Bool := none
  exitDelay : Option String := none
  token : Option String := none
  malformedToken : Option Bool := none
  tunnelId : Option String := none

def Fields.config (f : Fields) : Config :=
  let default : Config := {}
  { gracePeriod := f.gracePeriod.getD default.gracePeriod
    listen := f.listen.getD default.listen
    protocol := f.protocol.getD default.protocol
    ignoreSignals := f.ignoreSignals.getD default.ignoreSignals
    dropStreamsOnSignal := f.dropStreamsOnSignal.getD default.dropStreamsOnSignal
    emptyStreams := f.emptyStreams.getD default.emptyStreams
    exitDelay := f.exitDelay.getD default.exitDelay
    token := f.token.getD default.token
    malformedToken := f.malformedToken.getD default.malformedToken
    tunnelId := f.tunnelId.getD default.tunnelId }

def member (name : String) (f : Fields) : Reader Fields := do
  if name = "grace-period" then return { f with gracePeriod := ← once name f.gracePeriod string }
  else if name = "listen" then return { f with listen := ← once name f.listen string }
  else if name = "protocol" then return { f with protocol := ← once name f.protocol string }
  else if name = "ignore-signals" then
    return { f with ignoreSignals := ← once name f.ignoreSignals truth }
  else if name = "drop-streams-on-signal" then
    return { f with dropStreamsOnSignal := ← once name f.dropStreamsOnSignal truth }
  else if name = "empty-streams" then return { f with emptyStreams := ← once name f.emptyStreams truth }
  else if name = "exit-delay" then return { f with exitDelay := ← once name f.exitDelay string }
  else if name = "token" then return { f with token := ← once name f.token string }
  else if name = "malformed-token" then
    return { f with malformedToken := ← once name f.malformedToken truth }
  else if name = "tunnel-id" then return { f with tunnelId := ← once name f.tunnelId string }
  else
    colon
    skipValue
    pure f

/-- Reads the fields in their order, as far as there are items. -/
def fromItems : Reader Fields := do
  return {
    gracePeriod := ← item? true string
    listen := ← item? false string
    protocol := ← item? false string
    ignoreSignals := ← item? false truth
    dropStreamsOnSignal := ← item? false truth
    emptyStreams := ← item? false truth
    exitDelay := ← item? false string
    token := ← item? false string
    malformedToken := ← item? false truth
    tunnelId := ← item? false string }

def parse (text : String) : Except Json.Error Config :=
  let read := fromEither "struct StubConfig" (members member {}) fromItems
  (document read (Utf8.encode text)).map Fields.config

/-- The configuration in a file, or the default without one. -/
def load : Option File → Except ConfigFault Config
  | none => .ok {}
  | some file =>
    match file.entry.read with
    | .error reason => .error (.unreadable file.path reason)
    | .ok text =>
      match parse text with
      | .ok config => .ok config
      | .error reason => .error (.unparsable file.path reason)

end Config

end GracefulDrain.Connector
