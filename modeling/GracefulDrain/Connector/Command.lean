import GracefulDrain.Connector.Arguments
import GracefulDrain.Connector.Config
import GracefulDrain.Duration
import GracefulDrain.Instant
import GracefulDrain.Json.Writer
/-!
# Commands of the stand-in connector

What the connector prints when it is asked about its tunnel, and how it refuses what it does not
understand. Only `tunnel run` serves.
-/

namespace GracefulDrain.Connector

def usage : String :=
  "usage: linkdrain-stub-connector tunnel [--config <path>] [--origincert <cert>] " ++
    "<run|list|info> | tail token <id>"

/-- The name under which the connector reports its tunnel. -/
def tunnelName : String := "linkdrain-stub"

inductive CommandFault
  | arguments (fault : ArgumentFault)
  | config (fault : ConfigFault)
  | noTunnelId
  | unrecognised (words : List String)
  | duration (fault : Duration.Invalid)
  | binding (address : String) (reason : String)
  deriving DecidableEq

def CommandFault.message : CommandFault → String
  | .arguments fault => fault.message
  | .config fault => fault.message
  | .noTunnelId => "tunnel info requires a tunnel id"
  | .unrecognised words => s!"unrecognised command {Text.quoteList words}\n{usage}"
  | .duration fault => fault.message
  | .binding address _ => s!"binding {address}"

def CommandFault.cause : CommandFault → Option String
  | .arguments fault => fault.cause
  | .config fault => some fault.cause
  | .binding _ reason => some reason
  | _ => none

/-- What a fault prints: the fault, and below it the cause. -/
def CommandFault.report (f : CommandFault) : String :=
  match f.cause with
  | none => s!"Error: {f.message}\n"
  | some cause => s!"Error: {f.message}\n\nCaused by:\n    {cause}\n"

/-- The parameters of a connector that serves. -/
structure Service where
  gracePeriod : Duration
  exitDelay : Duration
  connections : UInt32

inductive Deed
  | prints (line : String)
  | serves (service : Service)

/-- The list of tunnels: the configured one, with the time as its date of creation. -/
def listing (c : Config) (now : Instant) : Json :=
  .arr [.obj [("created_at", .str now.rfc3339Offset), ("id", .str c.tunnelId), ("name", .str tunnelName)]]

/-- The description of a tunnel, of which one connector is reported. -/
def description (c : Config) (tunnel : String) : Json :=
  let conn := .obj [("colo_name", .str "local"), ("id", .str c.connectorId)]
  .obj [("conns", .arr [conn]), ("id", .str tunnel), ("name", .str tunnelName)]

def tokenDocument (c : Config) : Json :=
  .obj [(if c.malformedToken then "jwt" else "token", .str c.token)]

/-- Whether a socket can be bound to an address, as far as its text tells. -/
def checkAddress (address : String) : Except String Unit :=
  match address.toList.reverse.span (· != ':') with
  | (_, []) => .error "invalid socket address"
  | (port, _) =>
    match Numeral.parse 65535 port.reverse with
    | .ok _ => .ok ()
    | .error _ => .error "invalid port value"

/-- What serving needs. -/
def prepare (c : Config) (connections : UInt32) : Except CommandFault Service := do
  let grace ← (Duration.parse c.gracePeriod).mapError .duration
  let delay ← (Duration.parse c.exitDelay).mapError .duration
  (checkAddress c.listen).mapError (.binding c.listen)
  return ⟨grace, delay, connections⟩

def dispatch (c : Config) (now : Instant) (connections : Option UInt32) :
    List String → Except CommandFault Deed
  | ["tunnel"] => .ok (.prints usage)
  | ["tunnel", "run"] => (prepare c (connections.getD 1)).map .serves
  | ["tunnel", "list"] => .ok (.prints (listing c now).render)
  | ["tunnel", "info"] => .error .noTunnelId
  | ["tunnel", "info", tunnel] =>
    if tunnel.isEmpty then .error .noTunnelId else .ok (.prints (description c tunnel).render)
  | ["tail", "token", _] => .ok (.prints (tokenDocument c).render)
  | words => .error (.unrecognised words)

/-- Runs a command line without the program, where `file` finds what stands at a path. -/
def run (file : String → FileEntry) (now : Instant) (args : List String) :
    Except CommandFault (Config × Deed) := do
  let invocation ← (Invocation.parse args).mapError .arguments
  let place := invocation.configPath.map fun path => File.mk path (file path)
  let config ← (Config.load place).mapError .config
  let deed ← dispatch config now invocation.connections invocation.words
  return (config, deed)

end GracefulDrain.Connector
