import GracefulDrain.Credentials
import GracefulDrain.Management.Record
import GracefulDrain.Management.Url
import GracefulDrain.Process.Administrative
/-!
# Administrative queries

Questions that are put to a connector by running it once for each, and the management address that two of
the answers make up.
-/

namespace GracefulDrain

structure TunnelClient where
  config : ProcessConfig
  store : CredentialStore
  timeout : Duration := .ofSecs 15

namespace TunnelClient
variable {σ : Type}

/-- What is asked of a host. -/
abbrev Query (σ : Type) := ExceptT Failure (StateM σ)

def query (c : TunnelClient) (host : Host σ) (mode : CommandMode) : Query σ CommandOutput :=
  match c.store.argv c.config mode with
  | .error fault => throw fault.failure
  | .ok argv => ExceptT.mk <| modifyGet (runToCompletion host argv c.timeout)

/-- What was read from an answer, or the failure to read it. -/
def decoded {α : Type} : Except Malformed α → Query σ α
  | .ok a => pure a
  | .error m => throw (.malformed m)

def list (c : TunnelClient) (host : Host σ) : Query σ (List TunnelRecord) := do
  decoded (TunnelRecord.parseList (← c.query host .list).output.stdout)

def info (c : TunnelClient) (host : Host σ) (tunnel : String) : Query σ TunnelInfo := do
  decoded (TunnelInfo.parse (← c.query host (.info tunnel)).output.stdout)

def connectorIds (c : TunnelClient) (host : Host σ) (tunnel : String) : Query σ (List String) := do
  return (← c.info host tunnel).connectorIds

/-- A fresh management token. Every failure counts as a failure to fetch it. -/
def token (c : TunnelClient) (host : Host σ) (tunnel : String) : Query σ String := do
  let fetch : Query σ String := do
    decoded (Token.parse (← c.query host (.token tunnel)).output.stdout)
  match ← observing fetch with
  | .ok token => pure token
  | .error failure => throw (.tokenFetch failure.message)

/-- The connector to address: the one that is asked for, or else the first of the tunnel. -/
def connector (c : TunnelClient) (host : Host σ) (tunnel : String) : Option String → Query σ String
  | some id => pure id
  | none => do
    match ← c.connectorIds host tunnel with
    | id :: _ => pure id
    | [] => throw (.tokenFetch s!"tunnel {tunnel} has no connectors")

/-- The address of `path` on a management host. Each call fetches a token of its own. -/
def url (c : TunnelClient) (host : Host σ) (managementHost : String) (scheme : UrlScheme)
    (path tunnel : String) (connectorId : Option String) : Query σ String := do
  let id ← c.connector host tunnel connectorId
  let token ← c.token host tunnel
  return managementUrl scheme managementHost path id token

end TunnelClient

end GracefulDrain
