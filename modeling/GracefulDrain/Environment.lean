import GracefulDrain.Drain.Settings
import GracefulDrain.Failure
import GracefulDrain.Process.Command
import GracefulDrain.Text.Quoted
/-!
# Settings from the environment

A drain verification is configured by environment variables. A variable that holds blanks only counts as
unset. Numbers and truth values may have blanks around them.
-/

namespace GracefulDrain

inductive ValueFault
  | numeral (fault : Numeral.Fault)
  | truth
  deriving DecidableEq, Repr

def ValueFault.message : ValueFault → String
  | .numeral fault => fault.message
  | .truth => Truth.faultMessage

/-- Why an environment is refused: the first variable that gives offence. -/
inductive EnvironmentFault
  | unset (key : String)
  | invalid (key raw : String) (fault : ValueFault)
  deriving DecidableEq, Repr

def EnvironmentFault.message : EnvironmentFault → String
  | .unset key => s!"{key} must be set"
  | .invalid key raw fault => s!"{key} must be valid, got {Text.quote raw}: {fault.message}"

def EnvironmentFault.failure (f : EnvironmentFault) : Failure := .configuration f.message

structure Environment where
  process : ProcessConfig
  credentials : Option String
  /-- The public address of the tunnel. -/
  tunnelUrl : String
  /-- The address below which the readiness document is served. -/
  readyUrl : String
  /-- The tunnel whose management address is to be resolved. -/
  tunnelId : Option String
  managementHost : String
  scenarioTimeout : Duration
  strictIdle : Bool

namespace Environment

/-- Where management addresses point, unless told otherwise. -/
def defaultManagementHost : String := "management.tunnellink.local"

def present (lookup : String → Option String) (key : String) : Option String :=
  (lookup key).filter fun v => !Text.allBlank v

/-- The value of a variable that has to be set. -/
def required (lookup : String → Option String) (key : String) : Except EnvironmentFault String :=
  match present lookup key with
  | some v => .ok v
  | none => .error (.unset key)

/-- The value that `read` finds in a variable, or the default if it is unset. -/
def parsed {α : Type} (read : List Char → Except ValueFault α) (lookup : String → Option String)
    (key : String) (default : α) : Except EnvironmentFault α :=
  match present lookup key with
  | none => .ok default
  | some raw =>
    match read (Text.trimBlanks raw.toList) with
    | .ok v => .ok v
    | .error fault => .error (.invalid key raw fault)

def numeral (bound : Nat) (cs : List Char) : Except ValueFault Nat :=
  match Numeral.parse bound cs with
  | .ok n => .ok n
  | .error fault => .error (.numeral fault)

def truth (cs : List Char) : Except ValueFault Bool :=
  match Truth.parse? (String.ofList cs) with
  | some b => .ok b
  | none => .error .truth

/-- Reads the environment, of which `lookup` yields the values. -/
def load (lookup : String → Option String) : Except EnvironmentFault Environment := do
  let var := present lookup
  let binary ← required lookup "TUNNEL_BINARY"
  let tunnelUrl ← required lookup "TUNNEL_URL"
  let connections ← parsed (numeral (UInt32.size - 1)) lookup "TUNNEL_HA_CONNECTIONS" 1
  let graceSecs ← parsed (numeral (UInt64.size - 1)) lookup "GRACE_PERIOD_SECS" 5
  let timeoutSecs ← parsed (numeral (UInt64.size - 1)) lookup "SCENARIO_TIMEOUT_SECS" 10
  let strictIdle ← parsed truth lookup "STRICT_IDLE_SHUTDOWN" false
  let process : ProcessConfig :=
    { binary := Utf8.encode binary
      configPath := (var "TUNNEL_CONFIG_PATH").map Utf8.encode
      gracePeriod := .ofSecs graceSecs
      protocol := (var "TUNNEL_PROTOCOL").getD "http2" }
  return {
    process := process.withConnections connections.toUInt32
    credentials := var "CREDENTIALS_FILE"
    tunnelUrl := tunnelUrl
    readyUrl := (var "TUNNEL_READY_URL").getD tunnelUrl
    tunnelId := var "TUNNEL_ID"
    managementHost := (var "MANAGEMENT_HOST").getD defaultManagementHost
    scenarioTimeout := .ofSecs timeoutSecs
    strictIdle := strictIdle }

def settings (e : Environment) : ScenarioSettings :=
  { ScenarioSettings.of e.tunnelUrl e.readyUrl with
    timeout := e.scenarioTimeout
    strictIdle := e.strictIdle }

end Environment

end GracefulDrain
