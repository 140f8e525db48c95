import GracefulDrain.Duration
import GracefulDrain.Text.Utf8
/-!
# Process configurations

What has to be known to launch a connector and to stop it again. Paths are octets, of which messages and
command lines show the text.
-/

namespace GracefulDrain

/-- How long a connector that was asked to stop may take before it is killed. -/
structure TerminationBudget where
  attempts : UInt32 := 10
  pollInterval : Duration := .ofSecs 1
  deriving DecidableEq

/-- The whole wait, at most the longest duration. -/
def TerminationBudget.total (b : TerminationBudget) : Duration := b.pollInterval.times b.attempts.toNat

structure ProcessConfig where
  binary : Bytes
  configPath : Option Bytes := none
  /-- A credential that goes before the one of the credential store. -/
  originCert : Option String := none
  /-- Words behind `run`. -/
  runArgs : List String := []
  /-- How long the connector drains its connections. -/
  gracePeriod : Duration := .ofSecs 5
  protocol : String := "http2"
  termination : TerminationBudget := {}
  deriving DecidableEq

namespace ProcessConfig

def withRunArgs (c : ProcessConfig) (args : List String) : ProcessConfig :=
  { c with runArgs := c.runArgs ++ args }

def withConnections (c : ProcessConfig) (n : UInt32) : ProcessConfig :=
  c.withRunArgs ["--ha-connections", toString n.toNat]

/-- The program as a command line names it. -/
def program (c : ProcessConfig) : String := Utf8.decodeLossy c.binary

end ProcessConfig

end GracefulDrain
