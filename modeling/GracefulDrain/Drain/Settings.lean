import GracefulDrain.Duration
import GracefulDrain.Management.Url
/-!
# Settings of a scenario

Where a connector is reached, and how long each wait may take.
-/

namespace GracefulDrain

structure ScenarioSettings where
  tunnelUrl : String
  readyUrl : String
  /-- The path of the stream that an eyeball reads: one event per second. -/
  streamPath : String := "/sse?freq=1s"
  /-- For connecting and for each read of the eyeball. -/
  timeout : Duration := .ofSecs 10
  readinessTimeout : Duration := .ofSecs 30
  /-- Whether a drain with nothing in flight has to end within a second. -/
  strictIdle : Bool := false
  deriving DecidableEq

namespace ScenarioSettings

def of (tunnelUrl readyUrl : String) : ScenarioSettings := ⟨trimSlashesRight tunnelUrl, readyUrl,
  "/sse?freq=1s", .ofSecs 10, .ofSecs 30, false⟩

def streamUrl (s : ScenarioSettings) : String := s.tunnelUrl ++ s.streamPath

end ScenarioSettings

/-- The address of the readiness document below `base`. -/
def readyUrl (base : String) : String := trimSlashesRight base ++ "/ready"

end GracefulDrain
