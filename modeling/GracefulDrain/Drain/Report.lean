import GracefulDrain.Drain.Scenario
import GracefulDrain.Drain.Window
import GracefulDrain.Instant
import GracefulDrain.Process.Supervised
import GracefulDrain.Stream.LineCounter
/-!
# Drain reports

What one scenario has shown, and the JSON line that tells it.
-/

namespace GracefulDrain

structure DrainObservation where
  startedAt : Instant
  endedAt : Instant
  elapsed : Duration
  connectionInFlight : Bool
  linesObserved : Nat
  deriving DecidableEq

structure DrainReport where
  scenario : Scenario
  signal : TermSignal
  observation : DrainObservation
  window : DrainWindow
  eyeball : Option LineReport
  outcome : Outcome
  deriving DecidableEq

namespace DrainReport

/-- Whether a drain was as it should be, or what was wrong with it first: its time, an idle drain that was
not immediate although it had to be, or too few lines on a connection in flight. -/
def verdict (r : DrainReport) (strictIdle : Bool) (grace : Duration) : Except Failure Unit :=
  let elapsed := r.observation.elapsed
  match r.window.check elapsed with
  | .error violation => .error (.window violation)
  | .ok () =>
    if strictIdle && !r.scenario.opensConnection && !elapsed.isImmediate then
      .error (.slowIdle elapsed.millis64)
    else if r.observation.connectionInFlight && r.observation.linesObserved < grace.expectedLines then
      .error (.shortStream r.observation.linesObserved grace.expectedLines)
    else .ok ()

end DrainReport

/-- Seconds and nanoseconds. -/
def Duration.toJson (d : Duration) : Json := .obj [("secs", .int d.secs), ("nanos", .int d.subsecNanos)]

/-- The kind of outcome, and whole milliseconds as far as 64 bits go. -/
def Outcome.toJson : Outcome → Json
  | .exited code elapsed =>
    .obj [("outcome", .str "exited"), ("exit_code", code.elim .null .int), ("elapsed", .int elapsed.millis64)]
  | .killed elapsed => .obj [("outcome", .str "killed"), ("elapsed", .int elapsed.millis64)]

def LineReport.toJson (r : LineReport) : Json :=
  .obj [("lines", .int r.lines), ("saw_sentinel", .bool r.sawSentinel),
    ("stopped_early", .bool r.stoppedEarly)]

def DrainWindow.toJson (w : DrainWindow) : Json :=
  .obj [("minimum_secs", .int w.minimumSecs), ("grace_period_secs", .int w.gracePeriodSecs)]

def DrainObservation.toJson (o : DrainObservation) : Json :=
  .obj [("started_at", .str o.startedAt.rfc3339), ("ended_at", .str o.endedAt.rfc3339),
    ("elapsed", o.elapsed.toJson), ("connection_in_flight", .bool o.connectionInFlight),
    ("lines_observed", .int o.linesObserved)]

def DrainReport.toJson (r : DrainReport) : Json :=
  .obj [("scenario", r.scenario.toJson), ("signal", .str r.signal.tag),
    ("observation", r.observation.toJson), ("window", r.window.toJson),
    ("eyeball", r.eyeball.elim .null LineReport.toJson), ("outcome", r.outcome.toJson)]

def DrainReport.line (r : DrainReport) : String := r.toJson.render

end GracefulDrain
