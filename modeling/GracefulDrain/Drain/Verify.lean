import GracefulDrain.Drain.Report
import GracefulDrain.Readiness.Wait
/-!
# Drain verification

One scenario: a connector is launched, has to become ready, may get an eyeball, is asked to stop, must no
longer be ready then, and ends; the time that took is held against the drain window. Whatever happens, the
connector is stopped and its output collected in the end.
-/

namespace GracefulDrain

/-- What a scenario needs to know. -/
structure DrainVerifier where
  store : CredentialStore
  process : ProcessConfig
  settings : ScenarioSettings

namespace Supervised
variable {ω α : Type}

def callWorld (f : ω → α × ω) : Act ω α := viaHandle (Handle.call f)

def now (world : World ω) : Act ω Nat := return world.clock (← get).handle.world

def pauseUntil (world : World ω) (wait : Wait) (time : Nat) : Act ω Unit :=
  callWorld fun w => ((), world.pauseUntil wait time w)

/-- Fails because a wait ran out, with what the process has written so far. -/
def timeOut (world : World ω) (wait : Wait) (timeout : Duration) : Act ω α := do
  throw (.timedOut wait timeout ((← get).handle.snapshot world.toHost .stderr))

def joinEyeball (world : World ω) (watch : Watch) (timeout : Duration) : Act ω LineReport := do
  let (result, time) := watch.join (← now world) timeout
  pauseUntil world .join time
  match result with
  | some (.ok report) => pure report
  | some (.error failure) => throw failure
  | none => timeOut world .join timeout

/-- Opens an eyeball and waits until its connection is established. If it ends without that, its own
failure tells why. -/
def openEyeball (world : World ω) (eyeball : Eyeball) (timeout : Duration) : Act ω Watch := do
  let start ← now world
  let watch := eyeball.watch start (← callWorld (world.request eyeball))
  let (answer, time) := watch.notice.await start timeout
  pauseUntil world .connectionEstablished time
  match answer with
  | .ok () => pure watch
  | .error (.timedOut waited) => timeOut world .connectionEstablished waited
  | .error .abandoned =>
    let _ ← joinEyeball world watch timeout
    throw (.eyeball "stream ended before headers arrived")

end Supervised

namespace DrainVerifier
open Supervised
variable {ω : Type}

/-- How long a connector that was asked to stop may stay ready. -/
def notReadyTimeout : Duration := .ofSecs 3

def probeUrl (v : DrainVerifier) : String := readyUrl v.settings.readyUrl

def eyeball (v : DrainVerifier) (scenario : Scenario) : Eyeball :=
  ⟨v.settings.streamUrl, v.settings.timeout, scenario.earlyStop⟩

def openStream (v : DrainVerifier) (world : World ω) (scenario : Scenario) : Act ω (Option Watch) := do
  if scenario.opensConnection then
    return some (← openEyeball world (v.eyeball scenario) v.settings.timeout)
  else pure none

/-- Refuses a stream that has ended although it should be in flight. -/
def refuseEnded (v : DrainVerifier) (world : World ω) (watch : Watch) : Act ω Unit := do
  if watch.isFinished (← now world) then
    let report ← joinEyeball world watch v.settings.timeout
    throw (.shortStream report.lines v.process.gracePeriod.expectedLines)

/-- Refuses a stream that has ended, where there should be one in flight. -/
def checkInFlight (v : DrainVerifier) (world : World ω) (scenario : Scenario) : Option Watch → Act ω Unit
  | some watch => if scenario.expectsInFlight then v.refuseEnded world watch else pure ()
  | none => pure ()

/-- How long the eyeball may go on after the connector has ended. A sum that no duration can hold counts as the
longest one. The program breaks off there instead, without any result. -/
def joinTimeout (v : DrainVerifier) (scenario : Scenario) : Duration :=
  if scenario.expectsInFlight then v.process.gracePeriod.add v.settings.timeout else v.settings.timeout

/-- Waits for the eyeball, if there is one. -/
def joinOpened (v : DrainVerifier) (world : World ω) (scenario : Scenario) :
    Option Watch → Act ω (Option LineReport)
  | some watch => some <$> joinEyeball world watch (v.joinTimeout scenario)
  | none => pure none

def drain (v : DrainVerifier) (world : World ω) (scenario : Scenario) (signal : TermSignal)
    (watch : Option Watch) : Act ω DrainReport := do
  let startedAt := world.calendar (← get).handle.world
  let start ← now world
  sendSignal world.toHost signal
  if !(← callWorld (world.awaitNotReady v.probeUrl notReadyTimeout)) then throw (.stillAccepting signal)
  let outcome ← awaitTermination world.toHost
  let eyeball ← v.joinOpened world scenario watch
  let elapsed ← elapsedSince world.toHost start
  return {
    scenario, signal, eyeball, outcome
    window := DrainWindow.of scenario.expectsInFlight v.process.gracePeriod
    observation := {
      startedAt, elapsed
      endedAt := world.calendar (← get).handle.world
      connectionInFlight := scenario.expectsInFlight
      linesObserved := eyeball.elim 0 LineReport.lines } }

def judge (v : DrainVerifier) (report : DrainReport) : Act ω DrainReport :=
  match report.verdict v.settings.strictIdle v.process.gracePeriod with
  | .ok () => pure report
  | .error failure => throw failure

/-- Takes a launched connector through a scenario. -/
def exercise (v : DrainVerifier) (world : World ω) (scenario : Scenario) (signal : TermSignal) :
    Act ω DrainReport := do
  awaitReady world v.probeUrl v.settings.readinessTimeout
  let watch ← v.openStream world scenario
  v.checkInFlight world scenario watch
  v.judge (← v.drain world scenario signal watch)

/-- Takes a launched connector through a scenario and shuts it down. -/
def conduct (v : DrainVerifier) (world : World ω) (scenario : Scenario) (signal : TermSignal)
    (p : Supervised ω) : (Except Failure DrainReport × CapturedOutput) × Supervised ω :=
  let (result, p) := (v.exercise world scenario signal).run.run p
  let (output, p) := (shutdown world.toHost).run p
  ((result, output), p)

/-- Launches a connector and conducts it through a scenario. In the end it is given up, so that it is killed if
even the shutdown has not seen its end. -/
def verify (v : DrainVerifier) (world : World ω) (scenario : Scenario) (signal : TermSignal) (w : ω) :
    Except Failure DrainReport × ω :=
  match launch world.toHost v.store v.process true w with
  | .error e => (.error e.1, e.2)
  | .ok p =>
    let ((result, _), p) := v.conduct world scenario signal p
    (result, p.handle.abandon world.toHost)

end DrainVerifier

end GracefulDrain
