import GracefulDrain.Process.Handle
/-!
# Administrative commands

A short-lived process that is run to its end. Unless it ends in time and well, its failure says what it
wrote.
-/

namespace GracefulDrain

/-- What a command that ended well has written. -/
structure CommandOutput where
  output : CapturedOutput
  exitCode : Int
  durationMs : Nat
  deriving DecidableEq, Repr

namespace Handle
variable {σ : Type}

def drained (host : Host σ) : Act σ CapturedOutput := modifyGet (drain host)

/-- Waits for the end of a command that was started at `start` and judges it. A command that takes too
long is killed. -/
def finish (host : Host σ) (timeout : Duration) (start : Nat) : Act σ CommandOutput := do
  match ← observing (waitFor host timeout .query) with
  | .error (.timeout wait elapsedMs _) =>
    let _ ← kill host
    let output ← drained host
    throw (.timeout wait elapsedMs output.combined)
  | .error failure => throw failure
  | .ok e =>
    let output ← drained host
    if e.isSuccess then
      let elapsed := Duration.between start (host.clock (← get).world)
      return ⟨output, e.codeOrMinusOne, elapsed.millis64⟩
    else throw (.commandFailed (← get).program e.codeOrMinusOne (Text.trim output.stderr))

end Handle

/-- Runs a command to its end. The handle is given up in the end, so that a child is killed whose end has not been
seen. -/
def runToCompletion {σ : Type} (host : Host σ) (argv : List String) (timeout : Duration) (world : σ) :
    Except Failure CommandOutput × σ :=
  let start := host.clock world
  match Handle.start host argv world with
  | .error e => (.error e.1, e.2)
  | .ok handle =>
    let (result, handle) := (Handle.finish host timeout start).run.run handle
    (result, handle.abandon host)

end GracefulDrain
