import GracefulDrain.Drain.Window
import GracefulDrain.Lifecycle
import GracefulDrain.Signal
/-!
# Failures

Whatever can go wrong while a connector is supervised, with the text that reports it. A forced kill after
an unanswered signal is none: it is an outcome.
-/

namespace GracefulDrain

inductive OsError
  | notFound
  | permissionDenied
  | notADirectory
  | isADirectory
  | noSuchProcess
  | invalidUtf8
  | nulByte
  deriving DecidableEq, Repr

def OsError.text : OsError → String
  | .notFound => "No such file or directory (os error 2)"
  | .permissionDenied => "Permission denied (os error 13)"
  | .notADirectory => "Not a directory (os error 20)"
  | .isADirectory => "Is a directory (os error 21)"
  | .noSuchProcess => "No such process (os error 3)"
  | .invalidUtf8 => "stream did not contain valid UTF-8"
  | .nulByte => "nul byte found in provided data"

/-- The waits that have a bound. -/
inductive Wait
  | readiness
  | connectionEstablished
  | join
  | signalResponse
  | query
  deriving DecidableEq, Repr

def Wait.text : Wait → String
  | .readiness => "readiness wait"
  | .connectionEstablished => "connection establishment"
  | .join => "eyeball join"
  | .signalResponse => "signal response"
  | .query => "query"

/-- An answer of an administrative command that breaks its contract. -/
structure Malformed where
  what : String
  reason : String
  deriving DecidableEq, Repr

def Malformed.message (m : Malformed) : String := s!"Malformed {m.what} response: {m.reason}"

inductive Failure
  | launch (program : String) (reason : OsError)
  | configuration (reason : String)
  | tokenFetch (reason : String)
  | timeout (wait : Wait) (elapsedMs : Nat) (partialOutput : String)
  | notRunning (pid : Nat) (state : Lifecycle)
  | commandFailed (program : String) (exitCode : Int) (stderr : String)
  | stillAccepting (signal : TermSignal)
  | shortStream (lines expected : Nat)
  | slowIdle (elapsedMs : Nat)
  | eyeball (reason : String)
  | window (violation : WindowViolation)
  | malformed (answer : Malformed)
  | illegalMove (move : Lifecycle.IllegalMove)
  | io (reason : OsError)
  deriving DecidableEq

namespace Failure

def message : Failure → String
  | .launch program reason => s!"Failed to launch {program}: {reason.text}"
  | .configuration reason => s!"Configuration error: {reason}"
  | .tokenFetch reason => s!"Token fetch failed: {reason}"
  | .timeout wait elapsedMs _ => s!"{wait.text} timed out after {elapsedMs}ms"
  | .notRunning pid state => s!"Process {pid} is not running (state: {state})"
  | .commandFailed program exitCode stderr => s!"{program} exited with code {exitCode}: {stderr}"
  | .stillAccepting signal => s!"Connector still accepts new connections after {signal.name}"
  | .shortStream lines expected => s!"Stream carried {lines} lines, expected at least {expected}"
  | .slowIdle elapsedMs => s!"Idle shutdown took {elapsedMs}ms, expected under 1s"
  | .eyeball reason => s!"Eyeball connection failed: {reason}"
  | .window violation => violation.message
  | .malformed answer => answer.message
  | .illegalMove move => move.message
  | .io reason => s!"I/O error: {reason.text}"

/-- A wait that ran out after `elapsed`. -/
def timedOut (wait : Wait) (elapsed : Duration) (partialOutput : String) : Failure :=
  .timeout wait elapsed.millis64 partialOutput

end Failure

end GracefulDrain
