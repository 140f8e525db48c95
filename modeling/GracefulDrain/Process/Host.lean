import GracefulDrain.Failure
import GracefulDrain.Process.Output
/-!
# Hosts

The operating system as a supervisor meets it: one child at a time, a clock that runs in nanoseconds, and
whatever the child does meanwhile. A host with the state `σ` may answer each call in any way; the child may
thus end between any two calls.
-/

namespace GracefulDrain

inductive Exit
  | code (n : Int)
  | signal (n : Nat)
  deriving DecidableEq, Repr

namespace Exit

def code? : Exit → Option Int
  | .code n => some n
  | .signal _ => none

/-- The exit code, or -1 for a process that a signal ended. -/
def codeOrMinusOne (e : Exit) : Int := e.code?.getD (-1)

def isSuccess (e : Exit) : Bool := e == .code 0

end Exit

/-- The answer to a forced kill. -/
inductive KillAnswer
  | sent
  /-- The child had been reaped before. -/
  | gone
  | refused (reason : OsError)
  deriving DecidableEq, Repr

structure Host (σ : Type) where
  /-- Nanoseconds since some moment. -/
  clock : σ → Nat
  /-- Starts a program with its arguments and returns the number of the process. -/
  spawn : List String → σ → Except OsError Nat × σ
  /-- Whether the child has ended, without waiting. -/
  poll : σ → Except OsError (Option Exit) × σ
  /-- Sends a termination signal to the child. -/
  signal : TermSignal → σ → Except OsError Unit × σ
  /-- Waits for the end of the child, for so long at most. -/
  await : Duration → σ → Except OsError (Option Exit) × σ
  /-- Sends the signal that no process survives. -/
  forceKill : σ → KillAnswer × σ
  /-- Waits for the end of a child that cannot survive. -/
  reap : σ → Except OsError Exit × σ
  /-- Waits until all that the child wrote has been read, or for some seconds. -/
  settle : σ → σ
  /-- What has been read of a stream of the child so far. -/
  output : Stream → σ → ByteArray

/-- The time that a span on a clock takes. -/
def Duration.between (start stop : Nat) : Duration := saturate (stop - start)

end GracefulDrain
