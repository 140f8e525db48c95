/-!
# Termination signals

The requests to stop that a connector has to honour.
-/

namespace GracefulDrain

inductive TermSignal
  | terminate
  | interrupt
  deriving DecidableEq, Repr

namespace TermSignal

/-- The signals that are exercised, in order. The first is the one an orderly shutdown uses. -/
def supported : List TermSignal := [.terminate, .interrupt]

/-- The name a user knows the signal by. -/
def name : TermSignal → String
  | .terminate => "SIGTERM"
  | .interrupt => "SIGINT"

/-- The word for the signal in a report. -/
def tag : TermSignal → String
  | .terminate => "Terminate"
  | .interrupt => "Interrupt"

/-- The number the operating system knows the signal by. -/
def number : TermSignal → Nat
  | .terminate => 15
  | .interrupt => 2

end TermSignal

end GracefulDrain
