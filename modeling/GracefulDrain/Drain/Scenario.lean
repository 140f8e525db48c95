import GracefulDrain.Json.Writer
/-!
# Drain scenarios

What an eyeball does while the connector is asked to stop.
-/

namespace GracefulDrain

inductive Scenario
  /-- It holds its connection to the end. -/
  | inFlight
  /-- It hangs up after some lines. -/
  | earlyDisconnect (afterLines : Nat)
  /-- It never connects. -/
  | idle
  deriving DecidableEq, Repr

namespace Scenario

/-- The lines after which an eyeball hangs up early, unless told otherwise. -/
def defaultEarlyLines : Nat := 2

def opensConnection : Scenario → Bool
  | .idle => false
  | _ => true

/-- Whether a connection is expected to be in flight when the signal comes. -/
def expectsInFlight : Scenario → Bool
  | .inFlight => true
  | _ => false

/-- After how many lines the eyeball hangs up. -/
def earlyStop : Scenario → Option Nat
  | .earlyDisconnect n => some n
  | _ => none

def name : Scenario → String
  | .inFlight => "in_flight"
  | .earlyDisconnect _ => "early_disconnect"
  | .idle => "idle"

def toJson (s : Scenario) : Json :=
  let kind := ("kind", Json.str s.name)
  match s with
  | .earlyDisconnect n => .obj [kind, ("after_lines", .int n)]
  | _ => .obj [kind]

end Scenario

end GracefulDrain
