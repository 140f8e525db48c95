import GracefulDrain.Duration
/-!
# Drain windows

How long a connector may take to stop. With a connection in flight it must not stop within its first
second; in no case may it run past its grace period. Only whole seconds count, so an overrun of less than a
second is tolerated where the grace period is a whole number of seconds.
-/

namespace GracefulDrain

/-- The whole seconds a drain may take. -/
structure DrainWindow where
  minimumSecs : Nat
  gracePeriodSecs : Nat
  deriving DecidableEq, Repr

structure WindowViolation where
  elapsedSecs : Nat
  window : DrainWindow
  deriving DecidableEq, Repr

def WindowViolation.message (v : WindowViolation) : String :=
  s!"drain took {v.elapsedSecs}s (truncated), expected within [{v.window.minimumSecs}s, " ++
    s!"{v.window.gracePeriodSecs}s]"

namespace DrainWindow

/-- The window of a drain with or without a connection in flight. -/
def of (inFlight : Bool) (grace : Duration) : DrainWindow := ⟨inFlight.toNat, grace.secs⟩

def contains (w : DrainWindow) (elapsed : Duration) : Bool :=
  w.minimumSecs ≤ elapsed.secs && elapsed.secs ≤ w.gracePeriodSecs

def check (w : DrainWindow) (elapsed : Duration) : Except WindowViolation Unit :=
  if w.contains elapsed then .ok () else .error ⟨elapsed.secs, w⟩

end DrainWindow

namespace Duration

/-- Whether a drain counts as immediate: under a second. -/
def isImmediate (d : Duration) : Bool := d < ofSecs 1

/-- How many lines a stream of one event per second carries over the grace period: each event is followed
by a blank line. -/
def expectedLines (grace : Duration) : Nat := grace.secs * 2

end Duration

end GracefulDrain
