import GracefulDrain.Duration
/-!
# Handoff

The eyeball tells its supervisor once that its connection is established. The notice may be given before
the supervisor starts to wait, and the eyeball may end without giving it. Times are nanoseconds on one
clock.
-/

namespace GracefulDrain

/-- What becomes of the notice. -/
inductive Notice
  | given (time : Nat)
  | withdrawn (time : Nat)
  /-- Neither ever happens. -/
  | silent
  deriving DecidableEq, Repr

inductive HandoffFault
  | timedOut (timeout : Duration)
  | abandoned
  deriving DecidableEq

def HandoffFault.message : HandoffFault → String
  | .timedOut timeout => s!"connection was not established within {timeout.spelled}"
  | .abandoned => "eyeball finished without establishing a connection"

namespace Notice

/-- When the wait learns what became of the notice. -/
def time? : Notice → Option Nat
  | .given time | .withdrawn time => some time
  | .silent => none

/-- What the wait learns. -/
def answer : Notice → Except HandoffFault Unit
  | .given _ => .ok ()
  | _ => .error .abandoned

/-- Waits from `start` on for at most `timeout`. Returns what was learnt, and when. A notice that was
given before the wait is not lost, not even if there is no time to wait. -/
def await (n : Notice) (start : Nat) (timeout : Duration) : Except HandoffFault Unit × Nat :=
  let deadline := start + timeout.nanos
  match n.time? with
  | some time =>
    if time ≤ start ∨ time < deadline then (n.answer, max start time)
    else (.error (.timedOut timeout), deadline)
  | none => (.error (.timedOut timeout), deadline)

end Notice

end GracefulDrain
