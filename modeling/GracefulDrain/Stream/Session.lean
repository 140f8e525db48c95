import GracefulDrain.Duration
/-!
# Reading a stream over time

One reader who asks for chunks, pauses, and lets termination signals come, at once or later. Times are
nanoseconds on one clock, which moves in whole milliseconds.
-/

namespace GracefulDrain

structure Session (β : Type) where
  clock : Nat := 0
  /-- The time of the first termination signal, be it past or to come. -/
  signal : Option Nat := none
  body : β

inductive ReadStep (τ : Type)
  | next (ties : τ)
  | sleep (ms : Nat)
  /-- A signal comes after `ms`, meanwhile the reader goes on. -/
  | signal (after : Nat)

namespace Session
variable {β τ : Type}

/-- Does one step; `next` yields the chunk for a reader who asks at a time. Returns the chunk, if the step
asked for one. -/
def step (next : τ → Option Nat → Nat → β → Option String × Nat × β) (s : Session β) :
    ReadStep τ → Option (Option String) × Session β
  | .next ties =>
    let (chunk, time, body) := next ties s.signal s.clock s.body
    (some chunk, { s with clock := ceilMillis time * 1_000_000, body })
  | .sleep ms => (none, { s with clock := s.clock + ms * 1_000_000 })
  | .signal after =>
    let time := s.clock + after * 1_000_000
    (none, { s with signal := some (s.signal.elim time (min time)) })

end Session

end GracefulDrain
