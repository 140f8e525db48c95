import GracefulDrain.Duration
import GracefulDrain.Stream.LineCounter
/-!
# Event streams

The body that a connector streams: numbered events at fixed intervals until, some time after a termination
signal, the sentinel line ends it. An event that is late because nobody asked for it comes at once, and
those behind it keep their schedule. Times are nanoseconds on one clock.
-/

namespace GracefulDrain

structure EventStream where
  interval : Duration
  /-- How long the stream goes on after it has noticed a signal. -/
  grace : Duration
  /-- Whether to end at the signal instead. -/
  dropOnSignal : Bool
  opened : Nat := 0
  sent : Nat := 0
  /-- When the sentinel is due, once a signal has been noticed. -/
  deadline : Option Nat := none
  isDone : Bool := false
  deriving DecidableEq

namespace EventStream

/-- Which of two things goes first when both are ready: the event, or else the signal and the sentinel. -/
structure Ties where
  eventBeforeSignal : Bool
  eventBeforeSentinel : Bool
  deriving DecidableEq, Repr

def due (s : EventStream) : Nat := s.opened + s.interval.nanos * s.sent

def eventText (n : Nat) : String := s!"{n}\n\n"

def sentinelText : String := sentinelLine ++ "\n"

/-- Sends the next event to a reader who has waited since `now`. -/
def event (s : EventStream) (now : Nat) : Option String × Nat × EventStream :=
  (some (eventText (s.sent + 1)), max now s.due, { s with sent := s.sent + 1 })

/-- Whether something due at `a` comes before something due at `b`, for a reader who waits since `now`. -/
def comesFirst (now a b : Nat) (tie : Bool) : Bool :=
  max now a < max now b || (max now a == max now b && tie)

/-- The next chunk after the signal has been noticed. -/
def drain (s : EventStream) (ties : Ties) (deadline now : Nat) : Option String × Nat × EventStream :=
  if comesFirst now s.due deadline ties.eventBeforeSentinel then s.event now
  else (some sentinelText, max now deadline, { s with deadline := some deadline, isDone := true })

/-- The next chunk for a reader who asks at `now`, and when it comes. `signal` is the time of the first
termination signal. -/
def next (s : EventStream) (ties : Ties) (signal : Option Nat) (now : Nat) :
    Option String × Nat × EventStream :=
  if s.isDone then (none, now, s)
  else
    match s.deadline, signal with
    | some deadline, _ => s.drain ties deadline now
    | none, none => s.event now
    | none, some signal =>
      if comesFirst now s.due signal ties.eventBeforeSignal then s.event now
      else
        let noticed := max now signal
        if s.dropOnSignal then (none, noticed, { s with isDone := true })
        else
          let deadline := noticed + s.grace.nanos
          { s with deadline := some deadline }.drain ties deadline noticed

end EventStream

end GracefulDrain
