import GracefulDrain.Failure
import GracefulDrain.Stream.Handoff
import GracefulDrain.Stream.LineCounter
import GracefulDrain.Stream.Status
/-!
# Eyeballs

A client that reads a stream through a connector. It gives notice once the head of a successful answer has
arrived, reads chunks until a stop rule applies or the body ends, and gives up if a chunk keeps it waiting
for too long. `Eyeball.watch` says what it does with an answer that takes any course. Times are nanoseconds
on one clock.
-/

namespace GracefulDrain

inductive Ending
  /-- Some time after the last chunk, as it should or because the connection is lost. -/
  | over (gap : Nat) (isCut : Bool)
  /-- Not at all: silence for ever. -/
  | stall
  deriving DecidableEq, Repr

/-- A chunk and the time since the one before. -/
structure Chunk where
  gap : Nat
  octets : Bytes
  deriving DecidableEq, Repr

/-- The course that an answer to a request takes. -/
inductive Response
  /-- The request fails after a while. -/
  | failed (after : Nat) (reason : String)
  /-- Nothing ever comes. -/
  | silent
  | answered (after : Nat) (status : Nat) (chunks : List Chunk) (ending : Ending)
  deriving DecidableEq, Repr

/-- What an eyeball requests. -/
structure Eyeball where
  url : String
  /-- How long a chunk may keep it waiting. -/
  readTimeout : Duration
  /-- After how many lines it hangs up. -/
  earlyStop : Option Nat

structure Watch where
  notice : Notice
  /-- When it is done, and with what result, if ever. -/
  finish : Option (Nat × Except Failure LineReport)

namespace Eyeball

def requestFailed (e : Eyeball) (reason : String) : Failure :=
  .eyeball s!"request to {e.url} failed: {reason}"

def refused (e : Eyeball) (status : Nat) : Failure := .eyeball s!"{e.url} answered {statusText status}"

def starved (e : Eyeball) : Failure := .eyeball s!"no data for {e.readTimeout.spelled} on {e.url}"

/-- Reads a body from `now` on. Returns when it is done and with what result. -/
def readBody (e : Eyeball) (ending : Ending) (now : Nat) (counter : LineCounter) :
    List Chunk → Nat × Except Failure LineReport
  | chunk :: rest =>
    if chunk.gap ≤ e.readTimeout.nanos then
      match counter.feed chunk.octets with
      | (counter, .stop) => (now + chunk.gap, .ok counter.finish)
      | (counter, .more) => readBody e ending (now + chunk.gap) counter rest
    else (now + e.readTimeout.nanos, .error e.starved)
  | [] =>
    match ending with
    | .over gap _ =>
      if gap ≤ e.readTimeout.nanos then (now + gap, .ok counter.finish)
      else (now + e.readTimeout.nanos, .error e.starved)
    | .stall => (now + e.readTimeout.nanos, .error e.starved)

/-- What becomes of the eyeball if it makes its request at `start` and the answer is `response`. -/
def watch (e : Eyeball) (start : Nat) : Response → Watch
  | .failed after reason =>
    ⟨.withdrawn (start + after), some (start + after, .error (e.requestFailed reason))⟩
  | .silent => ⟨.silent, none⟩
  | .answered after status chunks ending =>
    if isSuccessStatus status then
      ⟨.given (start + after), some (e.readBody ending (start + after) { earlyStop := e.earlyStop } chunks)⟩
    else ⟨.withdrawn (start + after), some (start + after, .error (e.refused status))⟩

end Eyeball

namespace Watch

def isFinished (w : Watch) (now : Nat) : Bool := w.finish.any (·.1 ≤ now)

/-- Waits from `now` on for the eyeball, for so long at most. Returns its result, unless it is still
reading by then, and when. -/
def join (w : Watch) (now : Nat) (timeout : Duration) : Option (Except Failure LineReport) × Nat :=
  let deadline := now + timeout.nanos
  match w.finish with
  | some (time, result) => if time ≤ deadline then (some result, max now time) else (none, deadline)
  | none => (none, deadline)

end Watch

end GracefulDrain
