/-!
# Lifecycle of a supervised process

A process moves forward through six states and never leaves `terminated` or `killed`. Any later state may
be entered directly, since a process can die at any time.
-/

namespace GracefulDrain

inductive Lifecycle
  | starting
  | running
  | signalSent
  | draining
  | terminated
  | killed
  deriving DecidableEq, Repr

namespace Lifecycle

/-- The place of the state in the order of a life. -/
def rank : Lifecycle → Nat
  | .starting => 0
  | .running => 1
  | .signalSent => 2
  | .draining => 3
  | .terminated => 4
  | .killed => 5

/-- Whether the process has ended, on its own or by force. -/
def isTerminal : Lifecycle → Bool
  | .terminated | .killed => true
  | _ => false

def name : Lifecycle → String
  | .starting => "starting"
  | .running => "running"
  | .signalSent => "signal_sent"
  | .draining => "draining"
  | .terminated => "terminated"
  | .killed => "killed"

instance : ToString Lifecycle := ⟨name⟩

/-- Whether `next` may follow `s`. -/
def canBecome (s next : Lifecycle) : Bool := !s.isTerminal && s.rank < next.rank

structure IllegalMove where
  source : Lifecycle
  target : Lifecycle
  deriving DecidableEq, Repr

def IllegalMove.message (e : IllegalMove) : String :=
  s!"Illegal lifecycle transition: {e.source} -> {e.target}"

def become (s next : Lifecycle) : Except IllegalMove Lifecycle :=
  if s.canBecome next then .ok next else .error ⟨s, next⟩

end Lifecycle

end GracefulDrain
