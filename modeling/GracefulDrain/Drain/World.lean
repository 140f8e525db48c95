import GracefulDrain.Instant
import GracefulDrain.Process.Host
import GracefulDrain.Readiness.Report
import GracefulDrain.Stream.Eyeball
/-!
# Worlds

A host together with the network and the calendar: all that a drain scenario meets. A world may answer in
any way, as long as its clock does not run backwards and a pause lasts as long as it should.
-/

namespace GracefulDrain

structure World (ω : Type) extends Host ω where
  /-- Requests an address for the sake of its status; nothing is returned if no answer comes. -/
  probe : String → ω → Option Answer × ω
  /-- Starts an eyeball; the course of the answer it will get is returned. -/
  request : Eyeball → ω → Response × ω
  /-- Lets time pass, for the sake of the named wait. -/
  pause : Wait → Duration → ω → ω
  calendar : ω → Instant
  le_clock_probe : ∀ url w, clock w ≤ clock (probe url w).2
  le_clock_poll : ∀ w, clock w ≤ clock (poll w).2
  le_clock_pause : ∀ wait d w, clock w + d.nanos ≤ clock (pause wait d w)

namespace World
variable {ω : Type}

/-- Whether the connector at an address says that it takes connections. -/
def isReady (world : World ω) (url : String) (w : ω) : Bool × ω :=
  let (answer, w) := world.probe url w
  (answer.any Answer.isReady, w)

theorem le_clock_isReady (world : World ω) (url : String) (w : ω) :
    world.clock w ≤ world.clock (world.isReady url w).2 := world.le_clock_probe url w

def pauseUntil (world : World ω) (wait : Wait) (time : Nat) (w : ω) : ω :=
  world.pause wait (.between (world.clock w) time) w

end World

end GracefulDrain
