import GracefulDrain.Drain.Settings
import GracefulDrain.Drain.World
import GracefulDrain.Process.Supervised
/-!
# Waiting for readiness

Probes are repeated until a connector says that it takes connections, or that it no longer does. Each
round of a wait looks for a decisive event in a fixed order. As every pause moves the clock, a wait ends.
-/

namespace GracefulDrain

def probeInterval : Duration := .ofMillis 200

namespace Supervised
variable {ω : Type}

/-- The process in another state of its world. -/
def inWorld (p : Supervised ω) (w : ω) : Supervised ω := { p with handle := { p.handle with world := w } }

theorem clock_le_run_poll (world : World ω) (p : Supervised ω) :
    world.clock p.handle.world ≤ world.clock ((poll world.toHost).run.run p).2.handle.world := by
  have handled : world.clock p.handle.world ≤
      world.clock ((Handle.poll world.toHost).run.run p.handle).2.world := by
    rw [Handle.run_poll]
    split
    · exact Nat.le_refl _
    · have := world.le_clock_poll p.handle.world
      split <;> simp_all
  rw [run_poll]
  split <;> simp_all
  · split
    · exact handled
    · split <;> exact handled

/-- The failure of a wait during which the process has ended. -/
def endedWith (host : Host ω) (p : Supervised ω) (code : Option Int) : Failure :=
  .commandFailed (p.argv.headD "") (code.getD (-1)) (Text.trim (p.handle.snapshot host .stderr))

/-- What one round of the wait for readiness decides, if it is decisive: a ready probe goes before an exit,
and an exit before the end of the time. -/
def readyRound (world : World ω) (url : String) (start : Nat) (timeout : Duration) (p : Supervised ω) :
    Option (Except Failure Unit) × Supervised ω :=
  let probed := world.isReady url p.handle.world
  let p := p.inWorld probed.2
  if probed.1 then (some (.ok ()), p)
  else
    match (poll world.toHost).run.run p with
    | (.error failure, p) => (some (.error failure), p)
    | (.ok (some code), p) => (some (.error (p.endedWith world.toHost code)), p)
    | (.ok none, p) =>
      let elapsed := world.clock p.handle.world - start
      if timeout.nanos ≤ elapsed then
        (some (.error (.timedOut .readiness (.saturate elapsed) (p.handle.snapshot world.toHost .stderr))), p)
      else (none, p)

theorem clock_lt_of_readyRound {world : World ω} {url : String} {start : Nat} {timeout : Duration}
    {p q : Supervised ω} (h : readyRound world url start timeout p = (none, q)) :
    world.clock p.handle.world ≤ world.clock q.handle.world ∧
      world.clock q.handle.world < start + timeout.nanos := by
  have probe := world.le_clock_isReady url p.handle.world
  have poll := clock_le_run_poll world (p.inWorld (world.isReady url p.handle.world).2)
  simp only [readyRound] at h
  split at h
  · simp at h
  · split at h
    · simp at h
    · simp at h
    · rename_i hp
      rw [hp] at poll
      split at h
      · simp at h
      · obtain ⟨-, rfl⟩ := Prod.mk.inj h
        exact ⟨Nat.le_trans probe poll, by omega⟩

/-- Waits until the connector at `url` is ready, for so long at most since `start`. -/
def awaitReadySince (world : World ω) (url : String) (start : Nat) (timeout : Duration) (p : Supervised ω) :
    Except Failure Unit × Supervised ω :=
  match _h : readyRound world url start timeout p with
  | (some verdict, p) => (verdict, p)
  | (none, q) =>
    awaitReadySince world url start timeout
      (q.inWorld (world.pause .readiness probeInterval q.handle.world))
termination_by start + timeout.nanos - world.clock p.handle.world
decreasing_by
  have round := clock_lt_of_readyRound _h
  have pause := world.le_clock_pause .readiness probeInterval q.handle.world
  have pos : 0 < probeInterval.nanos := by decide
  show start + timeout.nanos - world.clock (world.pause .readiness probeInterval q.handle.world) < _
  omega

def awaitReady (world : World ω) (url : String) (timeout : Duration) : Act ω Unit :=
  ExceptT.mk <| modifyGet fun p =>
    awaitReadySince world url (world.clock p.handle.world) timeout p

end Supervised

namespace World
variable {ω : Type}

/-- Waits until the connector at `url` is no longer ready, up to `deadline`. Probes at least once; returns
whether a probe found it not ready. -/
def awaitNotReadyUntil (world : World ω) (url : String) (deadline : Nat) (w : ω) : Bool × ω :=
  match _h : world.isReady url w with
  | (false, after) => (true, after)
  | (true, after) =>
    if deadline ≤ world.clock after then (false, after)
    else awaitNotReadyUntil world url deadline (world.pause .readiness probeInterval after)
termination_by deadline - world.clock w
decreasing_by
  have probe := world.le_clock_isReady url w
  simp only [_h] at probe
  have pause := world.le_clock_pause .readiness probeInterval after
  have pos : 0 < probeInterval.nanos := by decide
  omega

/-- The same up to `timeout` from now. The clock has no last moment, so every timeout has its deadline. The clock of the
program has one, and the program breaks off, without any result, at a timeout that goes beyond it. -/
def awaitNotReady (world : World ω) (url : String) (timeout : Duration) (w : ω) : Bool × ω :=
  world.awaitNotReadyUntil url (world.clock w + timeout.nanos) w

end World

end GracefulDrain
