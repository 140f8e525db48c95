import GracefulDrain.Drain.Verify
import GracefulDrain.Proofs.Process.Mirror

/-! # Worlds that show another world

What is true of hosts is true of worlds: where one world shows another, a scenario does under the one what it
does under the other, as far as that is seen (`DrainVerifier.conduct_seen`). -/

namespace GracefulDrain
variable {τ ω α : Type} {view : τ → ω} {full : World τ} {world : World ω}

/-- Whoever sees just `view` of its state takes `full` for `world`. -/
structure World.Shows (full : World τ) (view : τ → ω) (world : World ω) : Prop where
  host : full.toHost.Shows view world.toHost
  probe : ∀ url, CallShows view (full.probe url) (world.probe url)
  request : ∀ eyeball, CallShows view (full.request eyeball) (world.request eyeball)
  pause : ∀ wait d w, world.pause wait d (view w) = view (full.pause wait d w)
  calendar : ∀ w, world.calendar (view w) = full.calendar w

namespace World

theorem run_awaitNotReadyUntil (world : World ω) (url : String) (deadline : Nat) (w : ω) :
    world.awaitNotReadyUntil url deadline w =
      match world.isReady url w with
      | (false, after) => (true, after)
      | (true, after) =>
        if deadline ≤ world.clock after then (false, after)
        else world.awaitNotReadyUntil url deadline (world.pause .readiness probeInterval after) := by
  rw [awaitNotReadyUntil]
  split <;> rename_i h <;> rw [h]

/-- A connector that is not ready by the first probe is not waited for. -/
theorem awaitNotReady_of_not_isReady {url : String} {timeout : Duration} {w after : ω}
    (unready : world.isReady url w = (false, after)) : world.awaitNotReady url timeout w = (true, after) := by
  unfold awaitNotReady
  rw [run_awaitNotReadyUntil, unready]

namespace Shows
variable (same : full.Shows view world)
include same

theorem isReady_shows (url : String) : CallShows view (full.isReady url) (world.isReady url) := by
  intro w
  unfold isReady
  rw [same.probe url w]

theorem pauseUntil_seen (wait : Wait) (time : Nat) (w : τ) :
    world.pauseUntil wait time (view w) = view (full.pauseUntil wait time w) := by
  unfold pauseUntil
  rw [same.host.clock, same.pause]

theorem awaitNotReadyUntil_shows (url : String) (deadline : Nat) :
    CallShows view (full.awaitNotReadyUntil url deadline) (world.awaitNotReadyUntil url deadline) := by
  intro w
  induction w using awaitNotReadyUntil.induct full url deadline with
  | case1 w after probed =>
    have seen : world.isReady url (view w) = (false, view after) := by rw [same.isReady_shows url w, probed]
    rw [run_awaitNotReadyUntil, run_awaitNotReadyUntil, probed, seen]
  | case2 w after probed late =>
    have seen : world.isReady url (view w) = (true, view after) := by rw [same.isReady_shows url w, probed]
    rw [run_awaitNotReadyUntil, run_awaitNotReadyUntil, probed, seen]
    simp only [same.host.clock, if_pos late]
  | case3 w after probed early ih =>
    have seen : world.isReady url (view w) = (true, view after) := by rw [same.isReady_shows url w, probed]
    rw [run_awaitNotReadyUntil full, run_awaitNotReadyUntil world, probed, seen]
    simp only [same.host.clock, if_neg early, same.pause]
    exact ih

theorem awaitNotReady_shows (url : String) (timeout : Duration) :
    CallShows view (full.awaitNotReady url timeout) (world.awaitNotReady url timeout) := by
  intro w
  unfold awaitNotReady
  rw [same.host.clock]
  exact same.awaitNotReadyUntil_shows url _ w

end Shows
end World

namespace Supervised
variable {p : Supervised τ}

theorem run_awaitReadySince (world : World ω) (url : String) (start : Nat) (timeout : Duration)
    (p : Supervised ω) :
    awaitReadySince world url start timeout p =
      match readyRound world url start timeout p with
      | (some verdict, p) => (verdict, p)
      | (none, q) =>
        awaitReadySince world url start timeout
          (q.inWorld (world.pause .readiness probeInterval q.handle.world)) := by
  rw [awaitReadySince]
  split <;> rename_i h <;> rw [h]

/-- A connector that is ready by the first probe is not waited for. -/
theorem run_awaitReady_of_isReady {url : String} {timeout : Duration} {p : Supervised ω} {w : ω}
    (ready : world.isReady url p.handle.world = (true, w)) :
    (awaitReady world url timeout).run.run p = (.ok (), p.inWorld w) := by
  have round : readyRound world url (world.clock p.handle.world) timeout p = (some (.ok ()), p.inWorld w) := by
    rw [readyRound, ready]
    rfl
  show awaitReadySince world url (world.clock p.handle.world) timeout p = (.ok (), p.inWorld w)
  rw [run_awaitReadySince, round]

theorem mirrors_callWorld {f : τ → α × τ} {g : ω → α × ω} (shows : CallShows view f g) (p : Supervised τ) :
    Mirrors (seen view) (callWorld f) (callWorld g) p :=
  mirrors_viaHandle (Handle.mirrors_call shows p.handle)

variable (same : full.Shows view world)
include same

theorem mirrors_now (p : Supervised τ) : Mirrors (seen view) (now full) (now world) p := by
  refine .get_bind ?_
  rw [clock_seen same.host]
  exact .pure _

theorem mirrors_pauseUntil (wait : Wait) (time : Nat) (p : Supervised τ) :
    Mirrors (seen view) (pauseUntil full wait time) (pauseUntil world wait time) p := by
  have shows : CallShows view (fun w => ((), full.pauseUntil wait time w))
      (fun w => ((), world.pauseUntil wait time w)) :=
    fun w => Prod.ext rfl (same.pauseUntil_seen wait time w)
  exact mirrors_callWorld shows p

theorem mirrors_timeOut (wait : Wait) (timeout : Duration) (p : Supervised τ) :
    Mirrors (seen view) (timeOut full wait timeout : Act τ α) (timeOut world wait timeout) p := by
  refine .get_bind ?_
  rw [show (p.seen view).handle = p.handle.seen view from rfl, Handle.snapshot_seen same.host]
  exact .throw _

theorem mirrors_joinEyeball (watch : Watch) (timeout : Duration) (p : Supervised τ) :
    Mirrors (seen view) (joinEyeball full watch timeout) (joinEyeball world watch timeout) p := by
  refine (mirrors_now same p).bind fun start p => ?_
  rcases watch.join start timeout with ⟨result, time⟩
  refine (mirrors_pauseUntil same .join time p).bind fun _ p => ?_
  rcases result with _ | failure | report
  · exact mirrors_timeOut same .join timeout p
  · exact .throw _
  · exact .pure _

theorem mirrors_openEyeball (eyeball : Eyeball) (timeout : Duration) (p : Supervised τ) :
    Mirrors (seen view) (openEyeball full eyeball timeout) (openEyeball world eyeball timeout) p := by
  refine (mirrors_now same p).bind fun start p => ?_
  refine (mirrors_callWorld (same.request eyeball) p).bind fun response p => ?_
  dsimp only
  rcases (eyeball.watch start response).notice.await start timeout with ⟨answer, time⟩
  refine (mirrors_pauseUntil same .connectionEstablished time p).bind fun _ p => ?_
  -- the notice may be late, or given up by an eyeball that is then joined, or given
  rcases answer with (waited | _) | _
  · exact mirrors_timeOut same .connectionEstablished waited p
  · exact (mirrors_joinEyeball same _ timeout p).bind fun _ p => .throw _
  · exact .pure _

theorem endedWith_seen (code : Option Int) (p : Supervised τ) :
    (p.seen view).endedWith world.toHost code = p.endedWith full.toHost code := by
  have text : (p.seen view).handle.snapshot world.toHost .stderr = p.handle.snapshot full.toHost .stderr :=
    Handle.snapshot_seen same.host p.handle .stderr
  unfold endedWith
  rw [text]
  rfl

theorem readyRound_seen (url : String) (start : Nat) (timeout : Duration) (p : Supervised τ) :
    readyRound world url start timeout (p.seen view) =
      ((readyRound full url start timeout p).1, (readyRound full url start timeout p).2.seen view) := by
  rcases probed : full.isReady url p.handle.world with ⟨ready, w⟩
  have seen : world.isReady url (p.seen view).handle.world = (ready, view w) := by
    rw [show (p.seen view).handle.world = view p.handle.world from rfl, same.isReady_shows url, probed]
  have inWorld : (p.seen view).inWorld (view w) = (p.inWorld w).seen view := rfl
  unfold readyRound
  simp only [probed, seen, inWorld]
  cases ready with
  | true => rfl
  | false =>
    have polled := mirrors_poll same.host (p.inWorld w)
    unfold Mirrors at polled
    simp only [polled, Bool.false_eq_true, if_false]
    rcases (poll full.toHost).run.run (p.inWorld w) with ⟨failure | _ | code, q⟩
    · rfl
    · have text : (q.seen view).handle.snapshot world.toHost .stderr = q.handle.snapshot full.toHost .stderr :=
        Handle.snapshot_seen same.host q.handle .stderr
      simp only [clock_seen same.host, text]
      split <;> rfl
    · simp only [endedWith_seen same code q]

theorem awaitReadySince_seen (url : String) (start : Nat) (timeout : Duration) (p : Supervised τ) :
    awaitReadySince world url start timeout (p.seen view) =
      ((awaitReadySince full url start timeout p).1, (awaitReadySince full url start timeout p).2.seen view) := by
  induction p using awaitReadySince.induct full url start timeout with
  | case1 p verdict q round =>
    have seen : readyRound world url start timeout (p.seen view) = (some verdict, q.seen view) := by
      rw [readyRound_seen same, round]
    rw [run_awaitReadySince, run_awaitReadySince, round, seen]
  | case2 p q round ih =>
    have seen : readyRound world url start timeout (p.seen view) = (none, q.seen view) := by
      rw [readyRound_seen same, round]
    rw [run_awaitReadySince world, run_awaitReadySince full, round, seen]
    have paused : (q.seen view).inWorld (world.pause .readiness probeInterval (q.seen view).handle.world) =
        (q.inWorld (full.pause .readiness probeInterval q.handle.world)).seen view :=
      congrArg (q.seen view).inWorld (same.pause .readiness probeInterval q.handle.world)
    simp only [paused]
    exact ih

theorem mirrors_awaitReady (url : String) (timeout : Duration) (p : Supervised τ) :
    Mirrors (seen view) (awaitReady full url timeout) (awaitReady world url timeout) p := by
  show awaitReadySince world url (world.clock (p.seen view).handle.world) timeout (p.seen view) =
    ((awaitReadySince full url (full.clock p.handle.world) timeout p).1,
      (awaitReadySince full url (full.clock p.handle.world) timeout p).2.seen view)
  rw [clock_seen same.host, awaitReadySince_seen same]

end Supervised

namespace DrainVerifier
open Supervised
variable (same : full.Shows view world) (v : DrainVerifier)
include same

theorem mirrors_openStream (scenario : Scenario) (p : Supervised τ) :
    Mirrors (seen view) (v.openStream full scenario) (v.openStream world scenario) p := by
  refine .ite ?_ (.pure _)
  exact (mirrors_openEyeball same _ _ p).bind fun watch _ => .pure _

theorem mirrors_refuseEnded (watch : Watch) (p : Supervised τ) :
    Mirrors (seen view) (v.refuseEnded full watch) (v.refuseEnded world watch) p := by
  refine (mirrors_now same p).bind fun now p => .ite ?_ (.pure _)
  exact (mirrors_joinEyeball same watch _ p).bind fun report _ => .throw _

theorem mirrors_checkInFlight (scenario : Scenario) (watch : Option Watch) (p : Supervised τ) :
    Mirrors (seen view) (v.checkInFlight full scenario watch) (v.checkInFlight world scenario watch) p := by
  cases watch with
  | some watch => exact .ite (mirrors_refuseEnded same v watch p) (.pure _)
  | none => exact .pure _

theorem mirrors_joinOpened (scenario : Scenario) (watch : Option Watch) (p : Supervised τ) :
    Mirrors (seen view) (v.joinOpened full scenario watch) (v.joinOpened world scenario watch) p := by
  cases watch with
  | some watch => exact (mirrors_joinEyeball same watch _ p).map some
  | none => exact .pure _

theorem mirrors_drain (scenario : Scenario) (signal : TermSignal) (watch : Option Watch) (p : Supervised τ) :
    Mirrors (seen view) (v.drain full scenario signal watch) (v.drain world scenario signal watch) p := by
  have calendar (p : Supervised τ) : world.calendar (p.seen view).handle.world = full.calendar p.handle.world :=
    same.calendar p.handle.world
  refine .get_bind ?_
  rw [calendar]
  refine (mirrors_now same p).bind fun start p => ?_
  refine (mirrors_sendSignal same.host p signal).bind fun _ p => ?_
  refine (mirrors_callWorld (same.awaitNotReady_shows _ _) p).bind fun found p => .ite (.throw _) ?_
  refine (mirrors_awaitTermination same.host p).bind fun outcome p => ?_
  refine (mirrors_joinOpened same v scenario watch p).bind fun eyeball p => ?_
  refine (mirrors_elapsedSince same.host p start).bind fun elapsed p => .get_bind ?_
  rw [calendar]
  exact .pure _

omit same in
theorem mirrors_judge (report : DrainReport) (p : Supervised τ) :
    Mirrors (seen view) (v.judge report) (v.judge report) p := by
  unfold judge
  cases report.verdict v.settings.strictIdle v.process.gracePeriod with
  | ok => exact .pure _
  | error failure => exact .throw _

theorem mirrors_exercise (scenario : Scenario) (signal : TermSignal) (p : Supervised τ) :
    Mirrors (seen view) (v.exercise full scenario signal) (v.exercise world scenario signal) p := by
  refine (mirrors_awaitReady same _ _ p).bind fun _ p => ?_
  refine (mirrors_openStream same v scenario p).bind fun watch p => ?_
  refine (mirrors_checkInFlight same v scenario watch p).bind fun _ p => ?_
  exact (mirrors_drain same v scenario signal watch p).bind fun report p => mirrors_judge v report p

theorem conduct_seen (scenario : Scenario) (signal : TermSignal) (p : Supervised τ) :
    v.conduct world scenario signal (p.seen view) =
      ((v.conduct full scenario signal p).1, (v.conduct full scenario signal p).2.seen view) := by
  have exercised := mirrors_exercise same v scenario signal p
  unfold Mirrors at exercised
  unfold conduct
  simp only [exercised, shutdown_seen same.host]
  rfl

end DrainVerifier

end GracefulDrain
