import GracefulDrain.Proofs.Drain.Course
import GracefulDrain.Proofs.Process.Frame
import GracefulDrain.Proofs.Process.Truth

/-! # Invariants of a scenario

All that a scenario does to its process is to carry out operations on it, to probe, to start an eyeball and to
pause. What each of these preserves is preserved by the scenario (`DrainVerifier.preserves_exercise`). That an end is
accounted for is such an invariant, and so is that what is known of the exit is true, in a world whose network does
not undo an end (`World.Truth`). -/

namespace GracefulDrain
variable {ω α : Type} {world : World ω} {R : Supervised ω → Prop}

/-- Each thing that a scenario does to its process preserves `R`. -/
structure World.Invariant (world : World ω) (R : Supervised ω → Prop) : Prop where
  act : ∀ op : Operation, Preserves R (op.act world.toHost)
  probe : ∀ url p, R p → R (p.inWorld (world.probe url p.handle.world).2)
  request : ∀ eyeball p, R p → R (p.inWorld (world.request eyeball p.handle.world).2)
  pause : ∀ wait d p, R p → R (p.inWorld (world.pause wait d p.handle.world))

theorem World.Invariant.isReady {url : String} {ready : Bool} {w after : ω} (inv : world.Invariant R)
    (p : Supervised ω) (before : R (p.inWorld w)) (probed : world.isReady url w = (ready, after)) :
    R (p.inWorld after) := by
  have found : R (p.inWorld (world.probe url w).2) := inv.probe url (p.inWorld w) before
  rwa [show (world.probe url w).2 = after from congrArg Prod.snd probed] at found

namespace Supervised

theorem preserves_callWorld {f : ω → α × ω} (h : ∀ p, R p → R (p.inWorld (f p.handle.world).2)) :
    Preserves R (callWorld f) := by
  intro p before
  rw [wp_callWorld]
  exact h p before

theorem preserves_now : Preserves R (now world) := .get_bind fun _ => .pure _

theorem preserves_timeOut (wait : Wait) (timeout : Duration) : Preserves R (timeOut world wait timeout : Act ω α) :=
  .get_bind fun _ => .throw _

variable (inv : world.Invariant R)
include inv

theorem preserves_pauseUntil (wait : Wait) (time : Nat) : Preserves R (pauseUntil world wait time) :=
  preserves_callWorld fun p before => inv.pause wait _ p before

theorem preserves_joinEyeball (watch : Watch) (timeout : Duration) : Preserves R (joinEyeball world watch timeout) := by
  refine preserves_now.bind fun start => ?_
  rcases watch.join start timeout with ⟨result, time⟩
  refine (preserves_pauseUntil inv .join time).bind fun _ => ?_
  rcases result with _ | failure | report
  · exact preserves_timeOut .join timeout
  · exact .throw _
  · exact .pure _

theorem preserves_openEyeball (eyeball : Eyeball) (timeout : Duration) :
    Preserves R (openEyeball world eyeball timeout) := by
  refine preserves_now.bind fun start => ?_
  refine (preserves_callWorld fun p before => inv.request eyeball p before).bind fun response => ?_
  dsimp only
  rcases (eyeball.watch start response).notice.await start timeout with ⟨answer, time⟩
  refine (preserves_pauseUntil inv .connectionEstablished time).bind fun _ => ?_
  rcases answer with (waited | _) | _
  · exact preserves_timeOut .connectionEstablished waited
  · exact (preserves_joinEyeball inv _ timeout).bind fun _ => .throw _
  · exact .pure _

theorem readyRound_preserves (url : String) (start : Nat) (timeout : Duration) {p : Supervised ω} (before : R p) :
    R (readyRound world url start timeout p).2 := by
  have probed : R (p.inWorld (world.isReady url p.handle.world).2) := inv.isReady p before rfl
  have polled := (inv.act .poll).of_map.run probed
  unfold readyRound
  dsimp only
  split
  · exact probed
  · split <;> rename_i ran <;> rw [ran] at polled
    · exact polled
    · exact polled
    · split <;> exact polled

theorem awaitReadySince_preserves (url : String) (start : Nat) (timeout : Duration) {p : Supervised ω}
    (before : R p) : R (awaitReadySince world url start timeout p).2 := by
  induction p using awaitReadySince.induct world url start timeout with
  | case1 p verdict q round =>
    have decided := readyRound_preserves inv url start timeout before
    rw [round] at decided
    rw [run_awaitReadySince, round]
    exact decided
  | case2 p q round ih =>
    have undecided := readyRound_preserves inv url start timeout before
    rw [round] at undecided
    rw [run_awaitReadySince, round]
    exact ih (inv.pause .readiness probeInterval q undecided)

theorem preserves_awaitReady (url : String) (timeout : Duration) : Preserves R (awaitReady world url timeout) :=
  .of_run fun _ before => awaitReadySince_preserves inv url _ timeout before

theorem awaitNotReadyUntil_preserves (url : String) (deadline : Nat) (p : Supervised ω) (w : ω)
    (before : R (p.inWorld w)) : R (p.inWorld (world.awaitNotReadyUntil url deadline w).2) := by
  induction w using World.awaitNotReadyUntil.induct world url deadline with
  | case1 w after probed =>
    rw [World.run_awaitNotReadyUntil, probed]
    exact inv.isReady p before probed
  | case2 w after probed late =>
    rw [World.run_awaitNotReadyUntil, probed]
    simp only [if_pos late]
    exact inv.isReady p before probed
  | case3 w after probed early ih =>
    rw [World.run_awaitNotReadyUntil, probed]
    simp only [if_neg early]
    exact ih (inv.pause .readiness probeInterval _ (inv.isReady p before probed))

theorem preserves_awaitNotReady (url : String) (timeout : Duration) :
    Preserves R (callWorld (world.awaitNotReady url timeout)) :=
  preserves_callWorld fun p before => awaitNotReadyUntil_preserves inv url _ p p.handle.world before

end Supervised

namespace DrainVerifier
open Supervised

theorem preserves_judge (v : DrainVerifier) (report : DrainReport) : Preserves R (v.judge report) := by
  unfold judge
  cases report.verdict v.settings.strictIdle v.process.gracePeriod with
  | ok => exact .pure _
  | error failure => exact .throw _

variable (inv : world.Invariant R) (v : DrainVerifier)
include inv

theorem preserves_openStream (scenario : Scenario) : Preserves R (v.openStream world scenario) :=
  .ite ((preserves_openEyeball inv _ _).bind fun _ => .pure _) (.pure _)

theorem preserves_refuseEnded (watch : Watch) : Preserves R (v.refuseEnded world watch) :=
  preserves_now.bind fun _ => .ite ((preserves_joinEyeball inv watch _).bind fun _ => .throw _) (.pure _)

theorem preserves_checkInFlight (scenario : Scenario) (watch : Option Watch) :
    Preserves R (v.checkInFlight world scenario watch) := by
  cases watch with
  | some watch => exact .ite (preserves_refuseEnded inv v watch) (.pure _)
  | none => exact .pure _

theorem preserves_joinOpened (scenario : Scenario) (watch : Option Watch) :
    Preserves R (v.joinOpened world scenario watch) := by
  cases watch with
  | some watch => exact (preserves_joinEyeball inv watch _).map some
  | none => exact .pure _

theorem preserves_drain (scenario : Scenario) (signal : TermSignal) (watch : Option Watch) :
    Preserves R (v.drain world scenario signal watch) := by
  refine .get_bind fun _ => preserves_now.bind fun start => ?_
  refine (inv.act (.sendSignal signal)).of_map.bind fun _ => ?_
  refine (preserves_awaitNotReady inv _ _).bind fun found => .ite (.throw _) ?_
  refine (inv.act .awaitTermination).of_map.bind fun outcome => ?_
  refine (preserves_joinOpened inv v scenario watch).bind fun eyeball => ?_
  exact (preserves_elapsedSince start).bind fun elapsed => .get_bind fun _ => .pure _

/-- What is true of a process before a scenario is true after it, however it ends. -/
theorem preserves_exercise (scenario : Scenario) (signal : TermSignal) :
    Preserves R (v.exercise world scenario signal) := by
  refine (preserves_awaitReady inv _ _).bind fun _ => ?_
  refine (preserves_openStream inv v scenario).bind fun watch => ?_
  refine (preserves_checkInFlight inv v scenario watch).bind fun _ => ?_
  exact (preserves_drain inv v scenario signal watch).bind fun report => preserves_judge v report

end DrainVerifier

/-! ### What scenarios preserve -/

/-- What is true of the child in a world. Nothing that the network does, and no time that goes by, undoes an end. -/
structure World.Truth (world : World ω) extends world.toHost.Truth where
  probe : ∀ url, toTruth.Lasts fun w => (world.probe url w).2
  request : ∀ eyeball, toTruth.Lasts fun w => (world.request eyeball w).2
  pause : ∀ wait d, toTruth.Lasts (world.pause wait d)

namespace World
open Supervised

theorem invariant_accounted (world : World ω) : world.Invariant Accounted where
  act op p accounted :=
    wp_mono (act_moves op p) (fun _ _ moves => moves.accounted accounted) fun _ _ h => h.1.accounted accounted
  probe _ _ accounted := accounted
  request _ _ accounted := accounted
  pause _ _ _ accounted := accounted

theorem invariant_keeps (world : World ω) (p : Supervised ω) : world.Invariant p.Keeps where
  act := preserves_act (Supervised.invariant_keeps world.toHost p)
  probe _ _ k := k.trans (.of_handle rfl)
  request _ _ k := k.trans (.of_handle rfl)
  pause _ _ _ k := k.trans (.of_handle rfl)

theorem Truth.invariant (truth : world.Truth) : world.Invariant fun p => truth.Holds p.handle where
  act := preserves_act truth.toTruth.invariant
  probe url _ holds e known := truth.probe url _ e (holds e known)
  request eyeball _ holds e known := truth.request eyeball _ e (holds e known)
  pause wait d _ holds e known := truth.pause wait d _ e (holds e known)

end World

end GracefulDrain
