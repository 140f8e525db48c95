import GracefulDrain.Process.Administrative
import GracefulDrain.Proofs.Process.Shutdown

/-! # How an administrative command ends

`Runs` lists the ways in which one run of a command can go, by the answers of the host. Each run goes one of them
(`runs_runToCompletion`), and no run goes two (`Runs.unique`). Only a host that fails a call about the child brings
in a failure that is not one of a query (`Runs.isOfQuery`). -/

namespace GracefulDrain

/-- The failures that a query has in its own right. -/
def Failure.isOfQuery : Failure → Bool
  | .configuration _ | .launch .. | .commandFailed .. | .timeout .query .. | .malformed _ => true
  | _ => false

/-- Some call about a child is answered with `reason`. -/
def Host.Fails {σ : Type} (host : Host σ) (reason : OsError) : Prop :=
  ∃ w w', (∃ timeout, host.await timeout w = (.error reason, w')) ∨ host.poll w = (.error reason, w') ∨
    host.forceKill w = (.refused reason, w') ∨ host.reap w = (.error reason, w')

/-- How the kill of a child goes whose end has not been seen. -/
inductive Killed {σ : Type} (host : Host σ) (w : σ) : Except OsError Unit → σ → Prop
  | ended {e : Exit} {w' : σ} (polled : host.poll w = (.ok (some e), w')) : Killed host w (.ok ()) w'
  | unseen {reason : OsError} {w' : σ} (polled : host.poll w = (.error reason, w')) :
    Killed host w (.error reason) w'
  | refused {reason : OsError} {w₁ w' : σ} (polled : host.poll w = (.ok none, w₁))
    (refused : host.forceKill w₁ = (.refused reason, w')) : Killed host w (.error reason) w'
  | reaped {answer : KillAnswer} {e : Exit} {w₁ w₂ w' : σ} (polled : host.poll w = (.ok none, w₁))
    (killed : host.forceKill w₁ = (answer, w₂)) (granted : ∀ reason, answer ≠ .refused reason)
    (reaped : host.reap w₂ = (.ok e, w')) : Killed host w (.ok ()) w'
  | unreaped {answer : KillAnswer} {reason : OsError} {w₁ w₂ w' : σ} (polled : host.poll w = (.ok none, w₁))
    (killed : host.forceKill w₁ = (answer, w₂)) (granted : ∀ reason, answer ≠ .refused reason)
    (unreaped : host.reap w₂ = (.error reason, w')) : Killed host w (.error reason) w'

/-- How the run of a command goes: with what has been read of its output once the host has settled, if it ends in time
and with exit code 0, or with a failure. -/
inductive Runs {σ : Type} (host : Host σ) (program : String) (args : List String) (timeout : Duration) (w : σ) :
    Except Failure CapturedOutput → σ → Prop
  | unstarted {reason : OsError} {w' : σ} (spawned : host.spawn (program :: args) w = (.error reason, w')) :
    Runs host program args timeout w (.error (.launch program reason)) w'
  | lost {pid : Nat} {reason : OsError} {w₁ w' : σ} (spawned : host.spawn (program :: args) w = (.ok pid, w₁))
    (waited : host.await timeout w₁ = (.error reason, w')) :
    Runs host program args timeout w (.error (.io reason)) (host.forceKill w').2
  | late {pid : Nat} {w₁ w₂ w' : σ} (spawned : host.spawn (program :: args) w = (.ok pid, w₁))
    (waited : host.await timeout w₁ = (.ok none, w₂)) (killed : Killed host w₂ (.ok ()) w') :
    Runs host program args timeout w
      (.error (.timeout .query timeout.millis64 (host.outputSoFar (host.settle w')).combined)) (host.settle w')
  | unkilled {pid : Nat} {reason : OsError} {w₁ w₂ w' : σ}
    (spawned : host.spawn (program :: args) w = (.ok pid, w₁)) (waited : host.await timeout w₁ = (.ok none, w₂))
    (killed : Killed host w₂ (.error reason) w') :
    Runs host program args timeout w (.error (.io reason)) (host.forceKill w').2
  | failed {pid : Nat} {e : Exit} {w₁ w' : σ} (spawned : host.spawn (program :: args) w = (.ok pid, w₁))
    (waited : host.await timeout w₁ = (.ok (some e), w')) (badly : e ≠ .code 0) :
    Runs host program args timeout w
      (.error (.commandFailed program e.codeOrMinusOne (Text.trim (host.outputSoFar (host.settle w')).stderr)))
      (host.settle w')
  | answered {pid : Nat} {w₁ w' : σ} (spawned : host.spawn (program :: args) w = (.ok pid, w₁))
    (waited : host.await timeout w₁ = (.ok (some (.code 0)), w')) :
    Runs host program args timeout w (.ok (host.outputSoFar (host.settle w'))) (host.settle w')

section
variable {σ : Type} {host : Host σ} {program : String} {args : List String} {timeout : Duration} {w w' w'' : σ}

/-- A host answers the same call in the same world alike. -/
theorem Killed.unique {r r' : Except OsError Unit} (h : Killed host w r w') (h' : Killed host w r' w'') :
    r = r' ∧ w' = w'' := by
  cases h <;> cases h' <;> grind

theorem Runs.unique {r r' : Except Failure CapturedOutput} (h : Runs host program args timeout w r w')
    (h' : Runs host program args timeout w r' w'') : r = r' ∧ w' = w'' := by
  cases h <;> cases h' <;> grind [Killed.unique]

theorem Killed.fails {reason : OsError} (h : Killed host w (.error reason) w') : host.Fails reason := by
  cases h with
  | unseen polled => exact ⟨_, _, .inr (.inl polled)⟩
  | refused _ refused => exact ⟨_, _, .inr (.inr (.inl refused))⟩
  | unreaped _ _ _ unreaped => exact ⟨_, _, .inr (.inr (.inr unreaped))⟩

theorem Runs.isOfQuery {f : Failure} (h : Runs host program args timeout w (.error f) w') :
    f.isOfQuery ∨ ∃ reason, f = .io reason ∧ host.Fails reason := by
  cases h with
  | unstarted | late | failed => exact .inl rfl
  | lost _ waited => exact .inr ⟨_, rfl, _, _, .inl ⟨_, waited⟩⟩
  | unkilled _ _ killed => exact .inr ⟨_, rfl, killed.fails⟩

/-! ### Each run goes one of the ways -/

namespace Handle
variable {h : Handle σ} {Q : Exit → Handle σ → Prop} {E : Failure → Handle σ → Prop}

theorem wp_kill_of_unseen (unseen : h.exit = none)
    (killed : ∀ e w', Killed host h.world (.ok ()) w' → Q e { h with world := w', exit := some e })
    (failed : ∀ reason w', Killed host h.world (.error reason) w' → E (.io reason) { h with world := w' }) :
    wp (kill host) Q E h := by
  simp only [kill, wp_bind]
  refine wp_poll (fun e known => ?_) (fun _ e w₁ polled => killed e w₁ (.ended polled)) (fun _ w₁ polled => ?_)
    fun _ reason w₁ polled => failed reason w₁ (.unseen polled)
  · rw [unseen] at known
    cases known
  · rcases answered : host.forceKill w₁ with ⟨answer, w₂⟩
    cases answer with
    | refused reason => simpa [answered] using failed reason w₂ (.refused polled answered)
    | sent | gone =>
      rcases reaped : host.reap w₂ with ⟨reason | e, w₃⟩
      · simpa [answered, reaped, unseen] using failed reason w₃ (.unreaped polled answered (by simp) reaped)
      · simpa [answered, reaped] using killed e w₃ (.reaped polled answered (by simp) reaped)

theorem wp_drained {Q : CapturedOutput → Handle σ → Prop} (untaken : h.takenOut = 0 ∧ h.takenErr = 0) :
    wp (drained host) Q E h = Q (host.outputSoFar (host.settle h.world)) (h.drain host).2 := by
  rw [← show (h.drain host).2.world = host.settle h.world from rfl, ← drain_of_untaken untaken]
  rfl

end Handle

/-- A run goes one of the ways, and an answer says how long the command took with all that belongs to it. -/
theorem runToCompletion_goes (host : Host σ) (program : String) (args : List String) (timeout : Duration) (w : σ) :
    let run := runToCompletion host (program :: args) timeout w
    Runs host program args timeout w (run.1.map CommandOutput.output) run.2 ∧
      ∀ answer, run.1 = .ok answer →
        answer = ⟨answer.output, 0, (Duration.between (host.clock w) (host.clock run.2)).millis64⟩ := by
  unfold runToCompletion Handle.start
  rcases spawned : host.spawn (program :: args) w with ⟨reason | pid, w₁⟩
  · exact ⟨.unstarted spawned, fun _ => nofun⟩
  · let Ends (r : Except Failure CommandOutput) (h : Handle σ) : Prop :=
      Runs host program args timeout w (r.map CommandOutput.output) (h.abandon host) ∧
        ∀ answer, r = .ok answer →
          answer = ⟨answer.output, 0, (Duration.between (host.clock w) (host.clock (h.abandon host))).millis64⟩
    suffices h : wp (Handle.finish host timeout (host.clock w)) (fun a => Ends (.ok a)) (fun f => Ends (.error f))
        { program, pid, world := w₁ } from of_wp h
    rw [Handle.finish, wp_bind, wp_observing]
    refine Handle.wp_waitFor (by simp) ?_ ?_ ?_
    · intro _ e w₂ waited
      rw [wp_bind, Handle.wp_drained ⟨rfl, rfl⟩]
      by_cases well : e = .code 0
      · subst well
        refine ⟨.answered spawned waited, ?_⟩
        rintro _ ⟨⟩
        rfl
      · rw [if_neg (by simpa [Exit.isSuccess] using well)]
        exact ⟨.failed spawned waited well, fun _ => nofun⟩
    · intro _ w₂ text waited
      rw [Failure.timedOut]
      simp only [wp_bind]
      refine Handle.wp_kill_of_unseen rfl (fun e w₃ killed => ?_) fun reason w₃ killed =>
        ⟨.unkilled spawned waited killed, fun _ => nofun⟩
      rw [wp_bind, Handle.wp_drained ⟨rfl, rfl⟩]
      exact ⟨.late spawned waited killed, fun _ => nofun⟩
    · intro _ reason w₂ waited
      exact ⟨.lost spawned waited, fun _ => nofun⟩

theorem runs_runToCompletion (host : Host σ) (program : String) (args : List String) (timeout : Duration) (w : σ) :
    Runs host program args timeout w
      ((runToCompletion host (program :: args) timeout w).1.map CommandOutput.output)
      (runToCompletion host (program :: args) timeout w).2 :=
  (runToCompletion_goes host program args timeout w).1

/-- What is told of how a run goes, the run does. -/
theorem Runs.run {r : Except Failure CapturedOutput} (h : Runs host program args timeout w r w') :
    ∃ answer, runToCompletion host (program :: args) timeout w = (answer, w') ∧
      answer.map CommandOutput.output = r := by
  obtain ⟨same, world⟩ := (runs_runToCompletion host program args timeout w).unique h
  exact ⟨_, Prod.ext rfl world, same⟩

end

/-! ### Commands that are taken down -/

/-- A world with the command lines that were to be started, the first one first. -/
structure Logged (σ : Type) where
  world : σ
  commands : List (List String) := []

def Logged.call {σ α : Type} (f : σ → α × σ) (l : Logged σ) : α × Logged σ :=
  ((f l.world).1, { l with world := (f l.world).2 })

/-- The host that takes down each command line it is to start. -/
def Host.logged {σ : Type} (host : Host σ) : Host (Logged σ) where
  clock l := host.clock l.world
  spawn line l := ((host.spawn line l.world).1, ⟨(host.spawn line l.world).2, l.commands ++ [line]⟩)
  poll := Logged.call host.poll
  signal signal := Logged.call (host.signal signal)
  await timeout := Logged.call (host.await timeout)
  forceKill := Logged.call host.forceKill
  reap := Logged.call host.reap
  settle l := { l with world := host.settle l.world }
  output stream l := host.output stream l.world

section
variable {σ α : Type} {host : Host σ} {program : String} {args : List String} {timeout : Duration} {w w' : σ}
  (lines : List (List String))

theorem Logged.call_eq {f : σ → α × σ} {a : α} (h : f w = (a, w')) :
    Logged.call f ⟨w, lines⟩ = (a, ⟨w', lines⟩) := by
  simp only [Logged.call, h]

theorem Killed.logged {r : Except OsError Unit} (h : Killed host w r w') :
    Killed host.logged ⟨w, lines⟩ r ⟨w', lines⟩ := by
  cases h with
  | ended polled => exact .ended (Logged.call_eq lines polled)
  | unseen polled => exact .unseen (Logged.call_eq lines polled)
  | refused polled refused => exact .refused (Logged.call_eq lines polled) (Logged.call_eq lines refused)
  | reaped polled killed granted reaped =>
    exact .reaped (Logged.call_eq lines polled) (Logged.call_eq lines killed) granted (Logged.call_eq lines reaped)
  | unreaped polled killed granted unreaped =>
    exact .unreaped (Logged.call_eq lines polled) (Logged.call_eq lines killed) granted
      (Logged.call_eq lines unreaped)

/-- A run takes its own command line down, and nothing else changes. -/
theorem Runs.logged {r : Except Failure CapturedOutput} (h : Runs host program args timeout w r w') :
    Runs host.logged program args timeout ⟨w, lines⟩ r ⟨w', lines ++ [program :: args]⟩ := by
  have start {answer : Except OsError Nat} {w₁ : σ} (spawned : host.spawn (program :: args) w = (answer, w₁)) :
      host.logged.spawn (program :: args) ⟨w, lines⟩ = (answer, ⟨w₁, lines ++ [program :: args]⟩) := by
    simp only [Host.logged, spawned]
  cases h with
  | unstarted spawned => exact .unstarted (start spawned)
  | lost spawned waited => exact .lost (start spawned) (Logged.call_eq _ waited)
  | late spawned waited killed =>
    have late := Runs.late (start spawned) (Logged.call_eq _ waited) (killed.logged _)
    exact late
  | unkilled spawned waited killed => exact .unkilled (start spawned) (Logged.call_eq _ waited) (killed.logged _)
  | failed spawned waited badly =>
    have failed := Runs.failed (start spawned) (Logged.call_eq _ waited) badly
    exact failed
  | answered spawned waited =>
    have answered := Runs.answered (start spawned) (Logged.call_eq _ waited)
    exact answered

end

end GracefulDrain
