import GracefulDrain.Proofs.Drain.Course
import GracefulDrain.Proofs.Stream.Reading

/-! # What the acts of a scenario fail with

The acts that deal with a process alone have failures of their own (`Failure.isOfProcess`). An eyeball fails in three
ways (`Eyeball.FailsWith`), and whoever waits for it can run out of time. -/

namespace GracefulDrain

/-- The failures of acts that deal with a process alone. -/
def Failure.isOfProcess : Failure → Bool
  | .io _ | .notRunning .. | .timeout .. | .commandFailed .. => true
  | _ => false

section
variable {τ α : Type} {s : τ} {P P' : Failure → Prop}

/-- Whatever `act` fails with is as `P` says. -/
def FailsOnly (P : Failure → Prop) (act : ExceptT Failure (StateM τ) α) : Prop :=
  ∀ s, wp act (fun _ _ => True) (fun failure _ => P failure) s

/-- An act that fails only as those that deal with a process alone. -/
abbrev OfProcess (act : ExceptT Failure (StateM τ) α) : Prop := FailsOnly (·.isOfProcess = true) act

theorem FailsOnly.mono {act : ExceptT Failure (StateM τ) α} (h : FailsOnly P act)
    (weaker : ∀ failure, P failure → P' failure) : FailsOnly P' act :=
  fun s => wp_mono (h s) (fun _ _ _ => trivial) fun failure _ => weaker failure

/-- An act is followed by another from where it has succeeded. -/
theorem FailsOnly.wp {act : ExceptT Failure (StateM τ) α} {Q : α → τ → Prop} {E : Failure → τ → Prop}
    (h : FailsOnly P act) (ok : ∀ a t, act.run.run s = (.ok a, t) → Q a t)
    (failed : ∀ failure t, P failure → E failure t) : GracefulDrain.wp act Q E s := by
  have ends := h s
  unfold GracefulDrain.wp at ends ⊢
  rcases ran : act.run.run s with ⟨failure | a, t⟩
  · rw [ran] at ends
    exact failed failure t ends
  · exact ok a t ran

end

/-! ### Acts of a process -/

namespace Handle
variable {σ : Type} {host : Host σ}

theorem poll_ofProcess : OfProcess (poll host) := fun _ =>
  wp_poll (fun _ _ => trivial) (fun _ _ _ _ => trivial) (fun _ _ _ => trivial) fun _ _ _ _ => rfl

theorem sendSignal_ofProcess (signal : TermSignal) : OfProcess (sendSignal host signal) := fun _ =>
  wp_sendSignal (fun _ _ => rfl) (fun _ _ _ _ => rfl) (fun _ _ _ _ => rfl) (fun _ _ _ _ _ => trivial)
    fun _ _ _ _ _ _ => rfl

theorem waitFor_ofProcess (timeout : Duration) (wait : Wait) : OfProcess (waitFor host timeout wait) := fun _ =>
  wp_waitFor (fun _ _ => trivial) (fun _ _ _ _ => trivial) (fun _ _ _ _ => rfl) fun _ _ _ _ => rfl

theorem kill_ofProcess : OfProcess (kill host) := fun _ =>
  wp_kill (fun _ _ => trivial) (fun _ _ _ _ => trivial) (fun _ _ _ _ => rfl) (fun _ _ _ _ _ _ => rfl)
    (fun _ _ _ _ _ _ _ _ _ => trivial) fun _ _ _ _ _ _ _ _ _ => rfl

end Handle

namespace Supervised
variable {σ : Type} {host : Host σ}

theorem poll_ofProcess : OfProcess (poll host) := by
  intro p
  rw [wp_poll]
  exact wp_mono (Handle.poll_ofProcess p.handle) (fun _ _ _ => trivial) fun _ _ h => h

theorem sendSignal_ofProcess (signal : TermSignal) : OfProcess (sendSignal host signal) := by
  intro p
  cases live : p.state.isTerminal with
  | true =>
    rw [wp_sendSignal_of_isTerminal live]
    rfl
  | false =>
    rw [wp_sendSignal live]
    refine wp_mono (poll_ofProcess p) (fun r q _ => ?_) fun _ _ h => h
    split
    · rfl
    · exact wp_mono (Handle.sendSignal_ofProcess signal q.handle) (fun _ _ _ => trivial) fun _ _ h => h

theorem awaitTermination_ofProcess : OfProcess (awaitTermination host) := by
  intro p
  cases live : p.state.isTerminal with
  | true =>
    rw [wp_awaitTermination_of_isTerminal live]
    rfl
  | false =>
    rw [wp_awaitTermination live]
    refine wp_mono (Handle.waitFor_ofProcess _ _ p.handle) (fun _ _ _ => trivial) fun failure h fine => ?_
    split
    · exact wp_mono (Handle.kill_ofProcess h) (fun _ _ _ => trivial) fun _ _ h => h
    · exact fine

end Supervised

/-! ### Waits for readiness -/

namespace Supervised
variable {ω : Type} {world : World ω} {url : String} {start : Nat} {timeout : Duration} {p : Supervised ω}

theorem isOfProcess_of_readyRound {failure : Failure}
    (failed : (readyRound world url start timeout p).1 = some (.error failure)) : failure.isOfProcess = true := by
  unfold readyRound at failed
  dsimp only at failed
  split at failed
  · cases failed
  split at failed
  · rename_i polled
    cases failed
    exact error_of_wp (poll_ofProcess _) (by rw [polled])
  · cases failed
    rfl
  · split at failed
    · cases failed
      rfl
    · cases failed

theorem isOfProcess_of_awaitReadySince {failure : Failure}
    (failed : (awaitReadySince world url start timeout p).1 = .error failure) : failure.isOfProcess = true := by
  induction p using awaitReadySince.induct world url start timeout with
  | case1 p verdict q round =>
    rw [run_awaitReadySince, round] at failed
    exact isOfProcess_of_readyRound (p := p) (by rw [round]; exact congrArg some failed)
  | case2 p q round ih =>
    rw [run_awaitReadySince, round] at failed
    exact ih failed

theorem awaitReady_ofProcess (url : String) (timeout : Duration) : OfProcess (awaitReady world url timeout) := by
  intro p
  have run : (awaitReady world url timeout).run.run p =
      awaitReadySince world url (world.clock p.handle.world) timeout p := rfl
  unfold wp
  rw [run]
  split
  · trivial
  · rename_i failed
    exact isOfProcess_of_awaitReadySince (by rw [failed])

end Supervised

/-! ### Eyeballs -/

/-- The failures of an eyeball. -/
inductive Eyeball.FailsWith (e : Eyeball) : Failure → Prop
  | request (reason : String) : e.FailsWith (e.requestFailed reason)
  | refused (status : Nat) : e.FailsWith (e.refused status)
  | starved : e.FailsWith e.starved

theorem Eyeball.failsWith_of_watch {e : Eyeball} {start time : Nat} {response : Response} {failure : Failure}
    (finish : (e.watch start response).finish = some (time, .error failure)) : e.FailsWith failure := by
  rcases response with ⟨after, reason⟩ | _ | ⟨after, status, chunks, ending⟩
  · cases finish
    exact .request reason
  · cases finish
  · unfold watch at finish
    dsimp only at finish
    split at finish
    · have read := congrArg Prod.snd (Option.some.inj finish)
      cases (reads_iff rfl).2 read
      exact .starved
    · cases finish
      exact .refused status

theorem Eyeball.failed_of_not_given {e : Eyeball} {start ended : Nat} {response : Response} {report : LineReport}
    (never : ∀ time, (e.watch start response).notice ≠ .given time) :
    (e.watch start response).finish ≠ some (ended, .ok report) := by
  intro finish
  rcases response with _ | _ | ⟨after, status, chunks, ending⟩
  · cases finish
  · cases finish
  · unfold watch at never finish
    dsimp only at never finish
    split at finish
    · rename_i success
      rw [if_pos success] at never
      exact never _ rfl
    · cases finish

theorem Notice.not_given_of_abandoned {n : Notice} {start later : Nat} {timeout : Duration}
    (abandoned : n.await start timeout = (.error .abandoned, later)) (time : Nat) : n ≠ .given time := by
  rintro rfl
  simp only [await, time?, answer] at abandoned
  split at abandoned <;> cases abandoned

theorem Watch.finish_of_join {w : Watch} {now later : Nat} {timeout : Duration} {result : Except Failure LineReport}
    (joined : w.join now timeout = (some result, later)) : ∃ time, w.finish = some (time, result) := by
  unfold join at joined
  rcases finish : w.finish with _ | ⟨time, ended⟩ <;> simp only [finish] at joined
  · cases joined
  · split at joined <;> cases joined
    exact ⟨time, rfl⟩

/-- Whatever the eyeball fails with is as `P` says. -/
def Watch.FailsOnly (P : Failure → Prop) (w : Watch) : Prop :=
  ∀ time failure, w.finish = some (time, .error failure) → P failure

/-- Failures of a process are as `P` says, and so are those of an eyeball. -/
structure Failure.Common (P : Failure → Prop) : Prop where
  ofProcess : ∀ failure : Failure, failure.isOfProcess = true → P failure
  ofEyeball : ∀ (e : Eyeball) (failure : Failure), e.FailsWith failure → P failure

theorem Failure.Common.act {τ α : Type} {P : Failure → Prop} (common : Failure.Common P)
    {act : ExceptT Failure (StateM τ) α} (h : OfProcess act) : FailsOnly P act :=
  h.mono common.ofProcess

theorem Eyeball.failsOnly_of_common {P : Failure → Prop} (common : Failure.Common P) (e : Eyeball) (start : Nat)
    (response : Response) : (e.watch start response).FailsOnly P :=
  fun _ failure finish => common.ofEyeball e failure (failsWith_of_watch finish)

namespace Supervised
variable {ω : Type} {world : World ω} {watch : Watch} {Q : LineReport → Prop} {P : Failure → Prop}

/-- Who waits for an eyeball gets its result, or runs out of time. -/
theorem joinEyeball_ends (read : ∀ time report, watch.finish = some (time, .ok report) → Q report)
    (fails : watch.FailsOnly P) (late : ∀ elapsed text, P (.timeout .join elapsed text)) (timeout : Duration)
    (p : Supervised ω) :
    wp (joinEyeball world watch timeout) (fun report _ => Q report) (fun failure _ => P failure) p := by
  simp only [joinEyeball, wp_bind, wp_now]
  rcases joined : watch.join (world.clock p.handle.world) timeout with ⟨_ | failure | report, later⟩ <;>
    rw [wp_pauseUntil]
  · exact late _ _
  · obtain ⟨time, finish⟩ := Watch.finish_of_join joined
    exact fails time failure finish
  · obtain ⟨time, finish⟩ := Watch.finish_of_join joined
    exact read time report finish

theorem joinEyeball_failsOnly (common : Failure.Common P) (fails : watch.FailsOnly P) (timeout : Duration) :
    FailsOnly P (joinEyeball world watch timeout) :=
  joinEyeball_ends (fun _ _ _ => trivial) fails (fun _ _ => common.ofProcess _ rfl) timeout

/-- An eyeball that cannot be opened fails for a reason of its own or of its process. -/
theorem openEyeball_fails (common : Failure.Common P) (eyeball : Eyeball) (timeout : Duration) (p : Supervised ω) :
    wp (openEyeball world eyeball timeout) (fun watch _ => watch.FailsOnly P) (fun failure _ => P failure) p := by
  simp only [openEyeball, wp_bind, wp_now, wp_callWorld]
  rcases world.request eyeball p.handle.world with ⟨response, w⟩
  have fails := eyeball.failsOnly_of_common common (world.clock p.handle.world) response
  rcases answer : (eyeball.watch (world.clock p.handle.world) response).notice.await (world.clock p.handle.world)
    timeout with ⟨(timedOut | _) | _, later⟩ <;> rw [wp_pauseUntil]
  · exact common.ofProcess _ rfl
  · rw [wp_bind]
    refine wp_mono (joinEyeball_ends (Q := fun _ => False) ?_ fails (fun _ _ => common.ofProcess _ rfl) timeout _)
      (fun _ _ h => h.elim) fun _ _ h => h
    exact fun _ _ finish => Eyeball.failed_of_not_given (Notice.not_given_of_abandoned answer) finish
  · exact fails

end Supervised

namespace DrainVerifier
open Supervised
variable {ω : Type} {v : DrainVerifier} {world : World ω} {scenario : Scenario} {P : Failure → Prop}
  {watch : Option Watch}

theorem openStream_fails (common : Failure.Common P) (v : DrainVerifier) (world : World ω) (scenario : Scenario)
    (p : Supervised ω) :
    wp (v.openStream world scenario) (fun watch _ => ∀ stream, watch = some stream → stream.FailsOnly P)
      (fun failure _ => P failure) p := by
  unfold openStream
  split
  · rw [wp_bind]
    refine wp_mono (openEyeball_fails common _ _ p) (fun watch _ fails => ?_) fun _ _ h => h
    rintro _ ⟨⟩
    exact fails
  · exact fun _ => nofun

theorem openStream_failsOnly (common : Failure.Common P) (v : DrainVerifier) (world : World ω) (scenario : Scenario) :
    FailsOnly P (v.openStream world scenario) :=
  fun p => wp_mono (openStream_fails common v world scenario p) (fun _ _ _ => trivial) fun _ _ h => h

theorem joinOpened_failsOnly (common : Failure.Common P) (fails : ∀ stream, watch = some stream → stream.FailsOnly P) :
    FailsOnly P (v.joinOpened world scenario watch) := by
  intro p
  cases watch with
  | none => trivial
  | some stream =>
    unfold joinOpened
    rw [wp_map]
    exact joinEyeball_failsOnly common (fails stream rfl) _ p

end DrainVerifier

end GracefulDrain
