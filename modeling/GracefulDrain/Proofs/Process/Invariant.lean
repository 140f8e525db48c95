import GracefulDrain.Proofs.Process.Life

/-! # Invariants of supervised processes

An act preserves what is true after it if it was true before, whatever comes of the act. An invariant of a process
is preserved by the acts of its handle and does not depend on the lifecycle. Then each operation preserves it
(`preserves_act`), and so does a whole run in which it survives whatever happens meanwhile (`Invariant.after`). -/

namespace GracefulDrain

section
variable {τ α β : Type} {R : τ → Prop}

/-- If `R` is true before the act, it is true after it, whether the act fails or not. -/
def Preserves (R : τ → Prop) (act : ExceptT Failure (StateM τ) α) : Prop :=
  ∀ s, R s → wp act (fun _ => R) (fun _ => R) s

namespace Preserves
variable {x : ExceptT Failure (StateM τ) α}

theorem of_run (h : ∀ s, R s → R (x.run.run s).2) : Preserves R x := by
  intro s before
  have after := h s before
  unfold wp
  rcases ran : x.run.run s with ⟨e | a, t⟩ <;> rw [ran] at after <;> exact after

theorem run (h : Preserves R x) {s : τ} (before : R s) : R (x.run.run s).2 :=
  of_wp (R := fun _ t => R t) (h s before)

theorem pure (a : α) : Preserves R (pure a : ExceptT Failure (StateM τ) α) := fun _ before => before

theorem throw (e : Failure) : Preserves R (throw e : ExceptT Failure (StateM τ) α) := fun _ before => before

theorem get_bind {f : τ → ExceptT Failure (StateM τ) α} (h : ∀ s, Preserves R (f s)) : Preserves R (get >>= f) :=
  fun s before => h s s before

theorem bind {f : α → ExceptT Failure (StateM τ) β} (h : Preserves R x) (next : ∀ a, Preserves R (f a)) :
    Preserves R (x >>= f) := by
  intro s before
  rw [wp_bind]
  exact wp_mono (h s before) (fun a t between => next a t between) fun _ _ after => after

theorem map (f : α → β) (h : Preserves R x) : Preserves R (f <$> x) := by
  rw [map_eq_pure_bind]
  exact h.bind fun a => .pure (f a)

theorem of_map {f : α → β} (h : Preserves R (f <$> x)) : Preserves R x := by
  intro s before
  have after := h s before
  rwa [wp_map] at after

theorem observing (h : Preserves R x) : Preserves R (observing x) := by
  intro s before
  rw [wp_observing]
  exact h s before

theorem ite {c : Prop} [Decidable c] {y : ExceptT Failure (StateM τ) α} (h : Preserves R x) (h' : Preserves R y) :
    Preserves R (if c then x else y) := by
  split <;> assumption

end Preserves
end

namespace Supervised
variable {σ α β : Type} {host : Host σ} {R : Supervised σ → Prop} {p : Supervised σ}

/-- The acts of a handle preserve `R`, and a move of the lifecycle does not affect it. -/
structure Invariant (host : Host σ) (R : Supervised σ → Prop) : Prop where
  move : ∀ p next, R p → R { p with state := next }
  poll : Preserves R (viaHandle (Handle.poll host))
  sendSignal : ∀ signal, Preserves R (viaHandle (Handle.sendSignal host signal))
  waitFor : ∀ timeout wait, Preserves R (viaHandle (Handle.waitFor host timeout wait))
  kill : Preserves R (viaHandle (Handle.kill host))

theorem preserves_viaHandle {S : Handle σ → Prop} {act : Handle.Act σ α} (h : Preserves S act) :
    Preserves (fun p => S p.handle) (viaHandle act) := by
  intro p before
  rw [wp_viaHandle]
  exact h p.handle before

/-- What is true of the handle alone is not affected by a move of the lifecycle. -/
theorem Invariant.of_handle {S : Handle σ → Prop} (poll : Preserves S (Handle.poll host))
    (sendSignal : ∀ signal, Preserves S (Handle.sendSignal host signal))
    (waitFor : ∀ timeout wait, Preserves S (Handle.waitFor host timeout wait))
    (kill : Preserves S (Handle.kill host)) : Invariant host fun p => S p.handle where
  move _ _ before := before
  poll := preserves_viaHandle poll
  sendSignal signal := preserves_viaHandle (sendSignal signal)
  waitFor timeout wait := preserves_viaHandle (waitFor timeout wait)
  kill := preserves_viaHandle kill

/-- A refusal changes nothing, whatever would have come next. -/
theorem preserves_refusal (f : α → Act σ β) : Preserves R (notRunning >>= f) := fun _ before => before

theorem preserves_elapsedSince (start : Nat) : Preserves R (elapsedSince host start) := .get_bind fun _ => .pure _

variable (inv : Invariant host R)
include inv

theorem preserves_advance (next : Lifecycle) : Preserves R (advance next) := by
  refine .get_bind fun p => ?_
  cases p.state.become next with
  | ok state => exact fun q before => inv.move q state before
  | error move => exact .throw _

theorem preserves_advanceIfAble (next : Lifecycle) : Preserves R (advanceIfAble next) :=
  .get_bind fun _ => .ite (preserves_advance inv next) (.pure _)

theorem preserves_poll : Preserves R (poll host) := by
  refine inv.poll.bind fun r => ?_
  cases r with
  | none => exact .pure _
  | some e => exact .get_bind fun _ => .ite ((preserves_advance inv .terminated).bind fun _ => .pure _) (.pure _)

theorem preserves_sendSignal (signal : TermSignal) : Preserves R (sendSignal host signal) := by
  refine .get_bind fun _ => .ite (preserves_refusal _) ?_
  refine (preserves_poll inv).bind fun r => .ite (preserves_refusal _) ?_
  refine (preserves_advanceIfAble inv .signalSent).bind fun _ => ?_
  exact (inv.sendSignal signal).bind fun _ => preserves_advanceIfAble inv .draining

theorem preserves_awaitTermination : Preserves R (awaitTermination host) := by
  have finish (start : Nat) (f : Duration → Outcome) (next : Lifecycle) :
      Preserves R (do advance next; return f (← elapsedSince host start)) :=
    (preserves_advance inv next).bind fun _ => (preserves_elapsedSince start).bind fun elapsed => .pure (f elapsed)
  refine .get_bind fun _ => .get_bind fun _ => .ite (preserves_refusal _) (.get_bind fun p => ?_)
  refine (inv.waitFor p.budget.total .signalResponse).observing.bind fun r => ?_
  cases r with
  | ok e => exact finish _ (.exited e.code?) .terminated
  | error failure =>
    cases failure with
    | timeout wait elapsedMs text => exact inv.kill.bind fun _ => finish _ .killed .killed
    | _ => exact .throw _

theorem preserves_terminate (signal : TermSignal) : Preserves R (terminate host signal) := by
  refine .get_bind fun _ => .ite (preserves_refusal _) ?_
  refine (preserves_poll inv).bind fun r => ?_
  cases r with
  | some code => exact .pure _
  | none => exact (preserves_sendSignal inv signal).bind fun _ => preserves_awaitTermination inv

theorem preserves_kill : Preserves R (kill host) := by
  refine .get_bind fun _ => .ite (.pure _) ?_
  refine (preserves_poll inv).bind fun r => .ite (.pure _) ?_
  exact inv.kill.bind fun e => preserves_advanceIfAble inv _

theorem preserves_act (op : Operation) : Preserves R (op.act host) := by
  cases op with
  | poll => exact (preserves_poll inv).map _
  | sendSignal signal => exact (preserves_sendSignal inv signal).map _
  | awaitTermination => exact (preserves_awaitTermination inv).map _
  | terminate signal => exact (preserves_terminate inv signal).map _
  | kill => exact (preserves_kill inv).map _

theorem Invariant.stopped (h : R p) : R (stopped host p) := by
  unfold Supervised.stopped
  split
  · exact h
  · have terminated := (preserves_terminate inv shutdownSignal).run h
    rcases ran : (terminate host shutdownSignal).run.run p with ⟨failure | outcome, q⟩ <;> rw [ran] at terminated
    · exact (preserves_kill inv).run terminated
    · exact terminated

/-- What survives all that happens meanwhile survives the run. -/
theorem Invariant.after {events : List (Event σ)}
    (meanwhile : ∀ f, Event.meanwhile f ∈ events → ∀ q, R q → R (step host q (.meanwhile f))) (h : R p) :
    R (after host p events) := by
  induction events generalizing p with
  | nil => exact h
  | cons event rest ih =>
    refine ih (fun f mem => meanwhile f (List.mem_cons_of_mem _ mem)) ?_
    cases event with
    | operation op => exact (preserves_act inv op).run h
    | meanwhile f => exact meanwhile f List.mem_cons_self p h

end Supervised

end GracefulDrain
