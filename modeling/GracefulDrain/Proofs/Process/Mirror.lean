import GracefulDrain.Proofs.Process.Life

/-! # Hosts that show another host

A host may carry more in its world than another host does and still answer each call as that one would: it
shows the other host to whoever sees part of its world. Then each act does to the part that is seen what it does
under the other host (`Operation.mirrors_act`). -/

namespace GracefulDrain

section
variable {τ τ' α β : Type} {view : τ → τ'} {s : τ}

/-- From `s`, `x` does to the state what `y` does to the view of it, with the same answer. -/
def Mirrors (view : τ → τ') (x : ExceptT Failure (StateM τ) α) (y : ExceptT Failure (StateM τ') α)
    (s : τ) : Prop :=
  y.run.run (view s) = ((x.run.run s).1, view (x.run.run s).2)

namespace Mirrors

theorem pure (a : α) : Mirrors view (pure a) (pure a) s := rfl

theorem throw (e : Failure) : Mirrors view (throw e : ExceptT Failure (StateM τ) α) (throw e) s := rfl

theorem get_bind {f : τ → ExceptT Failure (StateM τ) α} {g : τ' → ExceptT Failure (StateM τ') α}
    (h : Mirrors view (f s) (g (view s)) s) : Mirrors view (get >>= f) (get >>= g) s := h

theorem bind {x : ExceptT Failure (StateM τ) α} {y : ExceptT Failure (StateM τ') α}
    {f : α → ExceptT Failure (StateM τ) β} {g : α → ExceptT Failure (StateM τ') β}
    (h : Mirrors view x y s) (next : ∀ a t, Mirrors view (f a) (g a) t) :
    Mirrors view (x >>= f) (y >>= g) s := by
  unfold Mirrors at h next ⊢
  rw [run_bind, run_bind, h]
  rcases x.run.run s with ⟨e | a, t⟩
  · rfl
  · exact next a t

theorem observing {x : ExceptT Failure (StateM τ) α} {y : ExceptT Failure (StateM τ') α}
    (h : Mirrors view x y s) : Mirrors view (observing x) (observing y) s := by
  unfold Mirrors at h ⊢
  rw [run_observing, run_observing, h]

theorem map (f : α → β) {x : ExceptT Failure (StateM τ) α} {y : ExceptT Failure (StateM τ') α}
    (h : Mirrors view x y s) : Mirrors view (f <$> x) (f <$> y) s := by
  rw [map_eq_pure_bind, map_eq_pure_bind]
  exact h.bind fun a _ => .pure (f a)

theorem ite {c : Prop} [Decidable c] {x x' : ExceptT Failure (StateM τ) α}
    {y y' : ExceptT Failure (StateM τ') α} (h : Mirrors view x y s) (h' : Mirrors view x' y' s) :
    Mirrors view (if c then x else x') (if c then y else y') s := by
  split <;> assumption

end Mirrors
end

/-- `f` does to a world what `g` does to the view of it, with the same answer. -/
def CallShows {τ σ α : Type} (view : τ → σ) (f : τ → α × τ) (g : σ → α × σ) : Prop :=
  ∀ w, g (view w) = ((f w).1, view (f w).2)

/-- Whoever sees just `view` of its world takes `full` for `host`. -/
structure Host.Shows {τ σ : Type} (full : Host τ) (view : τ → σ) (host : Host σ) : Prop where
  clock : ∀ w, host.clock (view w) = full.clock w
  spawn : ∀ argv, CallShows view (full.spawn argv) (host.spawn argv)
  poll : CallShows view full.poll host.poll
  signal : ∀ signal, CallShows view (full.signal signal) (host.signal signal)
  await : ∀ timeout, CallShows view (full.await timeout) (host.await timeout)
  forceKill : CallShows view full.forceKill host.forceKill
  reap : CallShows view full.reap host.reap
  settle : ∀ w, host.settle (view w) = view (full.settle w)
  output : ∀ stream w, host.output stream (view w) = full.output stream w

namespace Handle
variable {τ σ α : Type} {view : τ → σ} {full : Host τ} {host : Host σ}

/-- The handle as far as its world is seen. -/
def seen (view : τ → σ) (h : Handle τ) : Handle σ := { h with world := view h.world }

theorem seen_exit (h : Handle τ) : (h.seen view).exit = h.exit := rfl

theorem captured_seen (same : full.Shows view host) (h : Handle τ) (stream : Stream) :
    (h.seen view).captured host stream = h.captured full stream := by
  have output : host.output stream (view h.world) = full.output stream h.world := same.output stream h.world
  unfold captured
  rw [show (h.seen view).world = view h.world from rfl, output]
  cases stream <;> rfl

theorem snapshot_seen (same : full.Shows view host) (h : Handle τ) (stream : Stream) :
    (h.seen view).snapshot host stream = h.snapshot full stream := by
  unfold snapshot
  rw [captured_seen same]

theorem mirrors_call {f : τ → α × τ} {g : σ → α × σ} (shows : CallShows view f g) (h : Handle τ) :
    Mirrors (seen view) (call f) (call g) h := by
  have answer : g (h.seen view).world = ((f h.world).1, view (f h.world).2) := shows h.world
  unfold Mirrors
  rw [run_call, run_call, answer]
  rfl

theorem mirrors_record (e : Exit) (h : Handle τ) : Mirrors (seen view) (record e) (record e) h := rfl

variable (same : full.Shows view host) (h : Handle τ)
include same

theorem mirrors_poll : Mirrors (seen view) (poll full) (poll host) h := by
  refine .get_bind ?_
  simp only [seen_exit]
  cases h.exit with
  | some e => exact .pure _
  | none =>
    refine (mirrors_call same.poll h).bind fun answer h => ?_
    rcases answer with reason | _ | e
    · exact .throw _
    · exact .pure _
    · exact (mirrors_record e h).bind fun _ _ => .pure _

theorem mirrors_sendSignal (signal : TermSignal) :
    Mirrors (seen view) (sendSignal full signal) (sendSignal host signal) h := by
  refine (mirrors_poll same h).bind fun r h => ?_
  refine .ite (.get_bind (.throw _)) ((mirrors_call (same.signal signal) h).bind fun r h => ?_)
  cases r with
  | ok => exact .pure _
  | error reason => exact .throw _

theorem mirrors_waitFor (timeout : Duration) (wait : Wait) :
    Mirrors (seen view) (waitFor full timeout wait) (waitFor host timeout wait) h := by
  refine .get_bind ?_
  simp only [seen_exit]
  cases h.exit with
  | some e => exact .pure _
  | none =>
    refine (mirrors_call (same.await timeout) h).bind fun answer h => ?_
    rcases answer with reason | _ | e
    · exact .throw _
    · refine .get_bind ?_
      rw [snapshot_seen same]
      exact .throw _
    · exact (mirrors_record e h).bind fun _ _ => .pure _

theorem mirrors_kill : Mirrors (seen view) (kill full) (kill host) h := by
  refine (mirrors_poll same h).bind fun r h => ?_
  cases r with
  | some e => exact .pure _
  | none =>
    refine (mirrors_call same.forceKill h).bind fun answer h => ?_
    cases answer with
    | refused reason => exact .throw _
    | sent | gone =>
      refine (mirrors_call same.reap h).bind fun answer h => ?_
      cases answer with
      | error reason => exact .throw _
      | ok e => exact (mirrors_record e h).bind fun _ _ => .pure _

theorem drain_seen :
    (h.seen view).drain host = ((h.drain full).1, (h.drain full).2.seen view) := by
  have settled : host.settle (h.seen view).world = view (full.settle h.world) := same.settle h.world
  have start : ({ h.seen view with world := host.settle (h.seen view).world } : Handle σ) =
      ({ h with world := full.settle h.world } : Handle τ).seen view := by
    rw [settled]
    rfl
  unfold drain
  simp only [start, snapshot_seen same]
  rw [settled, same.output, same.output]
  rfl

theorem abandon_seen : (h.seen view).abandon host = view (h.abandon full) := by
  unfold abandon
  rw [seen_exit]
  cases h.exit with
  | some e => rfl
  | none => exact congrArg Prod.snd (same.forceKill h.world)

end Handle

namespace Supervised
variable {τ σ α β : Type} {view : τ → σ} {full : Host τ} {host : Host σ}

/-- The process as far as its world is seen. -/
def seen (view : τ → σ) (p : Supervised τ) : Supervised σ := { p with handle := p.handle.seen view }

theorem seen_state (p : Supervised τ) : (p.seen view).state = p.state := rfl

theorem mirrors_viaHandle {x : Handle.Act τ α} {y : Handle.Act σ α} {p : Supervised τ}
    (h : Mirrors (Handle.seen view) x y p.handle) : Mirrors (seen view) (viaHandle x) (viaHandle y) p := by
  have run : (viaHandle y).run.run (p.seen view) =
      ((y.run.run (p.handle.seen view)).1,
        { p.seen view with handle := (y.run.run (p.handle.seen view)).2 }) := rfl
  unfold Mirrors at h ⊢
  rw [run, h]
  rfl

/-- A refusal ends both acts, whatever would have come next. -/
theorem mirrors_refusal (p : Supervised τ) (f : α → Act τ β) (g : α → Act σ β) :
    Mirrors (seen view) (notRunning >>= f) (notRunning >>= g) p := rfl

theorem mirrors_advance (next : Lifecycle) (p : Supervised τ) :
    Mirrors (seen view) (advance next) (advance next) p := by
  refine .get_bind ?_
  simp only [seen_state]
  cases p.state.become next with
  | ok state => exact rfl
  | error move => exact .throw _

theorem mirrors_advanceIfAble (next : Lifecycle) (p : Supervised τ) :
    Mirrors (seen view) (advanceIfAble next) (advanceIfAble next) p := by
  refine .get_bind ?_
  exact .ite (c := p.state.canBecome next = true) (mirrors_advance next p) (.pure _)

variable (same : full.Shows view host) (p : Supervised τ)
include same

theorem mirrors_poll : Mirrors (seen view) (poll full) (poll host) p := by
  refine (mirrors_viaHandle (Handle.mirrors_poll same p.handle)).bind fun r p => ?_
  cases r with
  | none => exact .pure _
  | some e =>
    refine .get_bind ?_
    exact .ite (c := (!p.state.isTerminal) = true) ((mirrors_advance .terminated p).bind fun _ _ => .pure _)
      (.pure _)

theorem mirrors_sendSignal (signal : TermSignal) :
    Mirrors (seen view) (sendSignal full signal) (sendSignal host signal) p := by
  refine .get_bind (.ite (c := p.state.isTerminal = true) (mirrors_refusal p _ _) ?_)
  refine (mirrors_poll same p).bind fun r p => .ite (mirrors_refusal p _ _) ?_
  refine (mirrors_advanceIfAble .signalSent p).bind fun _ p => ?_
  refine (mirrors_viaHandle (Handle.mirrors_sendSignal same p.handle signal)).bind fun _ p => ?_
  exact mirrors_advanceIfAble .draining p

theorem clock_seen : host.clock (p.seen view).handle.world = full.clock p.handle.world :=
  same.clock p.handle.world

theorem mirrors_elapsedSince (start : Nat) :
    Mirrors (seen view) (elapsedSince full start) (elapsedSince host start) p := by
  refine .get_bind ?_
  rw [clock_seen same]
  exact .pure _

theorem mirrors_awaitTermination :
    Mirrors (seen view) (awaitTermination full) (awaitTermination host) p := by
  -- an exit and a kill are finished alike: the state moves on and the time is taken
  have finish (start : Nat) (f : Duration → Outcome) (next : Lifecycle) (p : Supervised τ) :
      Mirrors (seen view) (do advance next; return f (← elapsedSince full start))
        (do advance next; return f (← elapsedSince host start)) p :=
    (mirrors_advance next p).bind fun _ p =>
      (mirrors_elapsedSince same p start).bind fun elapsed _ => .pure (f elapsed)
  refine .get_bind ?_
  rw [clock_seen same]
  refine .get_bind (.ite (c := p.state.isTerminal = true) (mirrors_refusal p _ _) (.get_bind ?_))
  refine (mirrors_viaHandle (Handle.mirrors_waitFor same p.handle p.budget.total .signalResponse)).observing.bind
    fun r q => ?_
  cases r with
  | ok e => exact finish _ (.exited e.code?) .terminated q
  | error failure =>
    cases failure with
    | timeout wait elapsedMs text =>
      refine (mirrors_viaHandle (Handle.mirrors_kill same q.handle)).bind fun _ q => ?_
      exact finish _ .killed .killed q
    | _ => exact .throw _

theorem mirrors_terminate (signal : TermSignal) :
    Mirrors (seen view) (terminate full signal) (terminate host signal) p := by
  refine .get_bind (.ite (c := p.state.isTerminal = true) (mirrors_refusal p _ _) ?_)
  refine (mirrors_poll same p).bind fun r p => ?_
  cases r with
  | some code => exact .pure _
  | none => exact (mirrors_sendSignal same p signal).bind fun _ p => mirrors_awaitTermination same p

theorem mirrors_kill : Mirrors (seen view) (kill full) (kill host) p := by
  refine .get_bind (.ite (c := p.state.isTerminal = true) (.pure _) ?_)
  refine (mirrors_poll same p).bind fun r p => .ite (.pure _) ?_
  exact (mirrors_viaHandle (Handle.mirrors_kill same p.handle)).bind fun _ p => mirrors_advanceIfAble _ p

theorem stopped_seen : stopped host (p.seen view) = (stopped full p).seen view := by
  have terminated := mirrors_terminate same p shutdownSignal
  unfold Mirrors at terminated
  unfold stopped
  rw [seen_state, terminated]
  split
  · rfl
  · rcases (terminate full shutdownSignal).run.run p with ⟨f | outcome, q⟩
    · exact congrArg Prod.snd (mirrors_kill same q)
    · rfl

theorem shutdown_seen : (shutdown host).run (p.seen view) =
    (((shutdown full).run p).1, ((shutdown full).run p).2.seen view) := by
  have drained : ((stopped full p).seen view).handle.drain host = _ := Handle.drain_seen same (stopped full p).handle
  rw [run_shutdown, run_shutdown, stopped_seen same, drained]
  rfl

theorem mirrors_act (op : Operation) : Mirrors (seen view) (op.act full) (op.act host) p := by
  cases op with
  | poll => exact (mirrors_poll same p).map _
  | sendSignal signal => exact (mirrors_sendSignal same p signal).map _
  | awaitTermination => exact (mirrors_awaitTermination same p).map _
  | terminate signal => exact (mirrors_terminate same p signal).map _
  | kill => exact (mirrors_kill same p).map _

end Supervised

end GracefulDrain
