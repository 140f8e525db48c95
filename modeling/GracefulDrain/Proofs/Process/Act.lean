import GracefulDrain.Process.Supervised

/-! # Reasoning about acts

`wp act Q E s`: run from `s`, `act` ends with `Q` of its value and its state, or with `E` of its failure
and its state. One rule for each construct of an act and one for each act of a handle; the acts of a
supervised process are walked through with these rules and never unfolded further. -/

namespace GracefulDrain

section
variable {τ α β : Type} {Q : α → τ → Prop} {E : Failure → τ → Prop} {s : τ}

/-- From `s`, `act` ends with `Q` of its value or with `E` of its failure. -/
def wp (act : ExceptT Failure (StateM τ) α) (Q : α → τ → Prop) (E : Failure → τ → Prop) (s : τ) : Prop :=
  match act.run.run s with
  | (.ok a, t) => Q a t
  | (.error e, t) => E e t

theorem run_observing (x : ExceptT Failure (StateM τ) α) :
    (observing x).run.run s = (.ok (x.run.run s).1, (x.run.run s).2) := by
  show (ExceptT.tryCatch (x >>= fun a => pure (Except.ok a)) fun e => pure (Except.error e)).run.run s = _
  rcases h : x.run.run s with ⟨e | a, t⟩ <;>
    simp only [StateT.run, ExceptT.run] at h <;>
    simp [ExceptT.tryCatch, ExceptT.run, ExceptT.mk, StateT.run, bind, StateT.bind, ExceptT.bind,
      ExceptT.bindCont, h] <;> rfl

@[simp] theorem wp_pure (a : α) : wp (pure a) Q E s = Q a s := rfl

@[simp] theorem wp_throw (e : Failure) : wp (throw e : ExceptT Failure (StateM τ) α) Q E s = E e s := rfl

@[simp] theorem wp_get {Q : τ → τ → Prop} : wp (get : ExceptT Failure (StateM τ) τ) Q E s = Q s s := rfl

@[simp] theorem wp_modify {Q : Unit → τ → Prop} (f : τ → τ) :
    wp (modify f : ExceptT Failure (StateM τ) Unit) Q E s = Q () (f s) := rfl

@[simp] theorem wp_bind {Q : β → τ → Prop} (x : ExceptT Failure (StateM τ) α)
    (f : α → ExceptT Failure (StateM τ) β) :
    wp (x >>= f) Q E s = wp x (fun a => wp (f a) Q E) E s := by
  simp only [wp, run_bind]
  rcases x.run.run s with ⟨e | a, t⟩ <;> rfl

@[simp] theorem wp_map {Q : β → τ → Prop} (f : α → β) (x : ExceptT Failure (StateM τ) α) :
    wp (f <$> x) Q E s = wp x (fun a => Q (f a)) E s := by
  rw [map_eq_pure_bind, wp_bind]
  rfl

@[simp] theorem wp_observing {Q : Except Failure α → τ → Prop} (x : ExceptT Failure (StateM τ) α) :
    wp (observing x) Q E s = wp x (fun a => Q (.ok a)) (fun e => Q (.error e)) s := by
  simp only [wp, run_observing]
  rcases x.run.run s with ⟨e | a, t⟩ <;> rfl

theorem wp_mono {x : ExceptT Failure (StateM τ) α} {Q' : α → τ → Prop} {E' : Failure → τ → Prop}
    (h : wp x Q E s) (hQ : ∀ a t, Q a t → Q' a t) (hE : ∀ e t, E e t → E' e t) : wp x Q' E' s := by
  unfold wp at h ⊢
  rcases hx : x.run.run s with ⟨e | a, t⟩ <;> rw [hx] at h
  · exact hE e t h
  · exact hQ a t h

theorem wp_and {x : ExceptT Failure (StateM τ) α} {Q' : α → τ → Prop} {E' : Failure → τ → Prop}
    (h : wp x Q E s) (h' : wp x Q' E' s) :
    wp x (fun a t => Q a t ∧ Q' a t) (fun e t => E e t ∧ E' e t) s := by
  unfold wp at h h' ⊢
  rcases hx : x.run.run s with ⟨e | a, t⟩ <;> rw [hx] at h h' <;> exact ⟨h, h'⟩

theorem wp_of_forall {x : ExceptT Failure (StateM τ) α} (hQ : ∀ a t, Q a t) (hE : ∀ e t, E e t) :
    wp x Q E s := by
  unfold wp
  split
  · exact hQ _ _
  · exact hE _ _

theorem run_of_wp {x : ExceptT Failure (StateM τ) α} {r : Except Failure α} {t : τ}
    (h : wp x (fun a u => Except.ok a = r ∧ u = t) (fun e u => Except.error e = r ∧ u = t) s) :
    x.run.run s = (r, t) := by
  unfold wp at h
  rcases hx : x.run.run s with ⟨e | a, u⟩ <;> rw [hx] at h <;> exact Prod.ext h.1 h.2

theorem ok_of_wp {x : ExceptT Failure (StateM τ) α} {a : α} (h : wp x Q E s)
    (answer : (x.run.run s).1 = .ok a) : Q a (x.run.run s).2 := by
  unfold wp at h
  rcases hx : x.run.run s with ⟨e | b, t⟩ <;> rw [hx] at h answer <;> cases answer
  exact h

theorem error_of_wp {x : ExceptT Failure (StateM τ) α} {e : Failure} (h : wp x Q E s)
    (answer : (x.run.run s).1 = .error e) : E e (x.run.run s).2 := by
  unfold wp at h
  rcases hx : x.run.run s with ⟨f | b, t⟩ <;> rw [hx] at h answer <;> cases answer
  exact h

theorem wp_of_run {x : ExceptT Failure (StateM τ) α} {a : α} {t : τ} (run : x.run.run s = (.ok a, t)) (h : Q a t) :
    wp x Q E s := by
  unfold wp
  rw [run]
  exact h

/-- An act that cannot fail succeeds. -/
theorem succeeds_of_wp {x : ExceptT Failure (StateM τ) α} (h : wp x Q (fun _ _ => False) s) :
    ∃ a, (x.run.run s).1 = .ok a := by
  unfold wp at h
  rcases hx : x.run.run s with ⟨e | a, t⟩ <;> rw [hx] at h
  · exact h.elim
  · exact ⟨a, rfl⟩

/-- What holds of both ends of a run holds of the run's answer and of the state it leaves. -/
theorem of_wp {x : ExceptT Failure (StateM τ) α} {R : Except Failure α → τ → Prop}
    (h : wp x (fun a => R (.ok a)) (fun e => R (.error e)) s) : R (x.run.run s).1 (x.run.run s).2 := by
  unfold wp at h
  rcases hx : x.run.run s with ⟨e | a, t⟩ <;> rw [hx] at h <;> exact h

end

namespace Handle
variable {σ α : Type} {host : Host σ} {h : Handle σ} {E : Failure → Handle σ → Prop}

@[simp] theorem wp_call {Q : α → Handle σ → Prop} (f : σ → α × σ) :
    wp (call f) Q E h = Q (f h.world).1 { h with world := (f h.world).2 } := rfl

@[simp] theorem wp_record {Q : Unit → Handle σ → Prop} (e : Exit) :
    wp (record e) Q E h = Q () { h with exit := some e } := rfl

/-- A poll finds an exit that is known, hears of one, finds the child alive, or learns nothing. -/
theorem wp_poll {Q : Option Exit → Handle σ → Prop}
    (known : ∀ e, h.exit = some e → Q (some e) h)
    (ended : h.exit = none → ∀ e w, host.poll h.world = (.ok (some e), w) →
      Q (some e) { h with world := w, exit := some e })
    (alive : h.exit = none → ∀ w, host.poll h.world = (.ok none, w) → Q none { h with world := w })
    (failed : h.exit = none → ∀ reason w, host.poll h.world = (.error reason, w) →
      E (.io reason) { h with world := w }) :
    wp (poll host) Q E h := by
  simp only [poll, wp_bind, wp_get]
  cases hx : h.exit with
  | some e => exact known e hx
  | none =>
    rcases hp : host.poll h.world with ⟨reason | _ | e, w⟩
    · simpa [hp] using failed hx reason w hp
    · simpa [hp] using alive hx w hp
    · simpa [hp] using ended hx e w hp

/-- A signal is sent only if the child is alive to a poll. -/
theorem wp_sendSignal {Q : Unit → Handle σ → Prop} {signal : TermSignal}
    (known : ∀ e, h.exit = some e → E (.notRunning h.pid .terminated) h)
    (ended : h.exit = none → ∀ e w, host.poll h.world = (.ok (some e), w) →
      E (.notRunning h.pid .terminated) { h with world := w, exit := some e })
    (failed : h.exit = none → ∀ reason w, host.poll h.world = (.error reason, w) →
      E (.io reason) { h with world := w })
    (delivered : h.exit = none → ∀ w w', host.poll h.world = (.ok none, w) →
      host.signal signal w = (.ok (), w') → Q () { h with world := w' })
    (refused : h.exit = none → ∀ w reason w', host.poll h.world = (.ok none, w) →
      host.signal signal w = (.error reason, w') → E (.io reason) { h with world := w' }) :
    wp (sendSignal host signal) Q E h := by
  simp only [sendSignal, wp_bind]
  refine wp_poll (fun e hx => ?_) (fun hx e w hp => ?_) (fun hx w hp => ?_) failed
  · simpa using known e hx
  · simpa using ended hx e w hp
  · rcases hs : host.signal signal w with ⟨reason | ⟨⟩, w'⟩
    · simpa [hs] using refused hx w reason w' hp hs
    · simpa [hs] using delivered hx w w' hp hs

/-- A wait ends with an exit that is known, with one that is heard of in time, with a timeout, or with nothing
learnt. -/
theorem wp_waitFor {Q : Exit → Handle σ → Prop} {timeout : Duration} {wait : Wait}
    (known : ∀ e, h.exit = some e → Q e h)
    (ended : h.exit = none → ∀ e w, host.await timeout h.world = (.ok (some e), w) →
      Q e { h with world := w, exit := some e })
    (expired : h.exit = none → ∀ w text, host.await timeout h.world = (.ok none, w) →
      E (.timedOut wait timeout text) { h with world := w })
    (failed : h.exit = none → ∀ reason w, host.await timeout h.world = (.error reason, w) →
      E (.io reason) { h with world := w }) :
    wp (waitFor host timeout wait) Q E h := by
  simp only [waitFor, wp_bind, wp_get]
  cases hx : h.exit with
  | some e => exact known e hx
  | none =>
    rcases hw : host.await timeout h.world with ⟨reason | _ | e, w⟩
    · simpa [hw] using failed hx reason w hw
    · simpa [hw] using expired hx w _ hw
    · simpa [hw] using ended hx e w hw

/-- A kill finds the child at its end, or forces it to its end, unless the host refuses to or learns
nothing. -/
theorem wp_kill {Q : Exit → Handle σ → Prop}
    (known : ∀ e, h.exit = some e → Q e h)
    (ended : h.exit = none → ∀ e w, host.poll h.world = (.ok (some e), w) →
      Q e { h with world := w, exit := some e })
    (failed : h.exit = none → ∀ reason w, host.poll h.world = (.error reason, w) →
      E (.io reason) { h with world := w })
    (refused : h.exit = none → ∀ w reason w', host.poll h.world = (.ok none, w) →
      host.forceKill w = (.refused reason, w') → E (.io reason) { h with world := w' })
    (reaped : h.exit = none → ∀ w answer w' e w'', host.poll h.world = (.ok none, w) →
      host.forceKill w = (answer, w') → host.reap w' = (.ok e, w'') →
      Q e { h with world := w'', exit := some e })
    (lost : h.exit = none → ∀ w answer w' reason w'', host.poll h.world = (.ok none, w) →
      host.forceKill w = (answer, w') → host.reap w' = (.error reason, w'') →
      E (.io reason) { h with world := w'' }) :
    wp (kill host) Q E h := by
  simp only [kill, wp_bind]
  refine wp_poll (fun e hx => ?_) (fun hx e w hp => ?_) (fun hx w hp => ?_) failed
  · exact known e hx
  · exact ended hx e w hp
  · rcases hk : host.forceKill w with ⟨answer, w'⟩
    cases answer with
    | refused reason => simpa [hk] using refused hx w reason w' hp hk
    | sent | gone =>
      rcases hr : host.reap w' with ⟨reason | e, w''⟩
      · simpa [hk, hr] using lost hx w _ w' reason w'' hp hk hr
      · simpa [hk, hr] using reaped hx w _ w' e w'' hp hk hr

end Handle

namespace Lifecycle
variable {s next : Lifecycle}

/-- The state after a move to `next`, or the same state if that is no move forward. -/
def raise (s next : Lifecycle) : Lifecycle := if s.canBecome next then next else s

theorem raise_of_isTerminal (h : s.isTerminal) : s.raise next = s := by
  simp [raise, canBecome, h]

theorem canBecome_terminated (h : s.isTerminal = false) : s.canBecome .terminated := by
  revert h; cases s <;> decide

theorem canBecome_killed (h : s.isTerminal = false) : s.canBecome .killed := by
  revert h; cases s <;> decide

theorem raise_terminated (h : s.isTerminal = false) : s.raise .terminated = .terminated :=
  if_pos (canBecome_terminated h)

end Lifecycle

namespace Supervised
variable {σ α : Type} {host : Host σ} {p : Supervised σ} {E : Failure → Supervised σ → Prop}

@[simp] theorem wp_viaHandle {Q : α → Supervised σ → Prop} (act : Handle.Act σ α) :
    wp (viaHandle act) Q E p =
      wp act (fun a h => Q a { p with handle := h }) (fun e h => E e { p with handle := h }) p.handle := by
  have run : (viaHandle act).run.run p =
      ((act.run.run p.handle).1, { p with handle := (act.run.run p.handle).2 }) := rfl
  simp only [wp, run]
  rcases act.run.run p.handle with ⟨e | a, h⟩ <;> rfl

@[simp] theorem wp_notRunning {Q : α → Supervised σ → Prop} :
    wp notRunning Q E p = E (.notRunning p.handle.pid p.state) p := rfl

@[simp] theorem wp_elapsedSince {Q : Duration → Supervised σ → Prop} (start : Nat) :
    wp (elapsedSince host start) Q E p = Q (.between start (host.clock p.handle.world)) p := rfl

theorem wp_advance {Q : Unit → Supervised σ → Prop} {next : Lifecycle} (able : p.state.canBecome next) :
    wp (advance next) Q E p = Q () { p with state := next } := by
  simp [advance, Lifecycle.become, able]

@[simp] theorem wp_advanceIfAble {Q : Unit → Supervised σ → Prop} (next : Lifecycle) :
    wp (advanceIfAble next) Q E p = Q () { p with state := p.state.raise next } := by
  simp only [advanceIfAble, wp_bind, wp_get, Lifecycle.raise]
  split
  · rw [wp_advance ‹_›]
  · rfl

/-! Each operation of a supervised process, in terms of the acts of its handle. -/

theorem wp_poll {Q : Option (Option Int) → Supervised σ → Prop} :
    wp (poll host) Q E p =
      wp (Handle.poll host)
        (fun r h => Q (r.map Exit.code?)
          { p with handle := h, state := if r.isSome then p.state.raise .terminated else p.state })
        (fun e h => E e { p with handle := h }) p.handle := by
  simp only [poll, wp_bind, wp_viaHandle]
  congr 1
  funext r h
  cases r with
  | none => simp
  | some e =>
    by_cases ht : p.state.isTerminal
    · simp [ht, Lifecycle.raise_of_isTerminal ht]
    · simp only [Bool.not_eq_true] at ht
      simp [ht, wp_advance, Lifecycle.canBecome_terminated ht, Lifecycle.raise_terminated ht]

theorem wp_sendSignal {Q : Unit → Supervised σ → Prop} {signal : TermSignal}
    (live : p.state.isTerminal = false) :
    wp (sendSignal host signal) Q E p =
      wp (poll host)
        (fun r q =>
          if r.isSome then E (.notRunning q.handle.pid q.state) q
          else
            wp (Handle.sendSignal host signal)
              (fun _ h => Q () { q with handle := h, state := (q.state.raise .signalSent).raise .draining })
              (fun e h => E e { q with handle := h, state := q.state.raise .signalSent }) q.handle)
        E p := by
  simp only [sendSignal, wp_bind, wp_get, live, Bool.false_eq_true, if_false]
  congr 1
  funext r q
  split <;> simp

theorem wp_awaitTermination {Q : Outcome → Supervised σ → Prop} (live : p.state.isTerminal = false) :
    wp (awaitTermination host) Q E p =
      wp (Handle.wait host p.budget.total)
        (fun e h =>
          Q (.exited e.code? (.between (host.clock p.handle.world) (host.clock h.world)))
            { p with handle := h, state := .terminated })
        (fun failure h =>
          match failure with
          | .timeout .. =>
            wp (Handle.kill host)
              (fun _ h => Q (.killed (.between (host.clock p.handle.world) (host.clock h.world)))
                { p with handle := h, state := .killed })
              (fun e h => E e { p with handle := h }) h
          | failure => E failure { p with handle := h }) p.handle := by
  simp only [awaitTermination, wp_bind, wp_get, live, wp_observing, wp_viaHandle, Bool.false_eq_true, if_false]
  congr 1
  · funext e h
    exact wp_advance (p := { p with handle := h }) (Lifecycle.canBecome_terminated live)
  · funext failure h
    cases failure with
    | timeout wait elapsedMs text =>
      simp only [wp_bind, wp_viaHandle]
      congr 1
      funext _ h
      exact wp_advance (p := { p with handle := h }) (Lifecycle.canBecome_killed live)
    | _ => rfl

theorem wp_terminate {Q : Outcome → Supervised σ → Prop} {signal : TermSignal}
    (live : p.state.isTerminal = false) :
    wp (terminate host signal) Q E p =
      wp (poll host)
        (fun r q =>
          match r with
          | some code => Q (.exited code .zero) q
          | none => wp (sendSignal host signal) (fun _ => wp (awaitTermination host) Q E) E q)
        E p := by
  simp only [terminate, wp_bind, wp_get, live, Bool.false_eq_true, if_false]
  congr 1
  funext r q
  cases r <;> simp

theorem wp_kill {Q : Unit → Supervised σ → Prop} (live : p.state.isTerminal = false) :
    wp (kill host) Q E p =
      wp (poll host)
        (fun r q =>
          if r.isSome then Q () q
          else
            wp (Handle.kill host)
              (fun e h => Q ()
                { q with
                  handle := h
                  state := q.state.raise (if e.code?.isSome then .terminated else .killed) })
              (fun e h => E e { q with handle := h }) q.handle)
        E p := by
  simp only [kill, wp_bind, wp_get, live, Bool.false_eq_true, if_false]
  congr 1
  funext r q
  split <;> simp

/-! After the end, an operation that needs a live process is refused, and nothing changes. -/

theorem wp_sendSignal_of_isTerminal {Q : Unit → Supervised σ → Prop} {signal : TermSignal}
    (ended : p.state.isTerminal) :
    wp (sendSignal host signal) Q E p = E (.notRunning p.handle.pid p.state) p := by
  simp [sendSignal, ended]

theorem wp_awaitTermination_of_isTerminal {Q : Outcome → Supervised σ → Prop} (ended : p.state.isTerminal) :
    wp (awaitTermination host) Q E p = E (.notRunning p.handle.pid p.state) p := by
  simp [awaitTermination, ended]

theorem wp_terminate_of_isTerminal {Q : Outcome → Supervised σ → Prop} {signal : TermSignal}
    (ended : p.state.isTerminal) :
    wp (terminate host signal) Q E p = E (.notRunning p.handle.pid p.state) p := by
  simp [terminate, ended]

theorem wp_kill_of_isTerminal {Q : Unit → Supervised σ → Prop} (ended : p.state.isTerminal) :
    wp (kill host) Q E p = Q () p := by
  simp [kill, ended]

/-! A shutdown is a stop, which nothing refuses, and what is left is the output. -/

/-- The process once a shutdown has stopped it. -/
def stopped (host : Host σ) (p : Supervised σ) : Supervised σ :=
  if p.state.isTerminal then p
  else
    match (terminate host shutdownSignal).run.run p with
    | (.ok _, q) => q
    | (.error _, q) => ((kill host).run.run q).2

theorem run_shutdown (host : Host σ) (p : Supervised σ) :
    (shutdown host).run p =
      (((stopped host p).handle.drain host).1,
        { stopped host p with handle := ((stopped host p).handle.drain host).2 }) := by
  cases ended : p.state.isTerminal with
  | true => simp [shutdown, stopped, ended]; rfl
  | false =>
    rcases ht : (terminate host shutdownSignal).run.run p with ⟨e | outcome, q⟩ <;>
      simp [shutdown, stopped, ended, ht] <;> rfl

end Supervised

end GracefulDrain
