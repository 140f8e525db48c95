import GracefulDrain.Proofs.Process.Grace

/-! # What comes of an orderly termination

A child does what it does: it ends at a time or goes on, and a termination signal changes that in the way the child
reacts to it (`TermSignal.fate`). A host shows a child if its answers agree with that (`Host.Child`). A termination
polls three times before it signals: by itself, as the sending does, and as the handle does. If the child is alive
to all of them, it is sent the signal and waited for (`Supervised.run_terminate_of_alive`). What comes of the wait
depends on whether the child ends within the budget (`Supervised.awaitTermination_of_child`), and the termination
does not fail. -/

namespace GracefulDrain

/-- When and how a child ends, if it ever does. -/
abbrev Fate := Option (Nat × Exit)

namespace Fate

/-- The exit of the child if it has ended by `time`. -/
def seen (fate : Fate) (time : Nat) : Option Exit :=
  match fate with
  | some (ended, e) => if ended ≤ time then some e else none
  | none => none

/-- The child has not ended by `time`. -/
def AliveAt (fate : Fate) (time : Nat) : Prop := fate.seen time = none

instance (fate : Fate) (time : Nat) : Decidable (fate.AliveAt time) :=
  inferInstanceAs (Decidable (fate.seen time = none))

theorem AliveAt.mono {fate : Fate} {time later : Nat} (h : fate.AliveAt later) (le : time ≤ later) :
    fate.AliveAt time := by
  unfold AliveAt seen at *
  rcases fate with _ | ⟨ended, e⟩
  · rfl
  · by_cases past : ended ≤ time
    · simp [Nat.le_trans past le] at h
    · exact if_neg past

end Fate

/-- How a child ends that gets a signal at `time`: at once, by the signal, if it does not handle it; else when its
handler ends it, if that does, and as planned before if not. -/
def TermSignal.fate (signal : TermSignal) (reaction : Option Reaction) (time : Nat) (planned : Fate) : Fate :=
  match reaction with
  | none => some (time, .signal signal.number)
  | some r =>
    match r.exit with
    | some n => some (time + r.delay.nanos, .code n)
    | none => planned

/-- The whole wait is the product, as far as durations go. -/
theorem TerminationBudget.total_nanos (b : TerminationBudget) :
    b.total.nanos = min (b.attempts.toNat * b.pollInterval.nanos) (durationLimit - 1) := by
  rw [total, Duration.times, Duration.saturate, Nat.mul_comm]
  split
  · rename_i fits
    exact (Nat.min_eq_left (Nat.le_sub_one_of_lt fits)).symm
  · rename_i large
    exact (Nat.min_eq_right (Nat.le_trans (Nat.sub_le _ _) (Nat.not_lt.1 large))).symm

namespace Host
variable {σ : Type} {host : Host σ} {w : σ} {n time : Nat}

/-- The world after `n` polls. -/
def polled (host : Host σ) : Nat → σ → σ
  | 0, w => w
  | n + 1, w => (host.poll (host.polled n w)).2

/-- A child that the host shows as it is: what becomes of it, as things are in each world, with calls that agree.
A poll looks at the child at some time during the call. A signal reaches a child that is alive at `delivery`, and
then the child does as it reacts. A wait hears of an end before its deadline, and of none if the child is alive
then. A forced kill gets through. -/
structure Child (host : Host σ) where
  fate : σ → Fate
  reaction : σ → TermSignal → Option Reaction
  /-- When a signal that is sent now reaches the child. -/
  delivery : σ → TermSignal → Nat
  poll : ∀ w, ∃ time, host.clock w ≤ time ∧ time ≤ host.clock (host.poll w).2 ∧
    (host.poll w).1 = .ok ((fate w).seen time)
  fate_poll : ∀ w, fate (host.poll w).2 = fate w
  reaction_poll : ∀ w, reaction (host.poll w).2 = reaction w
  le_delivery : ∀ w signal, host.clock w ≤ delivery w signal
  delivery_le : ∀ w signal, delivery w signal ≤ host.clock (host.signal signal w).2
  signal : ∀ w signal, (fate w).AliveAt (delivery w signal) → (host.signal signal w).1 = .ok () ∧
    fate (host.signal signal w).2 = signal.fate (reaction w signal) (delivery w signal) (fate w)
  await : ∀ timeout w, ∃ exit, (host.await timeout w).1 = .ok exit
  await_ended : ∀ (timeout : Duration) w time e, fate w = some (time, e) →
    time < host.clock w + timeout.nanos → (host.await timeout w).1 = .ok (some e)
  await_alive : ∀ (timeout : Duration) w, (fate w).AliveAt (host.clock w + timeout.nanos) →
    (host.await timeout w).1 = .ok none
  kill : ∀ w, host.AcceptsKill w

namespace Child

theorem le_clock_poll (child : host.Child) (w : σ) : host.clock w ≤ host.clock (host.poll w).2 := by
  obtain ⟨time, begun, done, -⟩ := child.poll w
  exact Nat.le_trans begun done

theorem fate_polled (child : host.Child) (n : Nat) (w : σ) : child.fate (host.polled n w) = child.fate w := by
  induction n with
  | zero => rfl
  | succ n ih => exact (child.fate_poll _).trans ih

theorem reaction_polled (child : host.Child) (n : Nat) (w : σ) :
    child.reaction (host.polled n w) = child.reaction w := by
  induction n with
  | zero => rfl
  | succ n ih => exact (child.reaction_poll _).trans ih

theorem clock_polled_mono (child : host.Child) {m : Nat} (le : n ≤ m) (w : σ) :
    host.clock (host.polled n w) ≤ host.clock (host.polled m w) := by
  induction le with
  | refl => exact Nat.le_refl _
  | step _ ih => exact Nat.le_trans ih (child.le_clock_poll _)

/-- A child that is alive later on is found alive by each poll before. -/
theorem poll_polled_of_alive (child : host.Child) {m : Nat} (alive : (child.fate w).AliveAt time)
    (later : host.clock (host.polled m w) ≤ time) (before : n < m) :
    host.poll (host.polled n w) = (.ok none, host.polled (n + 1) w) := by
  obtain ⟨moment, -, done, answer⟩ := child.poll (host.polled n w)
  have past : host.clock (host.polled (n + 1) w) ≤ host.clock (host.polled m w) := child.clock_polled_mono before w
  have done : moment ≤ host.clock (host.polled (n + 1) w) := done
  rw [child.fate_polled, alive.mono (by omega)] at answer
  exact Prod.ext answer rfl

end Child
end Host

namespace Handle
variable {σ : Type} {host : Host σ} {h : Handle σ} {w w' : σ}

theorem run_poll_of_alive (unknown : h.exit = none) (alive : host.poll h.world = (.ok none, w)) :
    (poll host).run.run h = (.ok none, { h with world := w }) := by
  rw [run_poll, unknown, alive]

theorem run_sendSignal_of_alive {signal : TermSignal} (unknown : h.exit = none)
    (alive : host.poll h.world = (.ok none, w)) (sent : host.signal signal w = (.ok (), w')) :
    (sendSignal host signal).run.run h = (.ok (), { h with world := w' }) := by
  refine run_of_wp ?_
  rw [sendSignal, wp_bind]
  refine wp_of_run (run_poll_of_alive unknown alive) ?_
  simp [sent]

end Handle

theorem wp_run {τ α : Type} (x : ExceptT Failure (StateM τ) α) (s : τ) :
    wp x (fun a t => (.ok a, t) = x.run.run s) (fun e t => (.error e, t) = x.run.run s) s := by
  unfold wp
  rcases x.run.run s with ⟨e | a, t⟩ <;> rfl

namespace Supervised
variable {σ : Type} {host : Host σ} {p : Supervised σ} {signal : TermSignal} {w : σ} {e : Exit}

/-- A process whose exit is visible is not signalled. -/
theorem run_terminate_of_visible (live : p.state.isTerminal = false) {h : Handle σ}
    (visible : (Handle.poll host).run.run p.handle = (.ok (some e), h)) :
    (terminate host signal).run.run p =
      (.ok (.exited e.code? .zero), { p with handle := h, state := .terminated }) := by
  refine run_of_wp ?_
  rw [wp_terminate live, wp_poll]
  refine wp_of_run visible ⟨rfl, ?_⟩
  simp [Lifecycle.raise_terminated live]

/-- A child that is alive to both polls is sent the signal. -/
theorem run_sendSignal_of_alive {w₁ w₂ w₃ : σ} (live : p.state.isTerminal = false) (unknown : p.handle.exit = none)
    (first : host.poll p.handle.world = (.ok none, w₁)) (second : host.poll w₁ = (.ok none, w₂))
    (sent : host.signal signal w₂ = (.ok (), w₃)) :
    (sendSignal host signal).run.run p =
      (.ok (), { p with
        handle := { p.handle with world := w₃ }
        state := (p.state.raise .signalSent).raise .draining }) := by
  refine run_of_wp ?_
  rw [wp_sendSignal live, wp_poll]
  refine wp_of_run (Handle.run_poll_of_alive unknown first) ?_
  exact wp_of_run (Handle.run_sendSignal_of_alive unknown second sent) ⟨rfl, rfl⟩

/-- A termination whose polls find the child alive is the wait for its end after the signal. -/
theorem run_terminate_of_alive (live : p.state.isTerminal = false) (unknown : p.handle.exit = none)
    (alive : ∀ n < 3, host.poll (host.polled n p.handle.world) = (.ok none, host.polled (n + 1) p.handle.world))
    (sent : host.signal signal (host.polled 3 p.handle.world) = (.ok (), w)) :
    (terminate host signal).run.run p =
      (awaitTermination host).run.run
        { p with
          handle := { p.handle with world := w }
          state := (p.state.raise .signalSent).raise .draining } := by
  generalize ran : (awaitTermination host).run.run _ = r
  obtain ⟨r, t⟩ := r
  refine run_of_wp ?_
  rw [wp_terminate live, wp_poll]
  refine wp_of_run (Handle.run_poll_of_alive unknown (alive 0 (by omega))) ?_
  refine wp_of_run (run_sendSignal_of_alive live unknown (alive 1 (by omega)) (alive 2 (by omega)) sent) ?_
  exact wp_mono (wp_run _ _) (fun _ _ h => Prod.mk.inj (h.trans ran)) fun _ _ h => Prod.mk.inj (h.trans ran)

theorem run_awaitTermination_of_ended (live : p.state.isTerminal = false) (unknown : p.handle.exit = none)
    (ended : host.await p.budget.total p.handle.world = (.ok (some e), w)) :
    (awaitTermination host).run.run p =
      (.ok (.exited e.code? (.between (host.clock p.handle.world) (host.clock w))),
        { p with handle := { p.handle with world := w, exit := some e }, state := .terminated }) := by
  refine run_of_wp ?_
  rw [wp_awaitTermination live]
  refine Handle.wp_waitFor ?_ ?_ ?_ ?_
  · intro e known
    rw [unknown] at known
    cases known
  · intro _ e' w' heard
    rw [ended] at heard
    cases heard
    exact ⟨rfl, rfl⟩
  · intro _ w' text expired
    rw [ended] at expired
    cases expired
  · intro _ reason w' failed
    rw [ended] at failed
    cases failed

/-- What comes of a wait that begins at `begun` and may last for `bound`: it does not fail, it reports the exit of a
child that ends before the time is up, and a child that is still alive then is killed. -/
structure Awaits (host : Host σ) (fate : Fate) (begun bound : Nat) (run : Except Failure Outcome × Supervised σ) :
    Prop where
  answers : ∃ outcome, run.1 = .ok outcome
  ended : ∀ time e, fate = some (time, e) → time < begun + bound →
    run.1 = .ok (.exited e.code? (.between begun (host.clock run.2.handle.world))) ∧
      run.2.state = .terminated ∧ run.2.handle.exit = some e
  outlived : fate.AliveAt (begun + bound) →
    run.1 = .ok (.killed (.between begun (host.clock run.2.handle.world))) ∧
      run.2.state = .killed ∧ run.2.handle.exit.isSome

theorem awaitTermination_of_child (child : host.Child) (live : p.state.isTerminal = false)
    (unknown : p.handle.exit = none) :
    Awaits host (child.fate p.handle.world) (host.clock p.handle.world) p.budget.total.nanos
      ((awaitTermination host).run.run p) := by
  have ended {e : Exit} (heard : (host.await p.budget.total p.handle.world).1 = .ok (some e)) :=
    run_awaitTermination_of_ended live unknown (Prod.ext heard rfl)
  have expired (silent : (host.await p.budget.total p.handle.world).1 = .ok none) :=
    awaitTermination_of_expired live unknown (Prod.ext silent rfl) (child.kill _)
  refine ⟨?_, fun time e fate inTime => ?_, fun alive => ?_⟩
  · obtain ⟨_ | e, answer⟩ := child.await p.budget.total p.handle.world
    · exact succeeds_of_wp (expired answer)
    · rw [ended answer]
      exact ⟨_, rfl⟩
  · rw [ended (child.await_ended _ _ time e fate inTime)]
    exact ⟨rfl, rfl, rfl⟩
  · have killed := expired (child.await_alive _ _ alive)
    obtain ⟨outcome, ok⟩ := succeeds_of_wp killed
    obtain ⟨rfl, state, exit⟩ := ok_of_wp killed ok
    exact ⟨ok, state, exit⟩

/-- A process whose exit is visible is not signalled. -/
theorem signals_of_visible (live : p.state.isTerminal = false)
    (visible : ((Handle.poll host).run.run p.handle).1 = .ok (some e)) :
    ((terminate host.recorded signal).run.run p.recording).2.signals = [] := by
  have shown := Handle.mirrors_poll host.recorded_shows p.recording.handle
  -- the poll that is recorded sees the same exit
  have visible : ((Handle.poll host.recorded).run.run p.recording.handle).1 = .ok (some e) := by
    rw [← visible]
    exact (congrArg Prod.fst shown).symm
  have tells := ok_of_wp Handle.poll_tells visible
  rw [run_terminate_of_visible (p := p.recording) live (Prod.ext visible rfl)]
  exact tells.1.signals

/-- What comes of an orderly termination of a process that is live as far as known. If the exit of its child is
visible, it has exited with that, no time goes by, and no signal is sent. If the child is still alive when the signal
reaches it, the termination does not fail: the process has exited if its child, as it reacts to the signal, ends
before the wait for it has lasted as long as the budget, and it has been killed if the child is alive then. -/
theorem terminate_by_reaction (live : p.state.isTerminal = false) (signal : TermSignal) :
    let run := (terminate host signal).run.run p
    let recorded := ((terminate host.recorded signal).run.run p.recording).2
    (∀ e, ((Handle.poll host).run.run p.handle).1 = .ok (some e) →
      run.1 = .ok (.exited e.code? .zero) ∧ run.2.state = .terminated ∧ run.2.handle.exit = some e ∧
        recorded.plain = run.2 ∧ recorded.signals = []) ∧
    (p.handle.exit = none → ∀ child : host.Child,
      let sending := host.polled 3 p.handle.world
      let delivered := child.delivery sending signal
      let begun := host.clock (host.signal signal sending).2
      (child.fate p.handle.world).AliveAt delivered →
        delivered ≤ begun ∧
          Awaits host (signal.fate (child.reaction p.handle.world signal) delivered (child.fate p.handle.world))
            begun (min (p.budget.attempts.toNat * p.budget.pollInterval.nanos) (durationLimit - 1)) run) := by
  intro run recorded
  refine ⟨fun e visible => ?_, fun unknown child => ?_⟩
  · have ran : run = _ := run_terminate_of_visible live (Prod.ext visible rfl)
    have exit := (ok_of_wp Handle.poll_recalls visible).2
    have shown : run = ((terminate host.recorded signal).run.run p.recording |>.1, recorded.plain) :=
      mirrors_terminate host.recorded_shows p.recording signal
    refine ⟨?_, ?_, ?_, (congrArg Prod.snd shown).symm, signals_of_visible live visible⟩ <;> rw [ran]
    exact exit
  · intro sending delivered begun alive
    -- the polls come before the signal does, so a child that is alive to the signal is alive to them
    have polls : ∀ n < 3, host.poll (host.polled n p.handle.world) = (.ok none, host.polled (n + 1) p.handle.world) :=
      fun n before => child.poll_polled_of_alive alive (child.le_delivery sending signal) before
    have aliveThen : (child.fate sending).AliveAt delivered := by
      rw [child.fate_polled]
      exact alive
    obtain ⟨sent, after⟩ := child.signal sending signal aliveThen
    rw [child.fate_polled, child.reaction_polled] at after
    have ran : run = _ := run_terminate_of_alive live unknown polls (Prod.ext sent rfl)
    have signalled := Lifecycle.isTerminal_raise .signalSent live rfl
    have draining := Lifecycle.isTerminal_raise .draining signalled rfl
    rw [ran, ← TerminationBudget.total_nanos, ← after]
    refine ⟨child.delivery_le sending signal, ?_⟩
    exact awaitTermination_of_child (p := { p with
      handle := { p.handle with world := (host.signal signal sending).2 }
      state := (p.state.raise .signalSent).raise .draining }) child draining unknown

end Supervised

namespace Stage
variable {s : Stage} {signal : TermSignal} {timeout : Duration}

theorem clock_receive : (s.receive signal).clock = s.clock := by
  unfold receive
  split
  · rfl
  · split <;> rfl

theorem ending_receive (alive : Fate.AliveAt s.player.ending s.clock) :
    (s.receive signal).player.ending =
      signal.fate (s.player.script.reaction signal) s.clock s.player.ending := by
  have alive : s.ended = none := alive
  unfold receive TermSignal.fate
  rw [alive]
  cases s.player.script.reaction signal <;> rfl

theorem await_of_alive (alive : Fate.AliveAt s.player.ending (s.clock + timeout.nanos)) :
    (host.await timeout s).1 = .ok none := by
  unfold Fate.AliveAt Fate.seen at alive
  rcases ending : s.player.ending with _ | ⟨time, e⟩ <;> rw [ending] at alive
  · show Except.ok (s.await timeout).1 = _
    unfold Stage.await
    rw [ending]
  · have late : s.clock + timeout.nanos < time := by simpa using alive
    rw [host_expired ending late]

/-- The child of a stage. -/
def child : host.Child where
  fate s := s.player.ending
  reaction s := s.player.script.reaction
  delivery s _ := s.clock
  poll s := ⟨s.clock, Nat.le_refl _, Nat.le_refl _, rfl⟩
  fate_poll _ := rfl
  reaction_poll _ := rfl
  le_delivery _ _ := Nat.le_refl _
  delivery_le _ _ := Nat.le_of_eq clock_receive.symm
  signal _ _ alive := ⟨rfl, ending_receive alive⟩
  await _ _ := ⟨_, rfl⟩
  await_ended _ _ _ _ fate inTime := congrArg Prod.fst (host_ended fate (Nat.le_of_lt inTime))
  await_alive _ _ alive := await_of_alive alive
  kill _ := acceptsKill rfl rfl rfl

end Stage

namespace Supervised

/-- A child that takes `delay` to end once it has been asked to, and has just been launched. -/
def lingeringProcess (delay : Duration) : Supervised Stage :=
  { handle := { program := "a", pid := Stage.pid, world := (Stage.lingeringStage delay).play (Stage.lingering delay) }
    state := .running, argv := ["a", "tunnel", "run"], budget := {} }

/-- Within ten seconds, a child of nine exits and one of eleven is killed. -/
theorem lingering_children_exit_or_are_killed :
    (lingeringProcess (.ofSecs 9)).state.isTerminal = false ∧
      (∃ elapsed, ((terminate Stage.host .terminate).run.run (lingeringProcess (.ofSecs 9))).1 =
        .ok (.exited (some 0) elapsed)) ∧
      (lingeringProcess (.ofSecs 11)).state.isTerminal = false ∧
      ∃ elapsed, ((terminate Stage.host .terminate).run.run (lingeringProcess (.ofSecs 11))).1 =
        .ok (.killed elapsed) := by
  obtain ⟨-, early⟩ := @terminate_by_reaction _ Stage.host (lingeringProcess (.ofSecs 9)) rfl .terminate
  obtain ⟨-, late⟩ := @terminate_by_reaction _ Stage.host (lingeringProcess (.ofSecs 11)) rfl .terminate
  obtain ⟨-, early⟩ := early rfl Stage.child rfl
  obtain ⟨-, late⟩ := late rfl Stage.child rfl
  refine ⟨rfl, ⟨_, (early.ended 9_000_000_000 (.code 0) ?_ ?_).1⟩, rfl, ⟨_, (late.outlived ?_).1⟩⟩
  · rfl
  · decide
  · decide

end Supervised

end GracefulDrain
