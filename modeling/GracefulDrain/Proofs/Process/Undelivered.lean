import GracefulDrain.Proofs.Process.Deliveries

/-! # Signals that are not delivered

A process moves on to `signalSent` before its signal is handed to the host, and stays there if that fails. So a
send that fails leaves the state as it was, ends the process, or counts as sent what was not
(`sendSignal_unsent`). Between two operations `signalSent` therefore says the opposite of what it is named for: no
signal has been delivered. Only `draining` says that one has (`Faithful`). -/

namespace GracefulDrain

/-- An act that delivers nothing may turn `s` into `t`. -/
def Lifecycle.Unsent (s t : Lifecycle) : Prop := t = s ∨ t.isTerminal ∨ t = s.raise .signalSent

theorem Lifecycle.Unsent.early {s t : Lifecycle} (h : s.Unsent t) (early : t.rank ≤ Lifecycle.signalSent.rank) :
    s.rank ≤ Lifecycle.signalSent.rank := by
  revert h early
  unfold Lifecycle.Unsent
  cases s <;> cases t <;> decide

theorem Lifecycle.Unsent.draining {s : Lifecycle} (h : s.Unsent .draining) : s = .draining := by
  revert h
  unfold Lifecycle.Unsent
  cases s <;> decide

theorem Lifecycle.unsent_raise {s next : Lifecycle} (ended : next.isTerminal) : s.Unsent (s.raise next) := by
  unfold raise
  split
  · exact .inr (.inl ended)
  · exact .inl rfl

/-- What a failed send makes of the state is one case of it. -/
theorem Lifecycle.Unsent.of_failed {s t : Lifecycle} (h : t = s ∨ t = .terminated ∨ t = s.raise .signalSent) :
    s.Unsent t := by
  obtain same | rfl | raised := h
  · exact .inl same
  · exact .inr (.inl rfl)
  · exact .inr (.inr raised)

theorem Lifecycle.raise_terminated_cases (s : Lifecycle) :
    s.raise .terminated = s ∨ s.raise .terminated = .terminated := by
  unfold raise
  split
  · exact .inr rfl
  · exact .inl rfl

theorem Lifecycle.raise_draining {s : Lifecycle} (live : s.isTerminal = false) :
    (s.raise .signalSent).raise .draining = .draining := by
  revert live
  cases s <;> decide

namespace Supervised
variable {σ : Type} {host : Host σ} {p q : Supervised (Recorded σ)} {issued : List Call}

/-- Some termination signal has been delivered. -/
def Delivered (p : Supervised (Recorded σ)) : Prop := ∃ signal, Call.signal signal (.ok ()) ∈ p.signals

theorem delivered_iff (told : p.handle.Tells q.handle issued) :
    q.Delivered ↔ p.Delivered ∨ ∃ signal, Call.signal signal (.ok ()) ∈ issued := by
  have signals : q.signals = p.signals ++ issued := told.signals
  simp only [Delivered, signals, List.mem_append, exists_or]

/-- The state tells whether a signal has been delivered: none has up to `signalSent`, one has while draining. -/
structure Faithful (p : Supervised (Recorded σ)) : Prop where
  early : p.state.rank ≤ Lifecycle.signalSent.rank → ¬ p.Delivered
  draining : p.state = .draining → p.Delivered

theorem Faithful.of_unsent (h : p.Faithful) (told : p.handle.Tells q.handle issued)
    (none : ∀ signal, Call.signal signal (.ok ()) ∉ issued) (state : p.state.Unsent q.state) : q.Faithful := by
  have same : q.Delivered ↔ p.Delivered := by simp [delivered_iff told, none]
  refine ⟨fun early => ?_, fun draining => ?_⟩
  · rw [same]
    exact h.early (state.early early)
  · rw [same]
    rw [draining] at state
    exact h.draining state.draining

theorem Faithful.of_sent {signal : TermSignal} (told : p.handle.Tells q.handle [.signal signal (.ok ())])
    (state : q.state = .draining) : q.Faithful := by
  have delivered : q.Delivered := (delivered_iff told).mpr (.inr ⟨signal, by simp⟩)
  refine ⟨fun early => ?_, fun _ => delivered⟩
  rw [state] at early
  exact absurd early (by decide)

/-! ### What each operation makes of the state -/

section
variable {host : Host σ} {p : Supervised σ}

theorem poll_unsent :
    wp (poll host)
      (fun r q => (q.state = p.state ∨ q.state = .terminated) ∧ (r = none → q.state = p.state))
      (fun _ q => q.state = p.state) p := by
  rw [wp_poll]
  refine wp_of_forall (fun r h => ?_) fun _ _ => rfl
  cases r with
  | none => exact ⟨.inl rfl, fun _ => rfl⟩
  | some e => exact ⟨Lifecycle.raise_terminated_cases p.state, by simp⟩

/-- A send that fails leaves the state, finds that the process has terminated, or counts the signal as sent. -/
theorem sendSignal_unsent (signal : TermSignal) (live : p.state.isTerminal = false) :
    wp (sendSignal host signal) (fun _ q => q.state = .draining)
      (fun _ q => q.state = p.state ∨ q.state = .terminated ∨ q.state = p.state.raise .signalSent) p := by
  rw [wp_sendSignal live]
  refine wp_mono poll_unsent ?_ fun _ _ h => .inl h
  rintro r q ⟨polled, same⟩
  split
  · exact polled.imp_right .inl
  · rename_i alive
    rw [same (by simpa using alive)]
    exact wp_of_forall (fun _ _ => Lifecycle.raise_draining live) fun _ _ => .inr (.inr rfl)

theorem awaitTermination_unsent (live : p.state.isTerminal = false) :
    wp (awaitTermination host) (fun _ q => q.state.isTerminal) (fun _ q => q.state = p.state) p := by
  rw [wp_awaitTermination live]
  refine wp_of_forall (fun _ _ => rfl) fun f h => ?_
  split
  · exact wp_of_forall (fun _ _ => rfl) fun _ _ => rfl
  · rfl

end

/-! ### The state is faithful -/

theorem ForcedAtMostOnce.undelivered (forced : Handle.ForcedAtMostOnce issued) (signal : TermSignal) :
    Call.signal signal (.ok ()) ∉ issued := by
  rcases forced with rfl | ⟨answer, rfl⟩ <;> simp

theorem poll_faithful (host : Host σ) (h : p.Faithful) :
    wp (poll host.recorded) (fun _ q => q.Faithful) (fun _ q => q.Faithful) p :=
  wp_mono (wp_and (poll_tells host p) poll_unsent)
    (fun _ _ ⟨told, polled, _⟩ => h.of_unsent told (by simp) (.of_failed (polled.imp_right .inl)))
    fun _ _ ⟨⟨told, _⟩, same⟩ => h.of_unsent told (by simp) (.inl same)

theorem sendSignal_faithful (host : Host σ) (signal : TermSignal) (h : p.Faithful) :
    wp (sendSignal host.recorded signal) (fun _ q => q.Faithful) (fun _ q => q.Faithful) p := by
  cases live : p.state.isTerminal with
  | true =>
    rw [wp_sendSignal_of_isTerminal live]
    exact h
  | false =>
    refine wp_mono (wp_and (sendSignal_tells host signal p) (sendSignal_unsent signal live)) ?_ ?_
    · exact fun _ _ ⟨told, state⟩ => .of_sent told state
    · rintro f q ⟨told | ⟨reason, -, told⟩, failed⟩
      · exact h.of_unsent told (by simp) (.of_failed failed)
      · exact h.of_unsent told (by simp) (.of_failed failed)

theorem awaitTermination_faithful (host : Host σ) (h : p.Faithful) :
    wp (awaitTermination host.recorded) (fun _ q => q.Faithful) (fun _ q => q.Faithful) p := by
  cases live : p.state.isTerminal with
  | true =>
    rw [wp_awaitTermination_of_isTerminal live]
    exact h
  | false =>
    refine wp_mono (wp_and (awaitTermination_tells host p) (awaitTermination_unsent live)) ?_ ?_
    · rintro _ q ⟨⟨issued, told, forced⟩, ended⟩
      exact h.of_unsent told (ForcedAtMostOnce.undelivered forced) (.inr (.inl ended))
    · rintro _ q ⟨⟨issued, told, forced⟩, same⟩
      exact h.of_unsent told (ForcedAtMostOnce.undelivered forced) (.inl same)

theorem terminate_faithful (host : Host σ) (signal : TermSignal) (h : p.Faithful) :
    wp (terminate host.recorded signal) (fun _ q => q.Faithful) (fun _ q => q.Faithful) p := by
  cases live : p.state.isTerminal with
  | true =>
    rw [wp_terminate_of_isTerminal live]
    exact h
  | false =>
    rw [wp_terminate live]
    refine wp_mono (poll_faithful host h) (fun r q h => ?_) fun _ _ h => h
    cases r with
    | some code => exact h
    | none =>
      exact wp_mono (sendSignal_faithful host signal h) (fun _ _ h => awaitTermination_faithful host h)
        fun _ _ h => h

theorem kill_faithful (host : Host σ) (h : p.Faithful) :
    wp (kill host.recorded) (fun _ q => q.Faithful) (fun _ q => q.Faithful) p := by
  cases live : p.state.isTerminal with
  | true =>
    rw [wp_kill_of_isTerminal live]
    exact h
  | false =>
    rw [wp_kill live]
    refine wp_mono (wp_and (poll_tells host p) poll_unsent)
      ?_ fun _ _ ⟨⟨told, _⟩, same⟩ => h.of_unsent told (by simp) (.inl same)
    rintro r q ⟨told, polled, same⟩
    split
    · exact h.of_unsent told (by simp) (.of_failed (polled.imp_right .inl))
    · rename_i alive
      have same := same (by simpa using alive)
      refine wp_mono Handle.kill_tells ?_ ?_ <;> rintro _ h' ⟨issued, killed, forced⟩
      · refine h.of_unsent (told.trans killed) (ForcedAtMostOnce.undelivered forced) ?_
        rw [← same]
        exact Lifecycle.unsent_raise (by split <;> rfl)
      · exact h.of_unsent (told.trans killed) (ForcedAtMostOnce.undelivered forced) (.inl same)

theorem act_faithful (host : Host σ) (op : Operation) (h : p.Faithful) :
    wp (op.act host.recorded) (fun _ q => q.Faithful) (fun _ q => q.Faithful) p := by
  cases op <;> rw [Operation.act, wp_map]
  case poll => exact poll_faithful host h
  case sendSignal signal => exact sendSignal_faithful host signal h
  case awaitTermination => exact awaitTermination_faithful host h
  case terminate signal => exact terminate_faithful host signal h
  case kill => exact kill_faithful host h

theorem faithful_after (h : p.Faithful) (events : List (Event σ)) :
    (after host.recorded p (events.map .recorded)).Faithful := by
  induction events generalizing p with
  | nil => exact h
  | cons event rest ih =>
    refine ih ?_
    cases event with
    | operation op => exact of_wp (R := fun _ (q : Supervised (Recorded σ)) => q.Faithful) (act_faithful host op h)
    | meanwhile f => exact ⟨h.early, h.draining⟩

theorem faithful_of_launch {store : CredentialStore} {config : ProcessConfig} {run : Bool} {world : σ}
    {p₀ : Supervised σ} (launched : launch host store config run world = .ok p₀) : p₀.recording.Faithful := by
  have running : p₀.recording.state = .running := (fresh_of_launch launched).1
  refine ⟨fun _ ⟨signal, sent⟩ => ?_, fun draining => ?_⟩
  · simp [signals, Handle.signals, recording] at sent
  · rw [running] at draining
    cases draining

/-- Between two operations, a process that drains has been sent a signal, and none has been delivered to one in
`signalSent`. A send that fails leaves the state as it was or finds that the process has terminated, or else it is the
first one, counts as sent, and has delivered nothing. -/
theorem undelivered_signal_counts_as_sent {store : CredentialStore} {config : ProcessConfig} {run : Bool}
    {world : σ} {p₀ : Supervised σ} (launched : launch host store config run world = .ok p₀) (past : List (Event σ))
    (signal : TermSignal) :
    let p := after host p₀ past
    let r := after host.recorded p₀.recording (past.map .recorded)
    let sending := (sendSignal host.recorded signal).run.run r
    r.plain = p ∧
      (p.state = .draining → r.Delivered) ∧
      (p.state = .signalSent → ¬ r.Delivered) ∧
      ∀ f, p.state.isTerminal = false → sending.1 = .error f →
        sending.2.state = p.state ∨ sending.2.state = .terminated ∨
          (p.state = .running ∧ sending.2.state = .signalSent ∧ ¬ sending.2.Delivered) := by
  intro p r sending
  have plain : r.plain = p := plain_after host p₀.recording past
  have state : r.state = p.state := by rw [← plain]; rfl
  have faithful : r.Faithful := faithful_after (faithful_of_launch launched) past
  refine ⟨plain, fun draining => faithful.draining (state.trans draining), fun sent => faithful.early ?_,
    fun f live failed => ?_⟩
  · exact Nat.le_of_eq (by rw [state, sent])
  · have unsent : sending.2.state = r.state ∨ sending.2.state = .terminated ∨
        sending.2.state = r.state.raise .signalSent :=
      error_of_wp (sendSignal_unsent signal (by rw [state, live])) failed
    have after : sending.2.Faithful := error_of_wp (sendSignal_faithful host signal faithful) failed
    rw [state] at unsent
    rcases unsent with same | ended | raised
    · exact .inl same
    · exact .inr (.inl ended)
    · have launchedRunning : Lifecycle.running.rank ≤ p.state.rank :=
        (fresh_of_launch launched).1 ▸ (moves_after host p₀ past).state.rank_le
      cases now : p.state <;> rw [now] at raised live launchedRunning
      case running => exact .inr (.inr ⟨rfl, raised, after.early (by rw [raised]; decide)⟩)
      case signalSent | draining => exact .inl raised
      case starting => exact absurd launchedRunning (by decide)
      case terminated | killed => cases live

end Supervised

/-- A stage on which every signal is refused. -/
def Stage.refusing : Host Stage := { Stage.host with signal := fun _ s => (.error .permissionDenied, s) }

/-- A stage on which time goes by with every look at the child. -/
def Stage.racing : Host Stage :=
  { Stage.host with poll := fun s => (.ok s.ended, { s with clock := s.clock + 1 }) }

namespace Supervised

/-- A signal that gets through and one that does not, each sent to an actor that handles it. -/
theorem first_signal_of_actor :
    let handles : Script := { onTerminate := some {} }
    (∃ p₀ : Supervised Stage,
      launch Stage.host {} { binary := [97] } true { cast := fun _ => .ok handles } = .ok p₀ ∧
      (after Stage.host.recorded p₀.recording [.operation (.sendSignal .terminate)]).Delivered) ∧
    ∃ p₀ : Supervised Stage,
      launch Stage.refusing {} { binary := [97] } true { cast := fun _ => .ok handles } = .ok p₀ ∧
        ¬ (after Stage.refusing.recorded p₀.recording [.operation (.sendSignal .terminate)]).Delivered ∧
        let sending := (sendSignal Stage.refusing.recorded .terminate).run.run p₀.recording
        sending.2.state = p₀.state ∨ sending.2.state = .terminated ∨
          (p₀.state = .running ∧ sending.2.state = .signalSent ∧ ¬ sending.2.Delivered) := by
  intro handles
  obtain ⟨p₀, launched, draining⟩ : ∃ p₀ : Supervised Stage,
      launch Stage.host {} { binary := [97] } true { cast := fun _ => .ok handles } = .ok p₀ ∧
        (after Stage.host p₀ [.operation (.sendSignal .terminate)]).state = .draining := ⟨_, rfl, rfl⟩
  obtain ⟨p₁, launched', live, failed, sent⟩ : ∃ p₀ : Supervised Stage,
      launch Stage.refusing {} { binary := [97] } true { cast := fun _ => .ok handles } = .ok p₀ ∧
        p₀.state.isTerminal = false ∧
        ((sendSignal Stage.refusing.recorded .terminate).run.run p₀.recording).1 = .error (.io .permissionDenied) ∧
        (after Stage.refusing p₀ [.operation (.sendSignal .terminate)]).state = .signalSent :=
    ⟨_, rfl, rfl, rfl, rfl⟩
  refine ⟨⟨p₀, launched, ?_⟩, p₁, launched', ?_, ?_⟩
  · exact (undelivered_signal_counts_as_sent launched [.operation (.sendSignal .terminate)] .terminate).2.1 draining
  · exact (undelivered_signal_counts_as_sent launched' [.operation (.sendSignal .terminate)] .terminate).2.2.1 sent
  · exact (undelivered_signal_counts_as_sent launched' [] .terminate).2.2.2 _ live failed

/-- A signal that is refused, and one that comes just too late, count as sent. -/
theorem unsent_signals_count_as_sent :
    (∃ p₀ : Supervised Stage,
      launch Stage.refusing {} { binary := [97] } true { cast := fun _ => .ok {} } = .ok p₀ ∧ p₀.state = .running ∧
      let sending := (sendSignal Stage.refusing.recorded .terminate).run.run p₀.recording
      sending.1 = .error (.io .permissionDenied) ∧ sending.2.state = .signalSent ∧
        sending.2.signals = [.signal .terminate (.error .permissionDenied)]) ∧
    ∃ p₀ : Supervised Stage,
      launch Stage.racing {} { binary := [97] } true
          { cast := fun _ => .ok { ending := some (.code 0), delay := .saturate 1 } } = .ok p₀ ∧
        p₀.state = .running ∧
        let sending := (sendSignal Stage.racing.recorded .terminate).run.run p₀.recording
        sending.1 = .error (.notRunning 1 .terminated) ∧ sending.2.state = .signalSent ∧ sending.2.signals = [] :=
  ⟨⟨_, rfl, rfl, rfl, rfl, rfl⟩, _, rfl, rfl, rfl, rfl, rfl⟩

end Supervised

end GracefulDrain
