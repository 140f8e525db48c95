import GracefulDrain.Proofs.Process.Invariant

/-! # What is true of a child

A host can be late, and its calls can fail. What is true of the child all the same is whether it has ended, and what
it has written (`Host.Truth`). Whatever is done to a process, what is known of the exit of its child is true
(`Host.Truth.invariant`), as long as nothing that happens meanwhile undoes an end. -/

namespace GracefulDrain

/-- What is true of the child behind a host. Any call may fail, but an exit that the host reports is that of a child
that has ended. Once the child has ended and the host has settled, all that it has written has been read, as is so
where nobody else holds its streams open. -/
structure Host.Truth {σ : Type} (host : Host σ) where
  /-- How the child has ended, if it has. -/
  ended : σ → Option Exit
  /-- What the child has written to a stream so far, whether it has been read or not. -/
  wrote : σ → Stream → ByteArray
  polled : ∀ w e, (host.poll w).1 = .ok (some e) → ended (host.poll w).2 = some e
  awaited : ∀ timeout w e, (host.await timeout w).1 = .ok (some e) → ended (host.await timeout w).2 = some e
  reaped : ∀ w e, (host.reap (host.forceKill w).2).1 = .ok e → ended (host.reap (host.forceKill w).2).2 = some e
  settled : ∀ w e, ended w = some e → ended (host.settle w) = some e ∧
    ∀ stream, host.output stream (host.settle w) = wrote (host.settle w) stream

namespace Host.Truth
variable {σ : Type} {host : Host σ} {truth : host.Truth} {h : Handle σ}

/-- A child that has ended before the change has ended after it. -/
def Lasts (truth : host.Truth) (f : σ → σ) : Prop := ∀ w e, truth.ended w = some e → truth.ended (f w) = some e

/-- What is kept of that which the child has written. -/
def kept (truth : host.Truth) (w : σ) : CapturedOutput :=
  ⟨Utf8.lossy ((truth.wrote w .stdout).extract 0 OutputBuffer.limit),
    Utf8.lossy ((truth.wrote w .stderr).extract 0 OutputBuffer.limit)⟩

/-- What the handle knows of the exit is true. -/
def Holds (truth : host.Truth) (h : Handle σ) : Prop := ∀ e, h.exit = some e → truth.ended h.world = some e

theorem holds_of_unknown (unknown : h.exit = none) : truth.Holds h := by
  intro e known
  rw [unknown] at known
  cases known

theorem holds_of_ended {e : Exit} {w : σ} (ended : truth.ended w = some e) :
    truth.Holds { h with world := w, exit := some e } := by
  rintro _ ⟨⟩
  exact ended

theorem holds_of_polled {e : Exit} {w : σ} (polled : host.poll h.world = (.ok (some e), w)) :
    truth.Holds { h with world := w, exit := some e } := by
  have ended := truth.polled h.world e
  rw [polled] at ended
  exact holds_of_ended (ended rfl)

theorem preserves_poll : Preserves truth.Holds (Handle.poll host) := by
  intro h holds
  refine Handle.wp_poll (fun _ _ => holds) ?_ ?_ ?_
  · exact fun _ _ _ polled => holds_of_polled polled
  · exact fun unknown _ _ => holds_of_unknown unknown
  · exact fun unknown _ _ _ => holds_of_unknown unknown

theorem preserves_sendSignal (signal : TermSignal) : Preserves truth.Holds (Handle.sendSignal host signal) := by
  intro h holds
  refine Handle.wp_sendSignal (fun _ _ => holds) ?_ ?_ ?_ ?_
  · exact fun _ _ _ polled => holds_of_polled polled
  · exact fun unknown _ _ _ => holds_of_unknown unknown
  · exact fun unknown _ _ _ _ => holds_of_unknown unknown
  · exact fun unknown _ _ _ _ _ => holds_of_unknown unknown

theorem preserves_waitFor (timeout : Duration) (wait : Wait) :
    Preserves truth.Holds (Handle.waitFor host timeout wait) := by
  intro h holds
  refine Handle.wp_waitFor (fun _ _ => holds) ?_ ?_ ?_
  · intro _ e w awaited
    have ended := truth.awaited timeout h.world e
    rw [awaited] at ended
    exact holds_of_ended (ended rfl)
  · exact fun unknown _ _ _ => holds_of_unknown unknown
  · exact fun unknown _ _ _ => holds_of_unknown unknown

theorem preserves_kill : Preserves truth.Holds (Handle.kill host) := by
  intro h holds
  refine Handle.wp_kill (fun _ _ => holds) ?_ ?_ ?_ ?_ ?_
  · exact fun _ _ _ polled => holds_of_polled polled
  · exact fun unknown _ _ _ => holds_of_unknown unknown
  · exact fun unknown _ _ _ _ _ => holds_of_unknown unknown
  · intro _ w answer w' e w'' _ killed reaped
    have ended := truth.reaped w e
    rw [killed, reaped] at ended
    exact holds_of_ended (ended rfl)
  · exact fun unknown _ _ _ _ _ _ _ _ => holds_of_unknown unknown

/-- Whatever is done to a process, what is known of the exit is true. -/
theorem invariant (truth : host.Truth) : Supervised.Invariant host fun p => truth.Holds p.handle :=
  .of_handle preserves_poll preserves_sendSignal preserves_waitFor preserves_kill

/-- Nothing is known of a child that has just been launched, so whatever becomes known of it is true. -/
theorem holds_after (truth : host.Truth) {store : CredentialStore} {config : ProcessConfig} {run : Bool} {world : σ}
    {p₀ : Supervised σ} (launched : Supervised.launch host store config run world = .ok p₀) {past : List (Event σ)}
    (lasting : ∀ f, Event.meanwhile f ∈ past → truth.Lasts f) :
    truth.Holds (Supervised.after host p₀ past).handle := by
  refine truth.invariant.after (fun f mem q holds e known => ?_) ?_
  · exact lasting f mem _ e (holds e known)
  · exact holds_of_unknown (Supervised.fresh_of_launch launched).2

end Host.Truth

/-! ### On a stage -/

namespace Stage
variable {s : Stage}

theorem ended_of_ending {time : Nat} {e : Exit} (ending : s.player.ending = some (time, e)) (past : time ≤ s.clock) :
    s.ended = some e := by
  unfold ended
  rw [ending]
  exact if_pos past

theorem exists_ending {e : Exit} (ended : s.ended = some e) :
    ∃ time ≤ s.clock, s.player.ending = some (time, e) := by
  unfold Stage.ended at ended
  rcases ending : s.player.ending with _ | ⟨time, e'⟩ <;> rw [ending] at ended
  · cases ended
  · dsimp only at ended
    split at ended <;> cases ended
    exact ⟨time, ‹_›, rfl⟩

theorem ended_await {timeout : Duration} {e : Exit} (heard : (s.await timeout).1 = some e) :
    (s.await timeout).2.ended = some e := by
  unfold Stage.await at heard ⊢
  rcases ending : s.player.ending with _ | ⟨time, e'⟩ <;> simp only [ending] at heard ⊢
  · cases heard
  · split at heard <;> cases heard
    rw [if_pos ‹_›]
    exact ended_of_ending ending (Nat.le_max_right _ _)

theorem ending_forceKill (s : Stage) : ∃ time e, s.forceKill.player.ending = some (time, e) := by
  unfold Stage.forceKill
  cases ended : s.ended with
  | none => exact ⟨_, _, rfl⟩
  | some e =>
    obtain ⟨time, -, ending⟩ := exists_ending ended
    exact ⟨time, e, ending⟩

theorem ended_reap (s : Stage) : s.forceKill.reap.2.ended = some s.forceKill.reap.1 := by
  obtain ⟨time, e, ending⟩ := s.ending_forceKill
  unfold Stage.reap
  rw [ending]
  exact ended_of_ending ending (Nat.le_max_right _ _)

/-- The child of a stage has written all at once, and it is read at once. -/
def truth : host.Truth where
  ended := ended
  wrote s stream := output stream s
  polled _ _ polled := Except.ok.inj polled
  awaited _ _ _ awaited := ended_await (Except.ok.inj awaited)
  reaped s _ reaped := (ended_reap s).trans (congrArg some (Except.ok.inj reaped))
  settled _ _ ended := ⟨ended, fun _ => rfl⟩

end Stage

end GracefulDrain
