import GracefulDrain.Proofs.Process.Invariant

/-! # What no operation changes

An operation changes the world, what is known of the exit, and the state. The program, the process number,
how much output has been handed over, the command line and the budget stay as they were launched. -/

namespace GracefulDrain

namespace Handle
variable {σ : Type} {host : Host σ} {h h' h'' : Handle σ}

/-- `h'` is `h` but for the world and the exit. -/
def Keeps (h h' : Handle σ) : Prop := { h with world := h'.world, exit := h'.exit } = h'

theorem Keeps.trans (k : h.Keeps h') (k' : h'.Keeps h'') : h.Keeps h'' := by
  unfold Keeps at *
  rw [← k', ← k]

theorem Keeps.taken (k : h.Keeps h') : h'.takenOut = h.takenOut ∧ h'.takenErr = h.takenErr := by
  rw [← show _ = h' from k]
  exact ⟨rfl, rfl⟩

theorem poll_keeps : wp (poll host) (fun _ h' => h.Keeps h') (fun _ h' => h.Keeps h') h :=
  wp_poll (fun _ _ => rfl) (fun _ _ _ _ => rfl) (fun _ _ _ => rfl) fun _ _ _ _ => rfl

theorem sendSignal_keeps (signal : TermSignal) :
    wp (sendSignal host signal) (fun _ h' => h.Keeps h') (fun _ h' => h.Keeps h') h :=
  wp_sendSignal (fun _ _ => rfl) (fun _ _ _ _ => rfl) (fun _ _ _ _ => rfl) (fun _ _ _ _ _ => rfl)
    fun _ _ _ _ _ _ => rfl

theorem waitFor_keeps (timeout : Duration) (wait : Wait) :
    wp (waitFor host timeout wait) (fun _ h' => h.Keeps h') (fun _ h' => h.Keeps h') h :=
  wp_waitFor (fun _ _ => rfl) (fun _ _ _ _ => rfl) (fun _ _ _ _ => rfl) fun _ _ _ _ => rfl

theorem kill_keeps : wp (kill host) (fun _ h' => h.Keeps h') (fun _ h' => h.Keeps h') h :=
  wp_kill (fun _ _ => rfl) (fun _ _ _ _ => rfl) (fun _ _ _ _ => rfl) (fun _ _ _ _ _ _ => rfl)
    (fun _ _ _ _ _ _ _ _ _ => rfl) fun _ _ _ _ _ _ _ _ _ => rfl

end Handle

namespace Supervised
variable {σ α : Type} {host : Host σ} {p q r : Supervised σ}

/-- `q` is `p` but for the world, the exit and the state. -/
structure Keeps (p q : Supervised σ) : Prop where
  handle : p.handle.Keeps q.handle
  argv : q.argv = p.argv
  budget : q.budget = p.budget

namespace Keeps

theorem refl (p : Supervised σ) : p.Keeps p := ⟨rfl, rfl, rfl⟩

theorem trans (k : p.Keeps q) (k' : q.Keeps r) : p.Keeps r :=
  ⟨k.handle.trans k'.handle, k'.argv.trans k.argv, k'.budget.trans k.budget⟩

theorem of_handle {h : Handle σ} {next : Lifecycle} (k : p.handle.Keeps h) :
    p.Keeps { p with handle := h, state := next } :=
  ⟨k, rfl, rfl⟩

end Keeps

theorem preserves_keeps {act : Handle.Act σ α}
    (keeps : ∀ h, wp act (fun _ h' => h.Keeps h') (fun _ h' => h.Keeps h') h) : Preserves p.Keeps (viaHandle act) := by
  intro q k
  rw [wp_viaHandle]
  exact wp_mono (keeps q.handle) (fun _ _ k' => k.trans (.of_handle k')) fun _ _ k' => k.trans (.of_handle k')

/-- To have kept what was so in `p` is an invariant. -/
theorem invariant_keeps (host : Host σ) (p : Supervised σ) : Invariant host p.Keeps where
  move _ _ k := k.trans (.of_handle rfl)
  poll := preserves_keeps fun _ => Handle.poll_keeps
  sendSignal signal := preserves_keeps fun _ => Handle.sendSignal_keeps signal
  waitFor timeout wait := preserves_keeps fun _ => Handle.waitFor_keeps timeout wait
  kill := preserves_keeps fun _ => Handle.kill_keeps

theorem keeps_poll (host : Host σ) (p : Supervised σ) : p.Keeps ((poll host).run.run p).2 :=
  (preserves_poll (invariant_keeps host p)).run (.refl p)

theorem keeps_sendSignal (host : Host σ) (signal : TermSignal) (p : Supervised σ) :
    p.Keeps ((sendSignal host signal).run.run p).2 :=
  (preserves_sendSignal (invariant_keeps host p) signal).run (.refl p)

theorem keeps_after (p : Supervised σ) (events : List (Event σ)) : p.Keeps (after host p events) :=
  (invariant_keeps host p).after (fun _ _ _ k => k.trans (.of_handle rfl)) (.refl p)

end Supervised

end GracefulDrain
