import GracefulDrain.Proofs.Process.Act
import GracefulDrain.Rehearsal.Stage

/-! # The life of a supervised process

Whatever its owner does and whatever becomes of the child meanwhile, a process moves forward through its
states, ends at most once, and has a recorded exit from then on. `Moves` relates a process to what an
operation makes of it: each operation moves (`Operation.act_moves`), hence every run does
(`moves_after`). -/

namespace GracefulDrain

/-- The failure is not that of a move that no life makes. -/
def Failure.IsLegal (f : Failure) : Prop := ∀ move, f ≠ .illegalMove move

theorem Failure.isLegal_notRunning (pid : Nat) (s : Lifecycle) : (notRunning pid s).IsLegal := fun _ => nofun

theorem Failure.isLegal_io (reason : OsError) : (io reason).IsLegal := fun _ => nofun

theorem Failure.isLegal_timedOut (wait : Wait) (elapsed : Duration) (text : String) :
    (timedOut wait elapsed text).IsLegal := fun _ => nofun

namespace Lifecycle
variable {s t u next : Lifecycle}

/-- `t` is `s` or may follow it. -/
def Leads (s t : Lifecycle) : Prop := t = s ∨ s.canBecome t = true

theorem Leads.refl (s : Lifecycle) : s.Leads s := .inl rfl

theorem canBecome_iff : s.canBecome t = true ↔ s.isTerminal = false ∧ s.rank < t.rank := by
  simp [canBecome]

theorem Leads.trans (h : s.Leads t) (h' : t.Leads u) : s.Leads u := by
  rcases h with rfl | h
  · exact h'
  rcases h' with rfl | h'
  · exact .inr h
  obtain ⟨live, lt⟩ := canBecome_iff.1 h
  exact .inr (canBecome_iff.2 ⟨live, Nat.lt_trans lt (canBecome_iff.1 h').2⟩)

theorem Leads.rank_le (h : s.Leads t) : s.rank ≤ t.rank := by
  rcases h with rfl | h
  · exact Nat.le_refl _
  · exact Nat.le_of_lt (canBecome_iff.1 h).2

theorem Leads.eq_of_isTerminal (h : s.Leads t) (ended : s.isTerminal) : t = s := by
  rcases h with rfl | h
  · rfl
  · rw [(canBecome_iff.1 h).1] at ended
    cases ended

theorem leads_raise (s next : Lifecycle) : s.Leads (s.raise next) := by
  unfold raise
  split
  · exact .inr ‹_›
  · exact .refl s

theorem isTerminal_raise (next : Lifecycle) (live : s.isTerminal = false) (h : next.isTerminal = false) :
    (s.raise next).isTerminal = false := by
  unfold raise; split <;> assumption

end Lifecycle

namespace Handle
variable {σ : Type} {host : Host σ} {h h' h'' : Handle σ}

/-- An exit that `h` knows is still known to `h'`. -/
def Recalls (h h' : Handle σ) : Prop := ∀ e, h.exit = some e → h'.exit = some e

theorem Recalls.refl (h : Handle σ) : h.Recalls h := fun _ he => he

theorem Recalls.trans (r : h.Recalls h') (r' : h'.Recalls h'') : h.Recalls h'' :=
  fun e he => r' e (r e he)

theorem Recalls.of_unknown (hx : h.exit = none) : h.Recalls h' := fun _ he => by
  rw [hx] at he; cases he

theorem poll_recalls :
    wp (poll host) (fun r h' => h.Recalls h' ∧ h'.exit = r)
      (fun f h' => h.Recalls h' ∧ f.IsLegal ∧ h'.exit = none) h :=
  wp_poll (fun _ hx => ⟨.refl h, hx⟩) (fun hx _ _ _ => ⟨.of_unknown hx, rfl⟩)
    (fun hx _ _ => ⟨.of_unknown hx, hx⟩) fun hx _ _ _ => ⟨.of_unknown hx, Failure.isLegal_io _, hx⟩

theorem sendSignal_recalls (signal : TermSignal) :
    wp (sendSignal host signal) (fun _ h' => h.Recalls h') (fun f h' => h.Recalls h' ∧ f.IsLegal) h :=
  wp_sendSignal (fun _ _ => ⟨.refl h, Failure.isLegal_notRunning _ _⟩)
    (fun hx _ _ _ => ⟨.of_unknown hx, Failure.isLegal_notRunning _ _⟩)
    (fun hx _ _ _ => ⟨.of_unknown hx, Failure.isLegal_io _⟩) (fun hx _ _ _ _ => .of_unknown hx)
    fun hx _ _ _ _ _ => ⟨.of_unknown hx, Failure.isLegal_io _⟩

theorem waitFor_recalls (timeout : Duration) (wait : Wait) :
    wp (waitFor host timeout wait) (fun e h' => h.Recalls h' ∧ h'.exit = some e)
      (fun f h' => h.Recalls h' ∧ f.IsLegal) h :=
  wp_waitFor (fun _ hx => ⟨.refl h, hx⟩) (fun hx _ _ _ => ⟨.of_unknown hx, rfl⟩)
    (fun hx _ _ _ => ⟨.of_unknown hx, Failure.isLegal_timedOut _ _ _⟩)
    fun hx _ _ _ => ⟨.of_unknown hx, Failure.isLegal_io _⟩

theorem kill_recalls :
    wp (kill host) (fun e h' => h.Recalls h' ∧ h'.exit = some e) (fun f h' => h.Recalls h' ∧ f.IsLegal) h :=
  wp_kill (fun _ hx => ⟨.refl h, hx⟩) (fun hx _ _ _ => ⟨.of_unknown hx, rfl⟩)
    (fun hx _ _ _ => ⟨.of_unknown hx, Failure.isLegal_io _⟩)
    (fun hx _ _ _ _ _ => ⟨.of_unknown hx, Failure.isLegal_io _⟩)
    (fun hx _ _ _ _ _ _ _ _ => ⟨.of_unknown hx, rfl⟩)
    fun hx _ _ _ _ _ _ _ _ => ⟨.of_unknown hx, Failure.isLegal_io _⟩

end Handle

namespace Supervised
variable {σ : Type} {host : Host σ} {p q r : Supervised σ}

/-- A process that has ended has a recorded exit. -/
def Accounted (p : Supervised σ) : Prop := p.state.isTerminal → p.handle.exit.isSome

/-- What `p` can turn into: its state leads on, a recorded exit stays, and an end is accounted for. -/
structure Moves (p q : Supervised σ) : Prop where
  state : p.state.Leads q.state
  exit : p.handle.Recalls q.handle
  accounted : p.Accounted → q.Accounted

namespace Moves

theorem refl (p : Supervised σ) : p.Moves p := ⟨.refl _, .refl _, id⟩

theorem trans (h : p.Moves q) (h' : q.Moves r) : p.Moves r :=
  ⟨h.state.trans h'.state, h.exit.trans h'.exit, fun a => h'.accounted (h.accounted a)⟩

/-- A move of the handle alone. -/
theorem of_handle {h : Handle σ} (recalls : p.handle.Recalls h) : p.Moves { p with handle := h } := by
  refine ⟨.refl _, recalls, fun a ended => ?_⟩
  obtain ⟨e, he⟩ := Option.isSome_iff_exists.1 (a ended)
  exact Option.isSome_iff_exists.2 ⟨e, recalls e he⟩

/-- A move to the end that an exit accounts for. -/
theorem of_exit {h : Handle σ} {e : Exit} {next : Lifecycle} (recalls : p.handle.Recalls h)
    (he : h.exit = some e) (leads : p.state.Leads next) : p.Moves { p with handle := h, state := next } :=
  ⟨leads, recalls, fun _ _ => by simp [he]⟩

/-- A move that stays short of the end. -/
theorem of_live {h : Handle σ} {next : Lifecycle} (recalls : p.handle.Recalls h) (leads : p.state.Leads next)
    (live : next.isTerminal = false) : p.Moves { p with handle := h, state := next } :=
  ⟨leads, recalls, fun _ ended => by simp [live] at ended⟩

end Moves

/-- A poll moves. If it hears of no exit the state is as before, and it fails only if none is known. -/
theorem poll_moves (p : Supervised σ) :
    wp (poll host)
      (fun r q => p.Moves q ∧ r = q.handle.exit.map Exit.code? ∧ (r = none → q.state = p.state))
      (fun f q => p.Moves q ∧ f.IsLegal ∧ q.handle.exit = none) p := by
  rw [wp_poll]
  refine wp_mono Handle.poll_recalls ?_ ?_
  · rintro r h ⟨recalls, rfl⟩
    cases hx : h.exit with
    | none => exact ⟨.of_handle recalls, by simp, fun _ => rfl⟩
    | some e => exact ⟨.of_exit recalls hx (Lifecycle.leads_raise _ _), by simp, by simp⟩
  · rintro f h ⟨recalls, legal, unknown⟩
    exact ⟨.of_handle recalls, legal, unknown⟩

theorem sendSignal_moves (signal : TermSignal) (p : Supervised σ) :
    wp (sendSignal host signal) (fun _ q => p.Moves q ∧ q.state.isTerminal = false)
      (fun f q => p.Moves q ∧ f.IsLegal) p := by
  cases live : p.state.isTerminal with
  | true =>
    rw [wp_sendSignal_of_isTerminal live]
    exact ⟨.refl p, Failure.isLegal_notRunning _ _⟩
  | false =>
    rw [wp_sendSignal live]
    refine wp_mono (poll_moves p) ?_ fun _ _ h => ⟨h.1, h.2.1⟩
    rintro r q ⟨moves, -, same⟩
    split
    · exact ⟨moves, Failure.isLegal_notRunning _ _⟩
    · rename_i unheard
      have live' : q.state.isTerminal = false := by rw [same (by simpa using unheard), live]
      have signalled := Lifecycle.isTerminal_raise .signalSent live' rfl
      have draining := Lifecycle.isTerminal_raise .draining signalled rfl
      have leads := Lifecycle.leads_raise q.state .signalSent
      refine wp_mono (Handle.sendSignal_recalls signal) (fun _ h recalls => ⟨?_, draining⟩) ?_
      · exact moves.trans (.of_live recalls (leads.trans (Lifecycle.leads_raise _ _)) draining)
      · rintro f h ⟨recalls, legal⟩
        exact ⟨moves.trans (.of_live recalls leads signalled), legal⟩

theorem awaitTermination_moves (p : Supervised σ) :
    wp (awaitTermination host) (fun _ q => p.Moves q) (fun f q => p.Moves q ∧ f.IsLegal) p := by
  cases live : p.state.isTerminal with
  | true =>
    rw [wp_awaitTermination_of_isTerminal live]
    exact ⟨.refl p, Failure.isLegal_notRunning _ _⟩
  | false =>
    rw [wp_awaitTermination live]
    refine wp_mono (Handle.waitFor_recalls _ _) ?_ ?_
    · rintro e h ⟨recalls, he⟩
      exact .of_exit recalls he (.inr (Lifecycle.canBecome_terminated live))
    · rintro f h ⟨recalls, legal⟩
      -- only a timeout leads to the kill, any other failure leaves the state as it is
      split
      · refine wp_mono Handle.kill_recalls ?_ ?_
        · rintro e h' ⟨recalls', he⟩
          exact .of_exit (recalls.trans recalls') he (.inr (Lifecycle.canBecome_killed live))
        · rintro f h' ⟨recalls', legal⟩
          exact ⟨.of_handle (recalls.trans recalls'), legal⟩
      · exact ⟨.of_handle recalls, legal⟩

theorem terminate_moves (signal : TermSignal) (p : Supervised σ) :
    wp (terminate host signal) (fun _ q => p.Moves q) (fun f q => p.Moves q ∧ f.IsLegal) p := by
  cases live : p.state.isTerminal with
  | true =>
    rw [wp_terminate_of_isTerminal live]
    exact ⟨.refl p, Failure.isLegal_notRunning _ _⟩
  | false =>
    rw [wp_terminate live]
    refine wp_mono (poll_moves p) ?_ fun _ _ h => ⟨h.1, h.2.1⟩
    rintro r q ⟨moves, -, -⟩
    cases r with
    | some code => exact moves
    | none =>
      refine wp_mono (sendSignal_moves signal q) ?_ ?_
      · rintro - q' ⟨moves', -⟩
        refine wp_mono (awaitTermination_moves q') ?_ ?_
        · exact fun _ _ moves'' => (moves.trans moves').trans moves''
        · rintro f q'' ⟨moves'', legal⟩
          exact ⟨(moves.trans moves').trans moves'', legal⟩
      · rintro f q' ⟨moves', legal⟩
        exact ⟨moves.trans moves', legal⟩

theorem kill_moves (p : Supervised σ) :
    wp (kill host) (fun _ q => p.Moves q) (fun f q => p.Moves q ∧ f.IsLegal) p := by
  cases live : p.state.isTerminal with
  | true =>
    rw [wp_kill_of_isTerminal live]
    exact .refl p
  | false =>
    rw [wp_kill live]
    refine wp_mono (poll_moves p) ?_ fun _ _ h => ⟨h.1, h.2.1⟩
    rintro r q ⟨moves, -, -⟩
    split
    · exact moves
    · refine wp_mono Handle.kill_recalls ?_ ?_
      · rintro e h ⟨recalls, he⟩
        exact moves.trans (.of_exit recalls he (Lifecycle.leads_raise _ _))
      · rintro f h ⟨recalls, legal⟩
        exact ⟨moves.trans (.of_handle recalls), legal⟩

end Supervised

/-- What the owner of a process can do to it. -/
inductive Operation
  | poll
  | sendSignal (signal : TermSignal)
  | awaitTermination
  | terminate (signal : TermSignal)
  | kill

/-- What the owner learns. -/
inductive Operation.Reply
  | polled (exit : Option (Option Int))
  | done
  | ended (outcome : Outcome)

def Operation.act {σ : Type} (host : Host σ) : Operation → Supervised.Act σ Operation.Reply
  | .poll => .polled <$> Supervised.poll host
  | .sendSignal signal => (fun _ => .done) <$> Supervised.sendSignal host signal
  | .awaitTermination => .ended <$> Supervised.awaitTermination host
  | .terminate signal => .ended <$> Supervised.terminate host signal
  | .kill => (fun _ => .done) <$> Supervised.kill host

/-- What can happen to a process. -/
inductive Event (σ : Type)
  | operation (op : Operation)
  /-- Time goes by between two operations; anything may become of the world meanwhile. -/
  | meanwhile (f : σ → σ)

namespace Supervised
variable {σ : Type} {host : Host σ} {p q : Supervised σ}

def step (host : Host σ) (p : Supervised σ) : Event σ → Supervised σ
  | .operation op => ((op.act host).run.run p).2
  | .meanwhile f => { p with handle := { p.handle with world := f p.handle.world } }

/-- The process after `events`. -/
def after (host : Host σ) (p : Supervised σ) (events : List (Event σ)) : Supervised σ :=
  events.foldl (step host) p

/-- How many of `events` end the process: it is live before and no longer live after. -/
def endings (host : Host σ) (p : Supervised σ) : List (Event σ) → Nat
  | [] => 0
  | event :: rest =>
    let q := step host p event
    (if !p.state.isTerminal && q.state.isTerminal then 1 else 0) + endings host q rest

theorem act_moves (op : Operation) (p : Supervised σ) :
    wp (op.act host) (fun _ q => p.Moves q) (fun f q => p.Moves q ∧ f.IsLegal) p := by
  cases op with
  | poll =>
    rw [Operation.act, wp_map]
    exact wp_mono (poll_moves p) (fun _ _ h => h.1) fun _ _ h => ⟨h.1, h.2.1⟩
  | sendSignal signal =>
    rw [Operation.act, wp_map]
    exact wp_mono (sendSignal_moves signal p) (fun _ _ h => h.1) fun _ _ h => h
  | awaitTermination => rw [Operation.act, wp_map]; exact awaitTermination_moves p
  | terminate signal => rw [Operation.act, wp_map]; exact terminate_moves signal p
  | kill => rw [Operation.act, wp_map]; exact kill_moves p

theorem moves_step (host : Host σ) (p : Supervised σ) (event : Event σ) : p.Moves (step host p event) := by
  cases event with
  | operation op =>
    exact of_wp (R := fun _ q => p.Moves q) (wp_mono (act_moves op p) (fun _ _ h => h) fun _ _ h => h.1)
  | meanwhile f => exact .of_handle fun _ he => he

theorem moves_after (host : Host σ) (p : Supervised σ) (events : List (Event σ)) :
    p.Moves (after host p events) := by
  induction events generalizing p with
  | nil => exact .refl p
  | cons event rest ih => exact (moves_step host p event).trans (ih _)

/-- A process that has ended is not ended again. -/
theorem endings_of_isTerminal (ended : p.state.isTerminal) (events : List (Event σ)) :
    endings host p events = 0 := by
  induction events generalizing p with
  | nil => rfl
  | cons event rest ih =>
    have same := (moves_step host p event).state.eq_of_isTerminal ended
    rw [endings, ih (by rw [same]; exact ended)]
    simp [ended]

theorem endings_le_one (p : Supervised σ) (events : List (Event σ)) : endings host p events ≤ 1 := by
  induction events generalizing p with
  | nil => exact Nat.zero_le _
  | cons event rest ih =>
    rw [endings]
    cases ended : (step host p event).state.isTerminal with
    | true =>
      rw [endings_of_isTerminal ended]
      split <;> simp
    | false => simpa using ih _

/-- A launch spawns the program and knows nothing more of it than its number. -/
theorem eq_of_launch {store : CredentialStore} {config : ProcessConfig} {run : Bool} {world : σ}
    (launched : launch host store config run world = .ok p) : ∃ program args pid w,
    store.argv config (if run then .run else .inspect) = .ok (program :: args) ∧
      host.spawn (program :: args) world = (.ok pid, w) ∧
      p = { handle := { program, pid, world := w }, state := .running, argv := program :: args,
            budget := config.termination } := by
  unfold launch Handle.start at launched
  rcases words : store.argv config (if run then .run else .inspect) with fault | _ | ⟨program, args⟩
  · rw [words] at launched
    cases launched
  · rw [words] at launched
    cases launched
  · rcases spawned : host.spawn (program :: args) world with ⟨reason | pid, w⟩
    · simp only [words, spawned] at launched
      cases launched
    · simp only [words, spawned] at launched
      cases launched
      exact ⟨program, args, pid, w, rfl, spawned, rfl⟩

/-- A process is launched running, and nothing is known of an end. -/
theorem fresh_of_launch {store : CredentialStore} {config : ProcessConfig} {run : Bool} {world : σ}
    (launched : launch host store config run world = .ok p) :
    p.state = .running ∧ p.handle.exit = none := by
  obtain ⟨program, args, pid, w, -, -, rfl⟩ := eq_of_launch launched
  exact ⟨rfl, rfl⟩

theorem accounted_of_launch {store : CredentialStore} {config : ProcessConfig} {run : Bool} {world : σ}
    (launched : launch host store config run world = .ok p) : p.Accounted := by
  intro ended
  rw [(fresh_of_launch launched).1] at ended
  cases ended

/-- A launched process goes forward and ends at most once. Its end is never undone and has a recorded exit,
which every later poll returns. No operation is refused as an illegal move. -/
theorem life_goes_forward_to_one_recorded_end {store : CredentialStore} {config : ProcessConfig}
    {run : Bool} {world : σ} (launched : launch host store config run world = .ok p)
    (past future : List (Event σ)) :
    let q := after host p past
    let r := after host q future
    q.state.rank ≤ r.state.rank ∧
      endings host p past ≤ 1 ∧
      (q.state.isTerminal → r.state = q.state) ∧
      (q.state.isTerminal → ∃ e, q.handle.exit = some e ∧ r.handle.exit = some e ∧
        ((poll host).run.run r).1 = .ok (some e.code?)) ∧
      ∀ (op : Operation) (move : Lifecycle.IllegalMove),
        ((op.act host).run.run q).1 ≠ .error (.illegalMove move) := by
  intro q r
  have accounted : q.Accounted := (moves_after host p past).accounted (accounted_of_launch launched)
  have moves : q.Moves r := moves_after host q future
  refine ⟨moves.state.rank_le, endings_le_one p past, moves.state.eq_of_isTerminal, fun ended => ?_,
    fun op move => ?_⟩
  · obtain ⟨e, he⟩ := Option.isSome_iff_exists.1 (accounted ended)
    have he' : r.handle.exit = some e := moves.exit e he
    refine ⟨e, he, he', ?_⟩
    refine of_wp (R := fun answer _ => answer = .ok (some e.code?)) (wp_mono (poll_moves r) ?_ ?_)
    · rintro reply s ⟨still, rfl, -⟩
      rw [still.exit e he']
      rfl
    · rintro f s ⟨still, -, unknown⟩
      rw [still.exit e he'] at unknown
      cases unknown
  · refine of_wp (R := fun answer _ => answer ≠ .error (.illegalMove move)) (wp_mono (act_moves op q) ?_ ?_)
    · exact fun _ _ _ => nofun
    · rintro f s ⟨-, legal⟩ same
      exact legal move (Except.error.inj same)

/-- An actor that a signal ends stays terminated, and every later poll says that it has no exit code. -/
theorem life_of_signalled_actor :
    ∃ p : Supervised Stage,
      launch Stage.host {} { binary := [97] } true { cast := fun _ => .ok {} } = .ok p ∧
        ∀ future, let r := after Stage.host (after Stage.host p [.operation (.terminate .interrupt)]) future
          r.state = .terminated ∧ ((poll Stage.host).run.run r).1 = .ok (some none) := by
  obtain ⟨p, launched, still⟩ : ∃ p : Supervised Stage,
      launch Stage.host {} { binary := [97] } true { cast := fun _ => .ok {} } = .ok p ∧
        let q := after Stage.host p [.operation (.terminate .interrupt)]
        q.state = .terminated ∧ q.handle.exit = some (.signal 2) := ⟨_, rfl, rfl, rfl⟩
  refine ⟨p, launched, fun future => ?_⟩
  obtain ⟨-, -, state, recorded, -⟩ := life_goes_forward_to_one_recorded_end launched
    [.operation (.terminate .interrupt)] future
  obtain ⟨e, he, -, polled⟩ := recorded (by rw [still.1]; rfl)
  cases he.symm.trans still.2
  exact ⟨(state (by rw [still.1]; rfl)).trans still.1, polled⟩

end Supervised

end GracefulDrain
