import GracefulDrain.Environment
import GracefulDrain.Proofs.Environment.Acceptance
import GracefulDrain.Proofs.Process.Shutdown

/-! # Grace periods and termination budgets

A process that outlives its termination budget is killed, whatever its grace period. Hence a child that ends
within its grace period is safe just if the budget is longer (`ProcessConfig.spares_iff`). An environment sets
the grace period and leaves the budget at ten seconds (`Environment.process_of_load`). -/

namespace GracefulDrain

namespace Supervised
variable {σ : Type} {host : Host σ} {p : Supervised σ}

/-! ### The budget stays what it is -/

theorem budget_of_launch {store : CredentialStore} {config : ProcessConfig} {run : Bool} {world : σ}
    (launched : launch host store config run world = .ok p) : p.budget = config.termination := by
  obtain ⟨program, args, pid, w, -, -, rfl⟩ := eq_of_launch launched
  rfl

theorem budget_after (p : Supervised σ) (events : List (Event σ)) : (after host p events).budget = p.budget :=
  (keeps_after p events).budget

end Supervised

/-! ### Children that end in time -/

/-- A wait that starts at `w` and goes on past `time` finds that the child has ended. -/
def Host.EndsBy {σ : Type} (host : Host σ) (w : σ) (time : Nat) : Prop :=
  ∀ timeout : Duration, time < host.clock w + timeout.nanos → ∃ e w', host.await timeout w = (.ok (some e), w')

namespace Supervised
variable {σ : Type} {host : Host σ} {p₀ p : Supervised σ}

/-- On its way from `p₀` to `p` the process has been sent a termination signal, which it got at `delivered`. -/
inductive SignalledAt (host : Host σ) (p₀ : Supervised σ) (delivered : Nat) : Supervised σ → Prop
  | intro (before between : List (Event σ)) (signal : TermSignal) {q : Supervised σ}
      (sent : (sendSignal host signal).run.run (after host p₀ before) = (.ok (), q))
      (begun : host.clock (after host p₀ before).handle.world ≤ delivered)
      (done : delivered ≤ host.clock q.handle.world)
      (past : delivered ≤ host.clock (after host q between).handle.world) :
      SignalledAt host p₀ delivered (after host q between)

theorem SignalledAt.past {delivered : Nat} (h : SignalledAt host p₀ delivered p) :
    delivered ≤ host.clock p.handle.world := by
  cases h with
  | intro before between signal sent begun done past => exact past

theorem SignalledAt.budget {delivered : Nat} (h : SignalledAt host p₀ delivered p) : p.budget = p₀.budget := by
  cases h with
  | @intro before between signal q sent begun done past =>
    have same : q.budget = (after host p₀ before).budget := by
      have kept := (keeps_sendSignal host signal (after host p₀ before)).budget
      rwa [sent] at kept
    exact (budget_after q between).trans (same.trans (budget_after p₀ before))

/-- A live process whose child ends before the budget is used up is not killed. -/
theorem exited_of_endsBy {time : Nat} (live : p.state.isTerminal = false)
    (ends : host.EndsBy p.handle.world time)
    (early : time < host.clock p.handle.world + p.budget.total.nanos) :
    ∃ code elapsed, ((awaitTermination host).run.run p).1 = .ok (.exited code elapsed) := by
  obtain ⟨e, w, heard⟩ := ends p.budget.total early
  refine of_wp (R := fun (answer : Except Failure Outcome) (_ : Supervised σ) =>
    ∃ code elapsed, answer = .ok (.exited code elapsed)) ?_
  rw [wp_awaitTermination live]
  refine Handle.wp_waitFor (fun e _ => ⟨_, _, rfl⟩) (fun _ e _ _ => ⟨_, _, rfl⟩) ?_ ?_
  · intro _ w' text expired
    rw [heard] at expired
    cases expired
  · intro _ reason w' failed
    rw [heard] at failed
    cases failed

theorem killed_of_expired {w : σ} (accepts : host.AcceptsKill w) (live : p.state.isTerminal = false)
    (unknown : p.handle.exit = none) (expired : host.await p.budget.total p.handle.world = (.ok none, w)) :
    ∃ elapsed, ((awaitTermination host).run.run p).1 = .ok (.killed elapsed) := by
  have killed := awaitTermination_of_expired live unknown expired accepts
  obtain ⟨outcome, ok⟩ := succeeds_of_wp killed
  obtain ⟨rfl, -⟩ := ok_of_wp killed ok
  exact ⟨_, ok⟩

end Supervised

namespace Stage
variable {await : Duration → Stage → Except OsError (Option Exit) × Stage} {s : Stage} {time : Nat} {e : Exit}

/-- The host of a stage, but for how it waits for the end of the child. -/
def hostWith (await : Duration → Stage → Except OsError (Option Exit) × Stage) : Host Stage := { host with await }

/-- A wait that looks at the clock before it looks at the child. -/
def impatiently (timeout : Duration) (s : Stage) : Except OsError (Option Exit) × Stage :=
  match s.player.ending with
  | some (time, e) =>
    if time < s.clock + timeout.nanos then (.ok (some e), { s with clock := max s.clock time })
    else (.ok none, { s with clock := s.clock + timeout.nanos })
  | none => (.ok none, { s with clock := s.clock + timeout.nanos })

theorem acceptsKill_hostWith : (hostWith await).AcceptsKill s := acceptsKill rfl rfl rfl

theorem endsBy_impatiently (ending : s.player.ending = some (time, e)) :
    (hostWith impatiently).EndsBy s time := by
  intro timeout early
  have inTime : time < s.clock + timeout.nanos := early
  refine ⟨e, { s with clock := max s.clock time }, ?_⟩
  show impatiently timeout s = _
  unfold impatiently
  rw [ending]
  exact if_pos inTime

theorem impatiently_expired {timeout : Duration} (ending : s.player.ending = some (time, e))
    (late : s.clock + timeout.nanos ≤ time) :
    impatiently timeout s = (.ok none, { s with clock := s.clock + timeout.nanos }) := by
  unfold impatiently
  rw [ending]
  exact if_neg (Nat.not_lt.2 late)

theorem host_ended {timeout : Duration} (ending : s.player.ending = some (time, e))
    (inTime : time ≤ s.clock + timeout.nanos) :
    host.await timeout s = (.ok (some e), { s with clock := max s.clock time }) := by
  show (s.await timeout).map Except.ok id = _
  unfold Stage.await
  rw [ending]
  exact congrArg (Prod.map Except.ok id) (if_pos inTime)

theorem endsBy_host (ending : s.player.ending = some (time, e)) : host.EndsBy s time :=
  fun _ early => ⟨e, _, host_ended ending (Nat.le_of_lt early)⟩

theorem host_expired {timeout : Duration} (ending : s.player.ending = some (time, e))
    (late : s.clock + timeout.nanos < time) :
    host.await timeout s = (.ok none, { s with clock := s.clock + timeout.nanos }) := by
  show (s.await timeout).map Except.ok id = _
  unfold Stage.await
  rw [ending]
  exact congrArg (Prod.map Except.ok id) (if_neg (Nat.not_le.2 late))

/-- A child that takes `delay` to end once it has a termination signal. -/
def lingering (delay : Duration) : Script := { onTerminate := some { exit := some 0, delay } }

/-- A stage where every command line starts that child. -/
def lingeringStage (delay : Duration) : Stage := { cast := fun _ => .ok (lingering delay) }

/-- The child has been started, and then it has had the signal. -/
def lingeringSignalled (delay : Duration) : Stage :=
  ((lingeringStage delay).play (lingering delay)).receive .terminate

theorem ending_lingeringSignalled (delay : Duration) :
    (lingeringSignalled delay).player.ending = some (delay.nanos, .code 0) := by
  show some (0 + delay.nanos, Exit.code 0) = _
  rw [Nat.zero_add]

end Stage

/-! ### Configurations -/

namespace ProcessConfig
open Supervised

/-- However a process of this configuration is run: if its child ends within the grace period after a
termination signal, the wait for its end reports so. -/
def Spares (c : ProcessConfig) : Prop :=
  ∀ (σ : Type) (host : Host σ) (store : CredentialStore) (run : Bool) (world : σ) (p₀ p : Supervised σ)
    (delivered ended : Nat), launch host store c run world = .ok p₀ → SignalledAt host p₀ delivered p →
    p.state.isTerminal = false → ended ≤ delivered + c.gracePeriod.nanos → host.EndsBy p.handle.world ended →
    ∃ code elapsed, ((awaitTermination host).run.run p).1 = .ok (.exited code elapsed)

theorem spares_of_lt {c : ProcessConfig} (longer : c.gracePeriod < c.termination.total) : c.Spares := by
  intro σ host store run world p₀ p delivered ended launched signalled live inTime ends
  have budget : p.budget = c.termination := signalled.budget.trans (budget_of_launch launched)
  have past : delivered ≤ host.clock p.handle.world := signalled.past
  have longer : c.gracePeriod.nanos < c.termination.total.nanos := longer
  refine exited_of_endsBy live ends ?_
  rw [budget]
  omega

theorem argv_without_store (c : ProcessConfig) (mode : CommandMode) :
    ∃ cert, ({} : CredentialStore).argv c mode = .ok (c.argv cert mode) := by
  rcases hc : c.originCert with _ | cert
  · refine ⟨none, ?_⟩
    simp only [CredentialStore.argv, CredentialStore.resolve, hc]
    rfl
  · refine ⟨CredentialStore.nonEmpty cert, ?_⟩
    simp only [CredentialStore.argv, CredentialStore.resolve, hc]
    rfl

/-- A child that lingers is launched and gets its signal at once. -/
theorem lingering_signalled (c : ProcessConfig) (delay : Duration)
    (await : Duration → Stage → Except OsError (Option Exit) × Stage) : ∃ p₀ p : Supervised Stage,
    launch (Stage.hostWith await) {} c true (Stage.lingeringStage delay) = .ok p₀ ∧
      SignalledAt (Stage.hostWith await) p₀ 0 p ∧ p.state = .draining ∧ p.handle.exit = none ∧
      p.handle.world = Stage.lingeringSignalled delay := by
  obtain ⟨cert, argv⟩ := argv_without_store c .run
  let handle : Handle Stage :=
    { program := c.program, pid := Stage.pid
      world := (Stage.lingeringStage delay).play (Stage.lingering delay) }
  let p₀ : Supervised Stage :=
    { handle, state := .running, argv := c.argv cert .run, budget := c.termination }
  let p : Supervised Stage :=
    { p₀ with handle := { handle with world := Stage.lingeringSignalled delay }, state := .draining }
  have launched : launch (Stage.hostWith await) {} c true (Stage.lingeringStage delay) = .ok p₀ := by
    rw [launch, if_pos rfl, argv]
    rfl
  have sent : (sendSignal (Stage.hostWith await) .terminate).run.run p₀ = (.ok (), p) := rfl
  have signalled : SignalledAt (Stage.hostWith await) p₀ 0 p :=
    .intro [] [] .terminate sent (Nat.le_refl _) (Nat.le_refl _) (Nat.le_refl _)
  exact ⟨p₀, p, launched, signalled, rfl, rfl, rfl⟩

/-- A child that ends just when its grace period ends may find that the budget has been used up. -/
theorem not_spares_of_le {c : ProcessConfig} (shorter : c.termination.total ≤ c.gracePeriod) : ¬ c.Spares := by
  intro spares
  -- where the two are equal, a host that looks at its clock first finds the deadline past before the child's end
  obtain ⟨p₀, p, launched, signalled, state, exit, world⟩ :=
    lingering_signalled c c.gracePeriod Stage.impatiently
  have shorter : c.termination.total.nanos ≤ c.gracePeriod.nanos := shorter
  have budget : p.budget = c.termination := signalled.budget.trans (budget_of_launch launched)
  have live : p.state.isTerminal = false := by rw [state]; rfl
  have ending : p.handle.world.player.ending = some (c.gracePeriod.nanos, .code 0) := by
    rw [world, Stage.ending_lingeringSignalled]
  have clock : p.handle.world.clock = 0 := by rw [world]; rfl
  obtain ⟨code, elapsed, exited⟩ := spares Stage _ {} true _ p₀ p 0 c.gracePeriod.nanos launched signalled live
    (Nat.le_add_left _ _) (Stage.endsBy_impatiently ending)
  have late : p.handle.world.clock + p.budget.total.nanos ≤ c.gracePeriod.nanos := by
    rw [clock, budget, Nat.zero_add]
    exact shorter
  have expired : (Stage.hostWith Stage.impatiently).await p.budget.total p.handle.world = (.ok none, _) :=
    Stage.impatiently_expired ending late
  obtain ⟨elapsed', killed⟩ := killed_of_expired Stage.acceptsKill_hostWith live exit expired
  rw [exited] at killed
  cases killed

theorem spares_iff (c : ProcessConfig) : c.Spares ↔ c.gracePeriod < c.termination.total := by
  refine ⟨fun spares => ?_, spares_of_lt⟩
  by_cases longer : c.gracePeriod < c.termination.total
  · exact longer
  · exact absurd spares (not_spares_of_le (Nat.not_lt.1 longer))

end ProcessConfig

namespace Environment
open Supervised

/-- The environment sets the grace period and leaves the budget as it is by default. -/
theorem process_of_load {lookup : String → Option String} {e : Environment} (accepted : load lookup = .ok e) :
    ∃ graceSecs, parsed (numeral (UInt64.size - 1)) lookup "GRACE_PERIOD_SECS" 5 = .ok graceSecs ∧
      e.process.gracePeriod = .ofSecs graceSecs ∧ e.process.termination = {} := by
  unfold load at accepted
  obtain ⟨binary, -, accepted⟩ := ok_of_bind accepted
  obtain ⟨tunnelUrl, -, accepted⟩ := ok_of_bind accepted
  obtain ⟨connections, -, accepted⟩ := ok_of_bind accepted
  obtain ⟨graceSecs, grace, accepted⟩ := ok_of_bind accepted
  obtain ⟨timeoutSecs, -, accepted⟩ := ok_of_bind accepted
  obtain ⟨strictIdle, -, accepted⟩ := ok_of_bind accepted
  cases accepted
  exact ⟨graceSecs, grace, rfl, rfl⟩

/-- Whatever the environment says, a connector has ten seconds to end once it is waited for. One that uses its
grace period is thus safe from being killed just if the grace period is shorter. -/
theorem spares_iff_grace_lt_ten_seconds {lookup : String → Option String} {e : Environment}
    (accepted : load lookup = .ok e) :
    e.process.termination.total = .ofSecs 10 ∧
      (e.process.Spares ↔ e.process.gracePeriod < .ofSecs 10) := by
  have total : e.process.termination.total = .ofSecs 10 := by
    obtain ⟨-, -, -, termination⟩ := process_of_load accepted
    rw [termination]
    decide
  refine ⟨total, ?_⟩
  rw [← total]
  exact e.process.spares_iff

/-- The variables that have to be set, and perhaps a grace period. -/
def sample (grace : Option String) (key : String) : Option String :=
  if key = "TUNNEL_BINARY" then some "/usr/local/bin/tunnellink"
  else if key = "TUNNEL_URL" then some "https://demo.example.com"
  else if key = "GRACE_PERIOD_SECS" then grace
  else none

/-- The grace period that is taken by default is short enough. -/
theorem default_spares : ∃ e, load (sample none) = .ok e ∧ e.process.gracePeriod = .ofSecs 5 ∧ e.process.Spares := by
  obtain ⟨e, accepted, grace⟩ : ∃ e, load (sample none) = .ok e ∧ e.process.gracePeriod = .ofSecs 5 :=
    ⟨_, rfl, rfl⟩
  refine ⟨e, accepted, grace, (spares_iff_grace_lt_ten_seconds accepted).2.2 ?_⟩
  rw [grace]
  decide

/-- With a grace period of a minute, a child that ends after eleven seconds of it is reported as killed. -/
theorem killed_early_in_the_grace_period : ∃ (e : Environment) (p₀ p : Supervised Stage),
    load (sample (some "60")) = .ok e ∧ e.process.gracePeriod = .ofSecs 60 ∧
      launch Stage.host {} e.process true (Stage.lingeringStage (.ofSecs 11)) = .ok p₀ ∧
      SignalledAt Stage.host p₀ 0 p ∧ p.state.isTerminal = false ∧
      Stage.host.EndsBy p.handle.world (Duration.ofSecs 11).nanos ∧
      (Duration.ofSecs 11).nanos ≤ 0 + e.process.gracePeriod.nanos ∧
      ∃ elapsed, ((awaitTermination Stage.host).run.run p).1 = .ok (.killed elapsed) := by
  obtain ⟨e, accepted⟩ : ∃ e, load (sample (some "60")) = .ok e := ⟨_, rfl⟩
  obtain ⟨graceSecs, set, grace, termination⟩ := process_of_load accepted
  cases (show _ = Except.ok 60 from rfl).symm.trans set
  obtain ⟨p₀, p, launched, signalled, state, exit, world⟩ :=
    e.process.lingering_signalled (.ofSecs 11) Stage.host.await
  have live : p.state.isTerminal = false := by rw [state]; rfl
  have budget : p.budget = {} := (signalled.budget.trans (budget_of_launch launched)).trans termination
  have ending : p.handle.world.player.ending = some ((Duration.ofSecs 11).nanos, .code 0) := by
    rw [world, Stage.ending_lingeringSignalled]
  have late : p.handle.world.clock + p.budget.total.nanos < (Duration.ofSecs 11).nanos := by
    rw [world, budget]
    decide
  have inTime : (Duration.ofSecs 11).nanos ≤ 0 + e.process.gracePeriod.nanos := by
    rw [grace]
    decide
  exact ⟨e, p₀, p, accepted, grace, launched, signalled, live, Stage.endsBy_host ending, inTime,
    killed_of_expired Stage.acceptsKill_hostWith live exit (Stage.host_expired ending late)⟩

end Environment

end GracefulDrain
