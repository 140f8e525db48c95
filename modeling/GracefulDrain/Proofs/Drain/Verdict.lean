import GracefulDrain.Proofs.Drain.Cleanup
import GracefulDrain.Proofs.Process.Grace

/-! # The verdict on a drain

Once the acts of a scenario have all succeeded (`DrainVerifier.Carried`), the verdict depends on the time that the
drain took, on the kind of scenario and on the lines that the eyeball counted, and on nothing else
(`DrainVerifier.exercise_verdict`). -/

namespace GracefulDrain

namespace DrainReport
variable {r : DrainReport} {strictIdle : Bool} {grace : Duration}

/-- The drain took as many whole seconds as its window allows. -/
def InTime (r : DrainReport) : Prop :=
  r.window.minimumSecs ≤ r.observation.elapsed.secs ∧ r.observation.elapsed.secs ≤ r.window.gracePeriodSecs

/-- The drain was immediate if it was idle and had to be. -/
def IsPrompt (r : DrainReport) (strictIdle : Bool) : Prop :=
  strictIdle = true ∧ r.scenario.opensConnection = false → r.observation.elapsed.isImmediate = true

/-- A stream in flight had all the lines of the grace period. -/
def IsFull (r : DrainReport) (grace : Duration) : Prop :=
  r.observation.connectionInFlight = true → grace.expectedLines ≤ r.observation.linesObserved

theorem check_of_inTime (inTime : r.InTime) : r.window.check r.observation.elapsed = .ok () := by
  have within : r.window.contains r.observation.elapsed := by
    simpa [DrainWindow.contains, InTime] using inTime
  exact if_pos within

theorem verdict_of_not_inTime (late : ¬ r.InTime) :
    r.verdict strictIdle grace = .error (.window ⟨r.observation.elapsed.secs, r.window⟩) := by
  have outside : ¬ r.window.contains r.observation.elapsed := by
    simpa [DrainWindow.contains, InTime] using late
  have check : r.window.check r.observation.elapsed = .error ⟨r.observation.elapsed.secs, r.window⟩ :=
    if_neg outside
  simp only [verdict, check]

theorem verdict_of_not_isPrompt (inTime : r.InTime) (slow : ¬ r.IsPrompt strictIdle) :
    r.verdict strictIdle grace = .error (.slowIdle r.observation.elapsed.millis64) := by
  obtain ⟨⟨strict, idle⟩, slow⟩ := Classical.not_imp.1 slow
  simp only [verdict, check_of_inTime inTime, strict, idle]
  simp [slow]

theorem not_isPrompt_iff : (strictIdle && !r.scenario.opensConnection && !r.observation.elapsed.isImmediate) = true ↔
    ¬ r.IsPrompt strictIdle := by
  simp [IsPrompt, and_assoc]

theorem verdict_of_isPrompt (inTime : r.InTime) (prompt : r.IsPrompt strictIdle) :
    r.verdict strictIdle grace =
      if r.observation.connectionInFlight ∧ r.observation.linesObserved < grace.expectedLines then
        .error (.shortStream r.observation.linesObserved grace.expectedLines)
      else .ok () := by
  have fast : ¬ (strictIdle && !r.scenario.opensConnection && !r.observation.elapsed.isImmediate) = true :=
    fun slow => not_isPrompt_iff.1 slow prompt
  simp only [verdict, check_of_inTime inTime, if_neg fast]
  simp

theorem verdict_of_not_isFull (inTime : r.InTime) (prompt : r.IsPrompt strictIdle) (short : ¬ r.IsFull grace) :
    r.verdict strictIdle grace = .error (.shortStream r.observation.linesObserved grace.expectedLines) := by
  obtain ⟨inFlight, short⟩ := Classical.not_imp.1 short
  rw [verdict_of_isPrompt inTime prompt, if_pos ⟨inFlight, Nat.not_le.1 short⟩]

theorem verdict_of_isFull (inTime : r.InTime) (prompt : r.IsPrompt strictIdle) (full : r.IsFull grace) :
    r.verdict strictIdle grace = .ok () := by
  rw [verdict_of_isPrompt inTime prompt, if_neg]
  rintro ⟨inFlight, short⟩
  exact Nat.not_le.2 short (full inFlight)

end DrainReport

namespace DrainVerifier
open Supervised
variable {ω : Type} {v : DrainVerifier} {world : World ω} {scenario : Scenario} {signal : TermSignal}
  {p o q : Supervised ω} {outcome : Outcome} {eyeball : Option LineReport} {watch : Option Watch}

/-- The acts of a scenario have all succeeded, on the way from `p` by `o`, where the signal was sent, to `q`. Where
a connection should be in flight, its stream had not ended before the signal. -/
inductive Carried (v : DrainVerifier) (world : World ω) (scenario : Scenario) (signal : TermSignal)
    (p o q : Supervised ω) (outcome : Outcome) (eyeball : Option LineReport) : Prop
  | intro {watch : Option Watch} {ready sent ended : Supervised ω} {w : ω}
      (readiness : (awaitReady world v.probeUrl v.settings.readinessTimeout).run.run p = (.ok (), ready))
      (establishment : (v.openStream world scenario).run.run ready = (.ok watch, o))
      (flowing : scenario.expectsInFlight → ∀ stream, watch = some stream →
        stream.isFinished (world.clock o.handle.world) = false)
      (signalling : (sendSignal world.toHost signal).run.run o = (.ok (), sent))
      (unready : world.awaitNotReady v.probeUrl notReadyTimeout sent.handle.world = (true, w))
      (termination : (awaitTermination world.toHost).run.run (sent.inWorld w) = (.ok outcome, ended))
      (join : (v.joinOpened world scenario watch).run.run ended = (.ok eyeball, q)) :
      Carried v world scenario signal p o q outcome eyeball

/-- What a scenario reports. -/
def reportOf (v : DrainVerifier) (world : World ω) (scenario : Scenario) (signal : TermSignal)
    (o q : Supervised ω) (outcome : Outcome) (eyeball : Option LineReport) : DrainReport where
  scenario := scenario
  signal := signal
  eyeball := eyeball
  outcome := outcome
  window := .of scenario.expectsInFlight v.process.gracePeriod
  observation := {
    startedAt := world.calendar o.handle.world
    endedAt := world.calendar q.handle.world
    elapsed := .between (world.clock o.handle.world) (world.clock q.handle.world)
    connectionInFlight := scenario.expectsInFlight
    linesObserved := eyeball.elim 0 LineReport.lines }

/-! ### A run whose acts all succeed -/

theorem run_checkInFlight (flowing : scenario.expectsInFlight → ∀ stream, watch = some stream →
    stream.isFinished (world.clock o.handle.world) = false) :
    (v.checkInFlight world scenario watch).run.run o = (.ok (), o) := by
  cases watch with
  | none => rfl
  | some stream =>
    refine run_of_wp ?_
    show wp (if scenario.expectsInFlight then v.refuseEnded world stream else pure ()) _ _ o
    split
    · next inFlight =>
      rw [refuseEnded, wp_bind, wp_now, flowing inFlight stream rfl]
      exact ⟨rfl, rfl⟩
    · exact ⟨rfl, rfl⟩

theorem run_drain {sent ended : Supervised ω} {w : ω}
    (signalling : (sendSignal world.toHost signal).run.run o = (.ok (), sent))
    (unready : world.awaitNotReady v.probeUrl notReadyTimeout sent.handle.world = (true, w))
    (termination : (awaitTermination world.toHost).run.run (sent.inWorld w) = (.ok outcome, ended))
    (join : (v.joinOpened world scenario watch).run.run ended = (.ok eyeball, q)) :
    (v.drain world scenario signal watch).run.run o =
      (.ok (v.reportOf world scenario signal o q outcome eyeball), q) := by
  refine run_of_wp ?_
  rw [drain, wp_bind, wp_get, wp_bind, wp_now, wp_bind]
  refine wp_of_run signalling ?_
  rw [wp_bind, wp_callWorld, unready, if_neg (by simp), wp_bind]
  refine wp_of_run termination ?_
  rw [wp_bind]
  refine wp_of_run join ?_
  exact ⟨rfl, rfl⟩

theorem run_judge (v : DrainVerifier) (report : DrainReport) (p : Supervised ω) :
    (v.judge report).run.run p =
      ((report.verdict v.settings.strictIdle v.process.gracePeriod).map fun _ => report, p) := by
  unfold judge
  cases report.verdict v.settings.strictIdle v.process.gracePeriod <;> rfl

/-- A scenario whose acts all succeed comes to the verdict on its report. -/
theorem run_exercise (carried : v.Carried world scenario signal p o q outcome eyeball) :
    let report := v.reportOf world scenario signal o q outcome eyeball
    (v.exercise world scenario signal).run.run p =
      ((report.verdict v.settings.strictIdle v.process.gracePeriod).map fun _ => report, q) := by
  cases carried with
  | intro readiness establishment flowing signalling unready termination join =>
    rw [exercise, run_bind, readiness]
    dsimp only
    rw [run_bind, establishment]
    dsimp only
    rw [run_bind, run_checkInFlight flowing]
    dsimp only
    rw [run_bind, run_drain signalling unready termination join]
    exact run_judge v _ q

/-! ### Who has an eyeball -/

theorem openStream_isSome (v : DrainVerifier) (world : World ω) (scenario : Scenario) (p : Supervised ω) :
    wp (v.openStream world scenario) (fun watch _ => watch.isSome = scenario.opensConnection)
      (fun _ _ => True) p := by
  unfold openStream
  split
  · next opens =>
    rw [wp_bind]
    exact wp_of_forall (fun _ _ => opens.symm) fun _ _ => trivial
  · next closed =>
    simp only [Bool.not_eq_true] at closed
    exact closed.symm

theorem joinOpened_isSome (v : DrainVerifier) (world : World ω) (scenario : Scenario) (watch : Option Watch)
    (p : Supervised ω) :
    wp (v.joinOpened world scenario watch) (fun eyeball _ => eyeball.isSome = watch.isSome)
      (fun _ _ => True) p := by
  cases watch with
  | none => rfl
  | some stream =>
    unfold joinOpened
    rw [wp_map]
    exact wp_of_forall (fun _ _ => rfl) fun _ _ => trivial

theorem Carried.isSome_eyeball (carried : v.Carried world scenario signal p o q outcome eyeball) :
    eyeball.isSome = scenario.opensConnection := by
  cases carried with
  | @intro watch ready _ ended _ _ establishment _ _ _ _ join =>
    have opened := ok_of_wp (openStream_isSome v world scenario ready) (by rw [establishment])
    have joined := ok_of_wp (joinOpened_isSome v world scenario watch ended) (by rw [join])
    exact joined.trans opened

/-- The verdict on a scenario whose acts have all succeeded. There is a report just if the drain took as many whole
seconds as its window allows, an idle drain was immediate if it had to be, and a stream in flight had two lines for
each second of the grace period; otherwise the first check that fails decides. The report tells what was seen. -/
theorem exercise_verdict (carried : v.Carried world scenario signal p o q outcome eyeball) :
    let result := ((v.exercise world scenario signal).run.run p).1
    let elapsed := Duration.between (world.clock o.handle.world) (world.clock q.handle.world)
    let lines := eyeball.elim 0 LineReport.lines
    let grace := v.process.gracePeriod
    let inTime := (if scenario = .inFlight then 1 else 0) ≤ elapsed.secs ∧ elapsed.secs ≤ grace.secs
    let prompt := v.settings.strictIdle = true ∧ scenario = .idle → elapsed < .ofSecs 1
    let full := scenario = .inFlight → 2 * grace.secs ≤ lines
    ((∃ report, result = .ok report) ↔ inTime ∧ prompt ∧ full) ∧
      (¬ inTime → result = .error (.window ⟨elapsed.secs, .of scenario.expectsInFlight grace⟩)) ∧
      (inTime → ¬ prompt → result = .error (.slowIdle elapsed.millis64)) ∧
      (inTime → prompt → ¬ full → result = .error (.shortStream lines (2 * grace.secs))) ∧
      ∀ report, result = .ok report →
        report = v.reportOf world scenario signal o q outcome eyeball ∧
          (report.eyeball.isSome ↔ scenario ≠ .idle) ∧
          report.observation.linesObserved = report.eyeball.elim 0 LineReport.lines ∧
          (report.observation.connectionInFlight = true ↔ scenario = .inFlight) ∧
          report.window = .of report.observation.connectionInFlight grace := by
  intro result elapsed lines grace inTime prompt full
  let made := v.reportOf world scenario signal o q outcome eyeball
  have opens : scenario.opensConnection = true ↔ scenario ≠ .idle := by
    cases scenario <;> simp [Scenario.opensConnection]
  have inFlight : scenario.expectsInFlight = true ↔ scenario = .inFlight := by
    cases scenario <;> simp [Scenario.expectsInFlight]
  have inTime_iff : made.InTime ↔ inTime := by
    show scenario.expectsInFlight.toNat ≤ elapsed.secs ∧ elapsed.secs ≤ grace.secs ↔ inTime
    cases scenario <;> simp [inTime, Scenario.expectsInFlight]
  have prompt_iff : made.IsPrompt v.settings.strictIdle ↔ prompt := by
    show (v.settings.strictIdle = true ∧ scenario.opensConnection = false → elapsed.isImmediate = true) ↔ prompt
    simp [prompt, Duration.isImmediate, ← Bool.not_eq_true, opens]
  have full_iff : made.IsFull grace ↔ full := by
    show (scenario.expectsInFlight = true → grace.secs * 2 ≤ lines) ↔ full
    simp [full, inFlight, Nat.mul_comm]
  have ran : result = (made.verdict v.settings.strictIdle grace).map fun _ => made := by
    show ((v.exercise world scenario signal).run.run p).1 = _
    rw [run_exercise carried]
  have late (h : ¬ inTime) : result = .error (.window ⟨elapsed.secs, .of scenario.expectsInFlight grace⟩) := by
    rw [ran, DrainReport.verdict_of_not_inTime (mt inTime_iff.1 h)]
    rfl
  have slow (h : inTime) (h' : ¬ prompt) : result = .error (.slowIdle elapsed.millis64) := by
    rw [ran, DrainReport.verdict_of_not_isPrompt (inTime_iff.2 h) (mt prompt_iff.1 h')]
    rfl
  have short (h : inTime) (h' : prompt) (h'' : ¬ full) : result = .error (.shortStream lines (2 * grace.secs)) := by
    rw [ran, DrainReport.verdict_of_not_isFull (inTime_iff.2 h) (prompt_iff.2 h') (mt full_iff.1 h''), Nat.mul_comm]
    rfl
  have passed (h : inTime) (h' : prompt) (h'' : full) : result = .ok made := by
    rw [ran, DrainReport.verdict_of_isFull (inTime_iff.2 h) (prompt_iff.2 h') (full_iff.2 h'')]
    rfl
  have ok_iff : (∃ report, result = .ok report) ↔ inTime ∧ prompt ∧ full := by
    constructor
    · rintro ⟨report, ok⟩
      by_cases h : inTime
      · by_cases h' : prompt
        · by_cases h'' : full
          · exact ⟨h, h', h''⟩
          · cases (short h h' h'').symm.trans ok
        · cases (slow h h').symm.trans ok
      · cases (late h).symm.trans ok
    · rintro ⟨h, h', h''⟩
      exact ⟨made, passed h h' h''⟩
  refine ⟨ok_iff, late, slow, short, fun report ok => ?_⟩
  obtain ⟨h, h', h''⟩ := ok_iff.1 ⟨report, ok⟩
  cases (passed h h' h'').symm.trans ok
  refine ⟨rfl, ?_, rfl, inFlight, rfl⟩
  rw [← opens, ← carried.isSome_eyeball]
  rfl

end DrainVerifier

/-- A stage on which the connector is ready until it has a signal, and streams one event and nothing more for a
second. -/
def Stage.streaming : World Stage :=
  { Stage.serving with
    request := fun _ s => (.answered 0 200 [⟨0, Utf8.encode "data: 0\n\n"⟩] (.over 1_000_000_000 false), s) }

namespace DrainVerifier
open Supervised

/-- A verifier that grants a second. -/
def brief : DrainVerifier := ⟨{}, { binary := [97], gracePeriod := .ofSecs 1 }, .of "http://a" "http://a"⟩

/-- A connector that takes its second, with what is known of it. -/
def briefProcess (state : Lifecycle) (exit : Option Exit) (s : Stage) : Supervised Stage :=
  { handle := { program := "a", pid := Stage.pid, exit, world := s }
    state, argv := ["a", "tunnel", "run"], budget := {} }

/-- The connector before the signal, after it, and at its end. -/
def briefRunning : Supervised Stage :=
  briefProcess .running none ((Stage.lingeringStage (.ofSecs 1)).play (Stage.lingering (.ofSecs 1)))

def briefDraining : Supervised Stage := briefProcess .draining none (Stage.lingeringSignalled (.ofSecs 1))

def briefEnded : Supervised Stage :=
  briefProcess .terminated (some (.code 0)) { Stage.lingeringSignalled (.ofSecs 1) with clock := 1_000_000_000 }

def briefWatch : Watch :=
  (brief.eyeball .inFlight).watch 0 (Stage.streaming.request (brief.eyeball .inFlight) briefRunning.handle.world).1

theorem brief_carried : brief.Carried Stage.streaming .inFlight .terminate briefRunning briefRunning briefEnded
    (.exited (some 0) (.ofSecs 1)) (some ⟨2, false, false⟩) := by
  have ready : (awaitReady Stage.streaming brief.probeUrl brief.settings.readinessTimeout).run.run briefRunning =
      (.ok (), briefRunning) := run_awaitReady_of_isReady rfl
  have unready : Stage.streaming.awaitNotReady brief.probeUrl notReadyTimeout briefDraining.handle.world =
      (true, briefDraining.handle.world) := World.awaitNotReady_of_not_isReady rfl
  have opened : (brief.openStream Stage.streaming .inFlight).run.run briefRunning =
      (.ok (some briefWatch), briefRunning) := rfl
  have flowing : briefWatch.isFinished 0 = false := rfl
  have sent : (sendSignal Stage.streaming.toHost .terminate).run.run briefRunning = (.ok (), briefDraining) := rfl
  have ended : (awaitTermination Stage.streaming.toHost).run.run briefDraining =
      (.ok (.exited (some 0) (.ofSecs 1)), briefEnded) := rfl
  have joined : (brief.joinOpened Stage.streaming .inFlight (some briefWatch)).run.run briefEnded =
      (.ok (some ⟨2, false, false⟩), briefEnded) := rfl
  exact .intro ready opened (by rintro - _ ⟨⟩; exact flowing) sent unready ended joined

/-- The stream ends when the connector does, after a second, and has had the two lines of that second. -/
theorem brief_drain_is_reported :
    ∃ report, ((brief.exercise Stage.streaming .inFlight .terminate).run.run briefRunning).1 = .ok report ∧
      report.eyeball = some ⟨2, false, false⟩ ∧ report.observation.elapsed = .ofSecs 1 := by
  have verdict := exercise_verdict brief_carried
  obtain ⟨report, ok⟩ := verdict.1.2 ⟨by decide, nofun, fun _ => by decide⟩
  obtain ⟨rfl, -⟩ := verdict.2.2.2.2 report ok
  exact ⟨_, ok, rfl, rfl⟩

end DrainVerifier

end GracefulDrain
