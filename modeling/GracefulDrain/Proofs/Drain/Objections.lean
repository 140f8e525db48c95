import GracefulDrain.Proofs.Drain.Refusals
import GracefulDrain.Proofs.Drain.Verdict

/-! # What a scenario objects to

A scenario fails because one of its acts does, or because it objects to what it has seen: to the time of the
drain, to an idle drain that was slow, or to a stream that was short. No act raises an objection by itself
(`Failure.Common.impartial`), so an objection is the verdict on a drain that has been carried through, or else that of
a stream that had ended before the signal (`DrainVerifier.exercise_objects`). The former holds of what was seen. The
latter calls the stream short however long it was. -/

namespace GracefulDrain

/-- The failure says that a drain was not as it should be. -/
def Failure.isObjection : Failure → Bool
  | .window _ | .slowIdle _ | .shortStream .. => true
  | _ => false

theorem Scenario.opensConnection_eq_false_iff {scenario : Scenario} :
    scenario.opensConnection = false ↔ scenario = .idle := by
  cases scenario <;> simp [opensConnection]

theorem Scenario.expectsInFlight_iff {scenario : Scenario} :
    scenario.expectsInFlight = true ↔ scenario = .inFlight := by
  cases scenario <;> simp [expectsInFlight]

theorem Duration.le_of_not_isImmediate {d : Duration} (slow : ¬ d.isImmediate) : ofSecs 1 ≤ d :=
  Nat.not_lt.1 fun fast => slow (decide_eq_true fast)

theorem DrainReport.not_inTime_iff {r : DrainReport} :
    ¬ r.InTime ↔ r.observation.elapsed.secs < r.window.minimumSecs ∨
      r.window.gracePeriodSecs < r.observation.elapsed.secs := by
  unfold InTime
  omega

/-- A report is refused by the first check that it fails, with what that check has seen. -/
theorem DrainReport.of_verdict_eq_error {r : DrainReport} {strictIdle : Bool} {grace : Duration} {failure : Failure}
    (refused : r.verdict strictIdle grace = .error failure) :
    (¬ r.InTime ∧ failure = .window ⟨r.observation.elapsed.secs, r.window⟩) ∨
      (¬ r.IsPrompt strictIdle ∧ failure = .slowIdle r.observation.elapsed.millis64) ∨
      (¬ r.IsFull grace ∧ failure = .shortStream r.observation.linesObserved grace.expectedLines) := by
  have same {e : Failure} (h : r.verdict strictIdle grace = .error e) : failure = e :=
    Except.error.inj (refused.symm.trans h)
  rcases Classical.em r.InTime with inTime | late
  · rcases Classical.em (r.IsPrompt strictIdle) with prompt | slow
    · rcases Classical.em (r.IsFull grace) with full | short
      · cases refused.symm.trans (verdict_of_isFull inTime prompt full)
      · exact .inr (.inr ⟨short, same (verdict_of_not_isFull inTime prompt short)⟩)
    · exact .inr (.inl ⟨slow, same (verdict_of_not_isPrompt inTime slow)⟩)
  · exact .inl ⟨late, same (verdict_of_not_inTime late)⟩

/-- Neither a process nor an eyeball raises an objection. -/
theorem Failure.Common.impartial : Common (·.isObjection = false) where
  ofProcess failure ofProcess := by cases failure <;> first | rfl | cases ofProcess
  ofEyeball _ failure ofEyeball := by cases ofEyeball <;> rfl

/-! ### Eyeballs -/

theorem Watch.isFinished_iff {w : Watch} {now : Nat} :
    w.isFinished now = true ↔ ∃ time result, w.finish = some (time, result) ∧ time ≤ now := by
  unfold isFinished
  rcases finish : w.finish with _ | ⟨time, result⟩
  · simp
  · constructor
    · exact fun ended => ⟨time, result, rfl, of_decide_eq_true ended⟩
    · rintro ⟨_, _, ⟨⟩, ended⟩
      exact decide_eq_true ended

/-- The join of an eyeball that has ended does not wait. -/
theorem Watch.join_of_finish {w : Watch} {time now : Nat} {result : Except Failure LineReport}
    (finish : w.finish = some (time, result)) (ended : time ≤ now) (timeout : Duration) :
    w.join now timeout = (some result, now) := by
  unfold join
  simp only [finish]
  rw [if_pos (Nat.le_add_right_of_le ended), Nat.max_eq_left ended]

/-! ### Scenarios -/

namespace DrainVerifier
open Supervised Failure.Common
variable {ω : Type} {v : DrainVerifier} {world : World ω} {scenario : Scenario} {signal : TermSignal}
  {p o q : Supervised ω} {outcome : Outcome} {eyeball : Option LineReport} {watch : Option Watch}

/-- The stream that should be in flight has ended before the signal, with so many lines. -/
inductive EndedEarly (v : DrainVerifier) (world : World ω) (scenario : Scenario) (p : Supervised ω) (lines : Nat) :
    Prop
  | intro {ready o : Supervised ω} {stream : Watch} {time : Nat} {report : LineReport}
      (readiness : (awaitReady world v.probeUrl v.settings.readinessTimeout).run.run p = (.ok (), ready))
      (establishment : (v.openStream world scenario).run.run ready = (.ok (some stream), o))
      (inFlight : scenario = .inFlight) (finish : stream.finish = some (time, .ok report))
      (ended : time ≤ world.clock o.handle.world) (counted : report.lines = lines) :
      EndedEarly v world scenario p lines

/-- A check of the stream passes if the stream goes on, and objects to one that has ended. -/
theorem checkInFlight_objects (fair : ∀ stream, watch = some stream → stream.FailsOnly (·.isObjection = false))
    (o : Supervised ω) :
    wp (v.checkInFlight world scenario watch)
      (fun _ q => q = o ∧ (scenario.expectsInFlight → ∀ stream, watch = some stream →
        stream.isFinished (world.clock o.handle.world) = false))
      (fun failure _ => failure.isObjection = true → ∃ stream time report,
        scenario.expectsInFlight ∧ watch = some stream ∧ stream.finish = some (time, .ok report) ∧
          time ≤ world.clock o.handle.world ∧
          failure = .shortStream report.lines v.process.gracePeriod.expectedLines) o := by
  cases watch with
  | none => exact ⟨rfl, fun _ _ => nofun⟩
  | some stream =>
    show wp (if scenario.expectsInFlight then v.refuseEnded world stream else pure ()) _ _ o
    split
    · rename_i inFlight
      simp only [refuseEnded, wp_bind, wp_now]
      split
      · rename_i finished
        obtain ⟨time, result, finish, ended⟩ := Watch.isFinished_iff.1 finished
        simp only [wp_bind, joinEyeball, wp_now, Watch.join_of_finish finish ended]
        rcases result with failure | report
        · intro objection
          rw [fair stream rfl time failure finish] at objection
          cases objection
        · exact fun _ => ⟨stream, time, report, inFlight, rfl, finish, ended, rfl⟩
      · rename_i going
        refine ⟨rfl, fun _ _ same => ?_⟩
        cases same
        simpa using going
    · rename_i closed
      exact ⟨rfl, fun inFlight => absurd inFlight closed⟩

/-- A drain fails without an objection, or has carried its scenario through. -/
theorem drain_carries {ready : Supervised ω}
    (readiness : (awaitReady world v.probeUrl v.settings.readinessTimeout).run.run p = (.ok (), ready))
    (establishment : (v.openStream world scenario).run.run ready = (.ok watch, o))
    (flowing : scenario.expectsInFlight → ∀ stream, watch = some stream →
      stream.isFinished (world.clock o.handle.world) = false)
    (fair : ∀ stream, watch = some stream → stream.FailsOnly (·.isObjection = false)) :
    wp (v.drain world scenario signal watch)
      (fun report q => ∃ outcome eyeball, v.Carried world scenario signal p o q outcome eyeball ∧
        report = v.reportOf world scenario signal o q outcome eyeball)
      (fun failure _ => failure.isObjection = false) o := by
  rw [drain, wp_bind, wp_get, wp_bind, wp_now, wp_bind]
  refine (impartial.act (sendSignal_ofProcess signal)).wp (fun _ sent signalling => ?_) fun _ _ h => h
  rw [wp_bind, wp_callWorld]
  rcases unready : world.awaitNotReady v.probeUrl notReadyTimeout sent.handle.world with ⟨_ | _, w⟩
  · rfl
  · rw [if_neg (by simp), wp_bind]
    refine (impartial.act awaitTermination_ofProcess).wp (fun outcome ended termination => ?_) fun _ _ h => h
    rw [wp_bind]
    refine (joinOpened_failsOnly impartial fair).wp (fun eyeball q join => ?_) fun _ _ h => h
    exact ⟨outcome, eyeball, .intro readiness establishment flowing signalling unready termination join, rfl⟩

/-- An objection is that to a stream that ended early, or else the verdict on a scenario that was carried through. -/
theorem exercise_objects (v : DrainVerifier) (world : World ω) (scenario : Scenario) (signal : TermSignal)
    (p : Supervised ω) :
    wp (v.exercise world scenario signal) (fun _ _ => True)
      (fun failure q => failure.isObjection = true →
        (∃ lines, v.EndedEarly world scenario p lines ∧
          failure = .shortStream lines v.process.gracePeriod.expectedLines) ∨
        ∃ o outcome eyeball, v.Carried world scenario signal p o q outcome eyeball ∧
          (v.reportOf world scenario signal o q outcome eyeball).verdict v.settings.strictIdle
            v.process.gracePeriod = .error failure) p := by
  have none_raised {failure : Failure} {C : Prop} (h : failure.isObjection = false) :
      failure.isObjection = true → C := fun objection => by rw [h] at objection; cases objection
  rw [exercise, wp_bind]
  refine (impartial.act (awaitReady_ofProcess _ _)).wp (fun _ ready readiness => ?_) fun _ _ h =>
    none_raised h
  rw [wp_bind]
  have opening := openStream_fails impartial v world scenario ready
  refine (openStream_failsOnly impartial v world scenario).wp (fun watch o establishment => ?_) fun _ _ h =>
    none_raised h
  have fair : ∀ stream, watch = some stream → stream.FailsOnly (·.isObjection = false) :=
    ok_of_wp opening (by rw [establishment])
  rw [wp_bind]
  refine wp_mono (checkInFlight_objects fair o) ?_ ?_
  · rintro _ _ ⟨rfl, flowing⟩
    rw [wp_bind]
    refine wp_mono (drain_carries readiness establishment flowing fair) ?_ fun _ _ h => none_raised h
    rintro report q ⟨outcome, eyeball, carried, rfl⟩
    unfold judge
    split
    · trivial
    · exact fun _ => .inr ⟨_, outcome, eyeball, carried, ‹_›⟩
  · rintro failure q early objection
    obtain ⟨stream, time, report, inFlight, rfl, finish, ended, rfl⟩ := early objection
    exact .inl ⟨_, .intro readiness establishment (Scenario.expectsInFlight_iff.1 inFlight) finish ended rfl, rfl⟩

/-- A stream that ends early is called short, however many lines it had. -/
theorem EndedEarly.run_exercise {lines : Nat} (early : v.EndedEarly world scenario p lines) (signal : TermSignal) :
    ((v.exercise world scenario signal).run.run p).1 =
      .error (.shortStream lines v.process.gracePeriod.expectedLines) := by
  obtain ⟨readiness, establishment, rfl, finish, ended, rfl⟩ := early
  rename_i ready o stream time report
  have finished : stream.isFinished (world.clock o.handle.world) = true :=
    Watch.isFinished_iff.2 ⟨time, .ok report, finish, ended⟩
  refine of_wp (R := fun result _ => result = _) ?_
  rw [exercise, wp_bind]
  refine wp_of_run readiness ?_
  rw [wp_bind]
  refine wp_of_run establishment ?_
  rw [wp_bind]
  show wp (v.refuseEnded world stream) _ _ o
  simp only [refuseEnded, wp_bind, wp_now, finished, if_true, joinEyeball, Watch.join_of_finish finish ended]
  rfl

/-- A scenario that has been carried through to `q` took so long from the signal on, and its eyeball had so many
lines. -/
def Observes (v : DrainVerifier) (world : World ω) (scenario : Scenario) (signal : TermSignal) (p q : Supervised ω)
    (elapsed : Duration) (lines : Nat) : Prop :=
  ∃ o outcome eyeball, v.Carried world scenario signal p o q outcome eyeball ∧
    .between (world.clock o.handle.world) (world.clock q.handle.world) = elapsed ∧
    eyeball.elim 0 LineReport.lines = lines

/-- What the objections of a scenario say. A violation of the window is one, and that of the time the drain took;
only an idle drain is slow, where it had to be immediate and took a second or more. The stream of a drain that was
carried through is short where it has fewer lines than expected. But a stream that ends before the signal is
called short as well, with any number of lines. -/
theorem objections_of_exercise (v : DrainVerifier) (world : World ω) (scenario : Scenario) (signal : TermSignal)
    (p : Supervised ω) :
    let run := (v.exercise world scenario signal).run.run p
    let grace := v.process.gracePeriod
    (∀ violation, run.1 = .error (.window violation) →
      (violation.elapsedSecs < violation.window.minimumSecs ∨
        violation.window.gracePeriodSecs < violation.elapsedSecs) ∧
      ∃ elapsed lines, v.Observes world scenario signal p run.2 elapsed lines ∧
        violation = ⟨elapsed.secs, .of scenario.expectsInFlight grace⟩) ∧
    (∀ ms, run.1 = .error (.slowIdle ms) →
      scenario = .idle ∧ v.settings.strictIdle = true ∧
      ∃ elapsed lines, v.Observes world scenario signal p run.2 elapsed lines ∧
        .ofSecs 1 ≤ elapsed ∧ ms = elapsed.millis64) ∧
    (∀ lines expected, run.1 = .error (.shortStream lines expected) →
      scenario = .inFlight ∧ expected = 2 * grace.secs ∧
      (v.EndedEarly world scenario p lines ∨
        lines < expected ∧ ∃ elapsed, v.Observes world scenario signal p run.2 elapsed lines)) ∧
    ∀ lines, v.EndedEarly world scenario p lines → run.1 = .error (.shortStream lines (2 * grace.secs)) := by
  intro run grace
  have objects {failure : Failure} (failed : run.1 = .error failure) (objection : failure.isObjection = true) :=
    error_of_wp (v.exercise_objects world scenario signal p) failed objection
  refine ⟨fun violation failed => ?_, fun ms failed => ?_, fun lines expected failed => ?_, fun lines early => ?_⟩
  · obtain ⟨_, -, ⟨⟩⟩ | ⟨o, outcome, eyeball, carried, verdict⟩ := objects failed rfl
    obtain ⟨late, same⟩ | ⟨-, ⟨⟩⟩ | ⟨-, ⟨⟩⟩ := DrainReport.of_verdict_eq_error verdict
    cases same
    exact ⟨DrainReport.not_inTime_iff.1 late, _, _, ⟨o, outcome, eyeball, carried, rfl, rfl⟩, rfl⟩
  · obtain ⟨_, -, ⟨⟩⟩ | ⟨o, outcome, eyeball, carried, verdict⟩ := objects failed rfl
    obtain ⟨-, ⟨⟩⟩ | ⟨slow, same⟩ | ⟨-, ⟨⟩⟩ := DrainReport.of_verdict_eq_error verdict
    cases same
    obtain ⟨⟨strict, idle⟩, slow⟩ := Classical.not_imp.1 slow
    exact ⟨Scenario.opensConnection_eq_false_iff.1 idle, strict, _, _, ⟨o, outcome, eyeball, carried, rfl, rfl⟩,
      Duration.le_of_not_isImmediate slow, rfl⟩
  · obtain ⟨_, early, same⟩ | ⟨o, outcome, eyeball, carried, verdict⟩ := objects failed rfl
    · cases same
      have inFlight : scenario = .inFlight := by
        cases early
        assumption
      exact ⟨inFlight, Nat.mul_comm _ _, .inl early⟩
    · obtain ⟨-, ⟨⟩⟩ | ⟨-, ⟨⟩⟩ | ⟨short, same⟩ := DrainReport.of_verdict_eq_error verdict
      cases same
      obtain ⟨inFlight, short⟩ := Classical.not_imp.1 short
      exact ⟨Scenario.expectsInFlight_iff.1 inFlight, Nat.mul_comm _ _,
        .inr ⟨Nat.not_le.1 short, _, o, outcome, eyeball, carried, rfl, rfl⟩⟩
  · show run.1 = _
    rw [Nat.mul_comm]
    exact early.run_exercise signal

/-- A verifier that grants a second, but not to an idle drain. -/
def strict : DrainVerifier := { brief with settings := { brief.settings with strictIdle := true } }

theorem strict_carried : strict.Carried Stage.streaming .idle .terminate briefRunning briefRunning briefEnded
    (.exited (some 0) (.ofSecs 1)) none :=
  .intro (run_awaitReady_of_isReady rfl) rfl (fun _ _ => nofun) rfl (World.awaitNotReady_of_not_isReady rfl) rfl rfl

/-- What is reported of a drain of a second by that verifier. -/
def idleSecond : DrainReport :=
  strict.reportOf Stage.streaming .idle .terminate briefRunning briefEnded (.exited (some 0) (.ofSecs 1)) none

theorem idleSecond_elapsed : idleSecond.observation.elapsed = .ofSecs 1 := rfl

theorem exercise_strict : ((strict.exercise Stage.streaming .idle .terminate).run.run briefRunning).1 =
    .error (.slowIdle 1000) := by
  have inTime : idleSecond.InTime := by
    rw [DrainReport.InTime, idleSecond_elapsed]
    decide
  have slow : ¬ idleSecond.IsPrompt true := by
    rw [DrainReport.IsPrompt, idleSecond_elapsed]
    decide
  have refused : idleSecond.verdict strict.settings.strictIdle strict.process.gracePeriod = .error (.slowIdle 1000) :=
    DrainReport.verdict_of_not_isPrompt inTime slow
  rw [run_exercise strict_carried]
  exact congrArg (Except.map fun _ => idleSecond) refused

/-- A connector that takes a second to end was slow for an idle one. -/
theorem idle_second_is_slow :
    let run := (strict.exercise Stage.streaming .idle .terminate).run.run briefRunning
    run.1 = .error (.slowIdle 1000) ∧
      ∃ elapsed lines, strict.Observes Stage.streaming .idle .terminate briefRunning run.2 elapsed lines ∧
        .ofSecs 1 ≤ elapsed := by
  obtain ⟨-, slow, -⟩ := objections_of_exercise strict Stage.streaming .idle .terminate briefRunning
  obtain ⟨-, -, elapsed, lines, observes, long, -⟩ := slow 1000 exercise_strict
  exact ⟨exercise_strict, elapsed, lines, observes, long⟩

end DrainVerifier

/-- A stage on which the connector streams two events at once and closes the stream. -/
def Stage.bursting : World Stage :=
  { Stage.serving with
    request := fun _ s =>
      (.answered 0 200 [⟨0, Utf8.encode "data: 0\n\ndata: 1\n\n"⟩] (.over 0 false), s) }

namespace DrainVerifier
open Supervised

theorem bursting_endedEarly : brief.EndedEarly Stage.bursting .inFlight briefRunning 4 :=
  .intro (run_awaitReady_of_isReady rfl) rfl rfl rfl (Nat.le_refl _) rfl

/-- Four lines are called short where two are expected, in words that are not true. -/
theorem four_lines_are_called_short_of_two :
    ((brief.exercise Stage.bursting .inFlight .terminate).run.run briefRunning).1 = .error (.shortStream 4 2) ∧
      ¬ 4 < 2 ∧ (Failure.shortStream 4 2).message = "Stream carried 4 lines, expected at least 2" :=
  ⟨bursting_endedEarly.run_exercise .terminate, by decide, rfl⟩

end DrainVerifier

end GracefulDrain
