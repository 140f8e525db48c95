import GracefulDrain.Proofs.Process.Administrative
import GracefulDrain.Proofs.Process.Reactions

/-! # What is told of the end of a command

A command is a child that ends by itself, in time or not, and writes until then. A host shows what it has written if it
has read all of it once it has settled (`Host.Writer`). Then the answer of a command tells how it has ended and what it
has written, and the command has ended whenever there is an answer. On any host at all, a command that has been started
is seen to end or is killed in the end (`Runs.reclaims`). -/

namespace GracefulDrain

/-! ### A child that writes -/

/-- A child that the host shows as it is, with what it writes. A wait that hears of an end is right, and it changes
nothing about the child. Neither does a poll. A child that is killed and reaped has ended, and what it had written by
then stays. Once a child has ended and the host has settled, all that it has written has been read. -/
structure Host.Writer {σ : Type} (host : Host σ) extends host.Child where
  /-- What the child has written to a stream by some time, as things are. -/
  wrote : σ → Stream → Nat → ByteArray
  heard : ∀ timeout w e, (host.await timeout w).1 = .ok (some e) →
    ∃ time, fate w = some (time, e) ∧ time ≤ host.clock (host.await timeout w).2
  fate_await : ∀ timeout w, fate (host.await timeout w).2 = fate w
  wrote_await : ∀ timeout w, wrote (host.await timeout w).2 = wrote w
  wrote_poll : ∀ w, wrote (host.poll w).2 = wrote w
  reaped : ∀ w e, (host.reap (host.forceKill w).2).1 = .ok e →
    ∃ time, fate (host.reap (host.forceKill w).2).2 = some (time, e) ∧
      time ≤ host.clock (host.reap (host.forceKill w).2).2 ∧
      ∀ stream, wrote (host.reap (host.forceKill w).2).2 stream time = wrote w stream time
  settled : ∀ w time e, fate w = some (time, e) → time ≤ host.clock w →
    fate (host.settle w) = some (time, e) ∧ time ≤ host.clock (host.settle w) ∧
      ∀ stream, host.output stream (host.settle w) = wrote w stream time

theorem Fate.eq_of_seen {fate : Fate} {time : Nat} {e : Exit} (seen : fate.seen time = some e) :
    ∃ ended ≤ time, fate = some (ended, e) := by
  rcases fate with _ | ⟨ended, e'⟩
  · cases seen
  · unfold Fate.seen at seen
    dsimp only at seen
    split at seen
    · cases seen
      exact ⟨ended, ‹_›, rfl⟩
    · cases seen

namespace Host.Writer
variable {σ : Type} {host : Host σ} {child : host.Writer} {w w' : σ} {time : Nat} {e : Exit}

def Ended (child : host.Writer) (w : σ) (time : Nat) (e : Exit) : Prop :=
  child.fate w = some (time, e) ∧ time ≤ host.clock w

/-- What is kept of that which the child has written by `time`, as things are in `w`. -/
def kept (child : host.Writer) (w : σ) (time : Nat) : CapturedOutput :=
  ⟨Utf8.lossy ((child.wrote w .stdout time).extract 0 OutputBuffer.limit),
    Utf8.lossy ((child.wrote w .stderr time).extract 0 OutputBuffer.limit)⟩

theorem ended_settle (ended : child.Ended w time e) : child.Ended (host.settle w) time e :=
  ⟨(child.settled w time e ended.1 ended.2).1, (child.settled w time e ended.1 ended.2).2.1⟩

theorem outputSoFar_settle (ended : child.Ended w time e) : host.outputSoFar (host.settle w) = child.kept w time := by
  have read := (child.settled w time e ended.1 ended.2).2.2
  rw [Host.outputSoFar_eq, read, read]
  rfl

theorem kept_congr (same : ∀ stream, child.wrote w' stream time = child.wrote w stream time) :
    child.kept w' time = child.kept w time := by
  unfold kept
  rw [same, same]

theorem ended_of_heard (child : host.Writer) {timeout : Duration}
    (heard : host.await timeout w = (.ok (some e), w')) :
    ∃ time, child.fate w = some (time, e) ∧ time ≤ host.clock w + timeout.nanos ∧ child.Ended w' time e ∧
      child.kept w' time = child.kept w time := by
  obtain ⟨time, planned, past⟩ := child.heard timeout w e (congrArg Prod.fst heard)
  have fate := child.fate_await timeout w
  have wrote := child.wrote_await timeout w
  have unheard := child.await_alive timeout w
  rw [heard] at past fate wrote unheard
  refine ⟨time, planned, ?_, ⟨fate.trans planned, past⟩, kept_congr fun stream => by rw [wrote]⟩
  -- of a child that was alive at the deadline the wait would have heard nothing
  refine Classical.byContradiction fun late => ?_
  have alive : (child.fate w).AliveAt (host.clock w + timeout.nanos) := by
    rw [planned]
    exact if_neg late
  cases unheard alive

theorem not_killed_error (child : host.Writer) {reason : OsError} : ¬ Killed host w (.error reason) w' := by
  intro failed
  cases failed with
  | unseen polled => exact (child.kill w).poll_ne_error polled
  | refused polled refused =>
    exact ((child.kill w).of_poll polled).granted _ .refl reason (congrArg Prod.fst refused)
  | unreaped polled killed _ unreaped =>
    obtain ⟨e, reaped⟩ := ((child.kill w).of_poll polled).reaped _ .refl
    rw [killed, unreaped] at reaped
    cases reaped

theorem ended_of_killed (child : host.Writer) (killed : Killed host w (.ok ()) w') :
    ∃ time e, child.Ended w' time e ∧ ∀ stream, child.wrote w' stream time = child.wrote w stream time := by
  cases killed with
  | @ended e _ polled =>
    obtain ⟨moment, -, done, answer⟩ := child.poll w
    have fate := child.fate_poll w
    have wrote := child.wrote_poll w
    rw [polled] at done answer fate wrote
    obtain ⟨time, past, planned⟩ := Fate.eq_of_seen (Except.ok.inj answer).symm
    exact ⟨time, e, ⟨fate.trans planned, Nat.le_trans past done⟩, fun stream => by rw [wrote]⟩
  | @reaped _ e w₁ _ _ polled sent _ reaped =>
    have killed := child.reaped w₁ e
    have wrote := child.wrote_poll w
    rw [sent, reaped] at killed
    rw [polled] at wrote
    obtain ⟨time, fate, past, same⟩ := killed rfl
    exact ⟨time, e, ⟨fate, past⟩, fun stream => by rw [same, wrote]⟩

end Host.Writer

/-! ### The answer of a command -/

section
variable {σ : Type} {host : Host σ} {program : String} {args : List String} {timeout : Duration} {w w₁ w' : σ}
  {pid : Nat}

/-- How a command goes whose child has been started and is shown as it is: it is heard to end, or it is killed. -/
theorem Runs.of_child {r : Except Failure CapturedOutput} (child : host.Writer)
    (spawned : host.spawn (program :: args) w = (.ok pid, w₁)) (runs : Runs host program args timeout w r w') :
    ∃ time e, child.Ended w' time e ∧
      ((child.fate w₁ = some (time, e) ∧ time ≤ host.clock w₁ + timeout.nanos ∧
          (host.await timeout w₁).1 = .ok (some e) ∧
          r = if e = .code 0 then .ok (child.kept w₁ time)
            else .error (.commandFailed program e.codeOrMinusOne (Text.trim (child.kept w₁ time).stderr))) ∨
        ((host.await timeout w₁).1 = .ok none ∧
          r = .error (.timeout .query timeout.millis64 (child.kept w₁ time).combined))) := by
  cases runs with
  | unstarted refused => cases refused.symm.trans spawned
  | lost spawned' waited =>
    cases spawned'.symm.trans spawned
    obtain ⟨exit, answer⟩ := child.await timeout w₁
    rw [waited] at answer
    cases answer
  | unkilled spawned' waited killed => exact (child.not_killed_error killed).elim
  | @late _ _ w₂ w₃ spawned' waited killed =>
    cases spawned'.symm.trans spawned
    obtain ⟨time, e, ended, same⟩ := child.ended_of_killed killed
    have wrote := child.wrote_await timeout w₁
    rw [waited] at wrote
    refine ⟨time, e, Host.Writer.ended_settle ended, .inr ⟨congrArg Prod.fst waited, ?_⟩⟩
    have kept : child.kept w₃ time = child.kept w₁ time :=
      Host.Writer.kept_congr fun stream => (same stream).trans (by rw [wrote])
    rw [Host.Writer.outputSoFar_settle ended, kept]
  | @failed _ e _ w₂ spawned' waited badly =>
    cases spawned'.symm.trans spawned
    obtain ⟨time, planned, inTime, ended, same⟩ := child.ended_of_heard waited
    refine ⟨time, e, Host.Writer.ended_settle ended, .inl ⟨planned, inTime, congrArg Prod.fst waited, ?_⟩⟩
    rw [Host.Writer.outputSoFar_settle ended, same, if_neg badly]
  | answered spawned' waited =>
    cases spawned'.symm.trans spawned
    obtain ⟨time, planned, inTime, ended, same⟩ := child.ended_of_heard waited
    refine ⟨time, .code 0, Host.Writer.ended_settle ended, .inl ⟨planned, inTime, congrArg Prod.fst waited, ?_⟩⟩
    rw [Host.Writer.outputSoFar_settle ended, same, if_pos rfl]

end

/-! ### The record of a command -/

section
variable {τ σ : Type} {view : τ → σ} {full : Host τ} {host : Host σ} {program : String} {args : List String}
  {timeout : Duration}

namespace Handle
variable (same : full.Shows view host)
include same

theorem mirrors_drained (h : Handle τ) : Mirrors (seen view) (drained full) (drained host) h := by
  show (Except.ok ((h.seen view).drain host).1, ((h.seen view).drain host).2) = _
  rw [drain_seen same]
  rfl

theorem mirrors_finish (timeout : Duration) (start : Nat) (h : Handle τ) :
    Mirrors (seen view) (finish full timeout start) (finish host timeout start) h := by
  refine ((mirrors_waitFor same h timeout .query).observing).bind fun r h => ?_
  rcases r with failure | e
  · cases failure with
    | timeout wait elapsedMs text =>
      exact (mirrors_kill same h).bind fun _ h => (mirrors_drained same h).bind fun _ h => .throw _
    | _ => exact .throw _
  · refine (mirrors_drained same h).bind fun output h => .ite (.get_bind ?_) (.get_bind (.throw _))
    rw [show host.clock (h.seen view).world = full.clock h.world from same.clock h.world]
    exact .pure _

end Handle

theorem runToCompletion_shows (same : full.Shows view host) (argv : List String) (timeout : Duration) :
    CallShows view (runToCompletion full argv timeout) (runToCompletion host argv timeout) := by
  intro w
  cases argv with
  | nil => rfl
  | cons program args =>
    unfold runToCompletion Handle.start
    rw [same.spawn, same.clock]
    rcases full.spawn (program :: args) w with ⟨reason | pid, w₁⟩
    · rfl
    · have finished := Handle.mirrors_finish same timeout (full.clock w) { program, pid, world := w₁ }
      unfold Mirrors at finished
      have start : ({ program, pid, world := view w₁ } : Handle σ) =
          ({ program, pid, world := w₁ } : Handle τ).seen view := rfl
      simp only [start, finished, Handle.abandon_seen same]
      rfl

end

section
variable {σ : Type} {host : Host σ} {program : String} {args : List String} {timeout : Duration} {w : σ}

/-- By these calls the child has been heard to end, or the last of them is to kill it. -/
def Host.Reclaims (host : Host σ) (calls : List Call) : Prop :=
  (∃ call ∈ calls, call.exit?.isSome) ∨ ∃ v, calls.getLast? = some (.forceKill (host.forceKill v).1)

theorem Recorded.reclaims_of_heard (host : Host σ) {α : Type} {f : σ → α × σ} {note : α → Call}
    {r r' : Recorded σ} {a : α} (called : r.call f note = (a, r')) (heard : (note a).exit?.isSome) :
    host.Reclaims r'.calls := by
  rw [calls_of_call called]
  exact .inl ⟨note a, List.mem_append_right _ (List.mem_singleton_self _), heard⟩

theorem Recorded.reclaims_forceKill (r : Recorded σ) : host.Reclaims (host.recorded.forceKill r).2.calls :=
  .inr ⟨r.world, List.getLast?_concat⟩

/-- On any host, a command that has been started is heard to end or is killed. -/
theorem Runs.reclaims {r : Except Failure CapturedOutput} {v w₁ : Recorded σ} {pid : Nat}
    (spawned : host.recorded.spawn (program :: args) ⟨w, []⟩ = (.ok pid, w₁))
    (runs : Runs host.recorded program args timeout ⟨w, []⟩ r v) : host.Reclaims v.calls := by
  cases runs with
  | unstarted refused => cases refused.symm.trans spawned
  | lost | unkilled => exact Recorded.reclaims_forceKill _
  | late _ _ killed =>
    cases killed with
    | ended polled => exact (Recorded.reclaims_of_heard host polled rfl :)
    | reaped _ _ _ reaped => exact (Recorded.reclaims_of_heard host reaped rfl :)
  | failed _ waited | answered _ waited => exact (Recorded.reclaims_of_heard host waited rfl :)

theorem error_of_map_output {r : Except Failure CommandOutput} {failure : Failure}
    (mapped : r.map CommandOutput.output = .error failure) : r = .error failure := by
  rcases r with _ | answer <;> cases mapped
  rfl

theorem ok_of_map_output {r : Except Failure CommandOutput} {output : CapturedOutput}
    (mapped : r.map CommandOutput.output = .ok output) : ∃ answer, r = .ok answer ∧ answer.output = output := by
  rcases r with _ | answer <;> cases mapped
  exact ⟨answer, rfl, rfl⟩

/-- What is told of the end of a command. If it cannot be started, that is told, and nothing has happened. On any host,
one that is started is heard to end or is killed. If the host shows its child as it is, the child has ended whenever
there is an answer. One that ends in time is told by its exit code, with all that it has written if that is 0 and with
its errors if not, and one that does not end in time with all that it has written until it was killed. -/
theorem runToCompletion_tells_end (host : Host σ) (program : String) (args : List String) (timeout : Duration)
    (w : σ) :
    let run := runToCompletion host (program :: args) timeout w
    let recorded := runToCompletion host.recorded (program :: args) timeout ⟨w, []⟩
    runToCompletion host [] timeout w = (.error (.configuration "empty argument vector"), w) ∧
    (∀ reason w', host.spawn (program :: args) w = (.error reason, w') →
      run = (.error (.launch program reason), w')) ∧
    (recorded.1 = run.1 ∧ recorded.2.world = run.2 ∧
      ∀ pid w₁, host.spawn (program :: args) w = (.ok pid, w₁) → host.Reclaims recorded.2.calls) ∧
    ∀ (child : host.Writer) pid w₁, host.spawn (program :: args) w = (.ok pid, w₁) →
      let deadline := host.clock w₁ + timeout.nanos
      ∃ time e, child.Ended run.2 time e ∧
        let output : CapturedOutput :=
          ⟨Utf8.lossy ((child.wrote w₁ .stdout time).extract 0 OutputBuffer.limit),
            Utf8.lossy ((child.wrote w₁ .stderr time).extract 0 OutputBuffer.limit)⟩
        (∀ planned exit, child.fate w₁ = some (planned, exit) → planned < deadline →
          time = planned ∧ e = exit ∧
          (exit = .code 0 →
            run.1 = .ok ⟨output, 0, (Duration.between (host.clock w) (host.clock run.2)).millis64⟩) ∧
          (exit ≠ .code 0 →
            run.1 = .error (.commandFailed program (exit.code?.getD (-1)) (Text.trim output.stderr)))) ∧
        ((child.fate w₁).AliveAt deadline →
          run.1 = .error (.timeout .query timeout.millis64
            ("stdout: " ++ Text.trim output.stdout ++ "\nstderr: " ++ Text.trim output.stderr))) ∧
        ∀ answer, run.1 = .ok answer → child.fate w₁ = some (time, .code 0) ∧ time ≤ deadline := by
  intro run recorded
  have shown := runToCompletion_shows host.recorded_shows (program :: args) timeout ⟨w, []⟩
  refine ⟨rfl, fun reason w' refused => ?_, ⟨(congrArg Prod.fst shown).symm, (congrArg Prod.snd shown).symm,
    fun pid w₁ spawned => ?_⟩, fun child pid w₁ spawned => ?_⟩
  · simp only [run, runToCompletion, Handle.start, refused]
  · have spawned : host.recorded.spawn (program :: args) ⟨w, []⟩ = (.ok pid, ⟨w₁, []⟩) := by
      simp only [Host.recorded, spawned]
    exact (runs_runToCompletion host.recorded program args timeout ⟨w, []⟩).reclaims spawned
  · intro deadline
    obtain ⟨runs, whole⟩ := runToCompletion_goes host program args timeout w
    obtain ⟨time, e, ended, way⟩ := runs.of_child child spawned
    refine ⟨time, e, ended, fun planned exit fate early => ?_, fun alive => ?_, fun answer ok => ?_⟩
    · have heard := child.await_ended timeout w₁ planned exit fate early
      obtain ⟨same, -, -, way⟩ | ⟨silent, -⟩ := way
      · cases same.symm.trans fate
        refine ⟨rfl, rfl, fun well => ?_, fun badly => ?_⟩
        · rw [if_pos well] at way
          obtain ⟨answer, ok, output⟩ := ok_of_map_output way
          rw [show run.1 = .ok answer from ok, whole answer ok, output]
          rfl
        · rw [if_neg badly] at way
          exact error_of_map_output way
      · cases heard.symm.trans silent
    · have silent := child.await_alive timeout w₁ alive
      obtain ⟨-, -, heard, -⟩ | ⟨-, way⟩ := way
      · cases silent.symm.trans heard
      · exact error_of_map_output way
    · have mapped : run.1.map CommandOutput.output = .ok answer.output := by rw [ok]; rfl
      obtain ⟨fate, inTime, -, way⟩ | ⟨-, way⟩ := way
      · split at way
        · subst e
          exact ⟨fate, inTime⟩
        · cases way.symm.trans mapped
      · cases way.symm.trans mapped

end

/-! ### On a stage -/

namespace Stage
variable {s : Stage}

theorem player_await (timeout : Duration) : (s.await timeout).2.player = s.player := by
  unfold Stage.await
  dsimp only
  split
  · split <;> rfl
  · rfl

theorem output_of_player {t : Stage} (same : t.player = s.player) (stream : Stream) :
    output stream t = output stream s := by
  unfold output
  rw [same]

theorem ending_of_await {timeout : Duration} {e : Exit} (heard : (s.await timeout).1 = some e) :
    ∃ time, s.player.ending = some (time, e) ∧ time ≤ (s.await timeout).2.clock := by
  obtain ⟨time, past, ending⟩ := exists_ending (ended_await heard)
  rw [player_await] at ending
  exact ⟨time, ending, past⟩

theorem output_forceKill (stream : Stream) : output stream s.forceKill = output stream s := by
  unfold Stage.forceKill
  split <;> cases stream <;> rfl

/-- The child of a stage has written all at once. -/
def writer : host.Writer where
  toChild := child
  wrote s stream _ := output stream s
  heard _ _ _ heard := ending_of_await (Except.ok.inj heard)
  fate_await timeout _ := congrArg Player.ending (player_await timeout)
  wrote_await timeout _ := funext fun stream => funext fun _ => output_of_player (player_await timeout) stream
  wrote_poll _ := rfl
  reaped s e reaped := by
    obtain ⟨time, e', ending⟩ := s.ending_forceKill
    have run : s.forceKill.reap = (e', { s.forceKill with clock := max s.forceKill.clock time }) := by
      unfold Stage.reap
      rw [ending]
    have same : e' = e := (congrArg Prod.fst run).symm.trans (Except.ok.inj reaped)
    have world : (host.reap (host.forceKill s).2).2 = { s.forceKill with clock := max s.forceKill.clock time } :=
      congrArg Prod.snd run
    rw [world]
    refine ⟨time, same ▸ ending, Nat.le_max_right _ _, fun stream => ?_⟩
    exact (output_of_player rfl stream).trans (output_forceKill stream)
  settled _ time e fate past := ⟨fate, past, fun _ => rfl⟩

/-- A command that takes a second to fail, and says why. -/
def complaint : Script := { stderr := ⟨#[110, 111, 10]⟩, ending := some (.code 3), delay := .ofSecs 1 }

def complaining : Stage := { cast := fun _ => .ok complaint }

theorem kept_complaint (time : Nat) : writer.kept (complaining.play complaint) time = ⟨"", "no\n"⟩ := by
  have stdout : Utf8.lossy (ByteArray.empty.extract 0 OutputBuffer.limit) = "" := rfl
  have stderr : Utf8.lossy ((⟨#[110, 111, 10]⟩ : ByteArray).extract 0 OutputBuffer.limit) = "no\n" := rfl
  exact congr (congrArg CapturedOutput.mk stdout) stderr

/-- A command that fails says why if it is waited for, and also if it is not. -/
theorem complaint_is_told :
    let patient := runToCompletion host ["c"] (.ofSecs 2) complaining
    let hasty := runToCompletion host ["c"] (.ofMillis 500) complaining
    patient.1 = .error (.commandFailed "c" 3 (Text.trim "no\n")) ∧
      hasty.1 = .error (.timeout .query 500 ("stdout: " ++ Text.trim "" ++ "\nstderr: " ++ Text.trim "no\n")) := by
  intro patient hasty
  obtain ⟨-, -, -, inTime⟩ := runToCompletion_tells_end host "c" [] (.ofSecs 2) complaining
  obtain ⟨-, -, -, late⟩ := runToCompletion_tells_end host "c" [] (.ofMillis 500) complaining
  obtain ⟨time, e, -, heard, -⟩ := inTime writer pid (complaining.play complaint) rfl
  obtain ⟨time', e', -, -, outlived, -⟩ := late writer pid (complaining.play complaint) rfl
  obtain ⟨-, -, -, failed⟩ := heard 1_000_000_000 (.code 3) rfl (by decide)
  have texts := kept_complaint time
  have texts' := kept_complaint time'
  unfold Host.Writer.kept at texts texts'
  rw [texts] at failed
  rw [texts'] at outlived
  exact ⟨failed (by decide), outlived (by decide)⟩

end Stage

end GracefulDrain
