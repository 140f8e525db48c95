import GracefulDrain.Proofs.Process.Deliveries
import GracefulDrain.Proofs.Process.Frame
import GracefulDrain.Proofs.Process.Truth
import GracefulDrain.Rehearsal.Stage

/-! # No connector outlives its owner

A shutdown that may fall back on a forced kill ends the process, whichever step of the orderly termination
fails, and hands over the beginning of what the child wrote. A process that is given up has ended or is sent a
forced kill (`no_process_outlives_its_owner`). -/

namespace GracefulDrain

/-! ### What a buffer keeps -/

/-- The pieces in which a stream is read, put together. -/
def joined (pieces : List ByteArray) : ByteArray := pieces.foldl (· ++ ·) .empty

namespace OutputBuffer

/-- The buffer after `pieces` have been read. -/
def reading (pieces : List ByteArray) : OutputBuffer := pieces.foldl append {}

theorem extract_of_fits {octets : ByteArray} (fits : octets.size ≤ limit) : octets.extract 0 limit = octets := by
  apply ByteArray.ext
  rw [ByteArray.data_extract]
  exact Array.extract_eq_self_of_le fits

theorem octets_append {b : OutputBuffer} {whole : ByteArray} (kept : b.octets = whole.extract 0 limit)
    (piece : ByteArray) : (b.append piece).octets = (whole ++ piece).extract 0 limit := by
  have room : limit - min limit whole.size = limit - whole.size := by omega
  simp only [append, size, kept, ByteArray.extract_append, ByteArray.size_extract, Nat.sub_zero, Nat.zero_sub, room]

theorem octets_empty_append (octets : ByteArray) :
    (({} : OutputBuffer).append octets).octets = octets.extract 0 limit := by
  have none : ({} : OutputBuffer).octets = ByteArray.empty.extract 0 limit := rfl
  rw [octets_append none, ByteArray.empty_append]

/-- However a stream is cut into pieces, the buffer keeps its beginning. -/
theorem octets_reading (pieces : List ByteArray) : (reading pieces).octets = (joined pieces).extract 0 limit := by
  have run (b : OutputBuffer) (whole : ByteArray) (kept : b.octets = whole.extract 0 limit) :
      (pieces.foldl append b).octets = (pieces.foldl (· ++ ·) whole).extract 0 limit := by
    induction pieces generalizing b whole with
    | nil => exact kept
    | cons piece rest ih => exact ih _ _ (octets_append kept piece)
  exact run {} .empty rfl

/-- It does not matter either whether the stream is read in one piece. -/
theorem append_joined (pieces : List ByteArray) : ({} : OutputBuffer).append (joined pieces) = reading pieces := by
  have whole := octets_reading [joined pieces]
  rw [show joined [joined pieces] = joined pieces from ByteArray.empty_append, ← octets_reading] at whole
  exact congrArg OutputBuffer.mk whole

end OutputBuffer

/-- What is kept of all that has been read of the child's output so far. -/
def Host.outputSoFar {σ : Type} (host : Host σ) (w : σ) : CapturedOutput :=
  ⟨(({} : OutputBuffer).append (host.output .stdout w)).snapshot,
    (({} : OutputBuffer).append (host.output .stderr w)).snapshot⟩

theorem Host.outputSoFar_eq {σ : Type} (host : Host σ) (w : σ) :
    host.outputSoFar w =
      ⟨Utf8.lossy ((host.output .stdout w).extract 0 OutputBuffer.limit),
        Utf8.lossy ((host.output .stderr w).extract 0 OutputBuffer.limit)⟩ := by
  simp only [outputSoFar, OutputBuffer.snapshot, OutputBuffer.octets_empty_append]

/-- What is kept of the output does not depend on how it was read. -/
theorem Host.outputSoFar_eq_reading {σ : Type} {host : Host σ} {w : σ} {pieces : Stream → List ByteArray}
    (read : ∀ stream, host.output stream w = joined (pieces stream)) :
    host.outputSoFar w =
      ⟨(OutputBuffer.reading (pieces .stdout)).snapshot, (OutputBuffer.reading (pieces .stderr)).snapshot⟩ := by
  simp only [Host.outputSoFar, read, OutputBuffer.append_joined]

/-! ### Forced kills that get through -/

namespace Host
variable {σ : Type} {host : Host σ} {w w' w'' : σ}

/-- The child has been found alive by some polls, perhaps none, between `w` and `w'`. -/
inductive FoundAlive (host : Host σ) (w : σ) : σ → Prop
  | refl : FoundAlive host w w
  | poll {w' w'' : σ} (before : FoundAlive host w w') (alive : host.poll w' = (.ok none, w'')) :
    FoundAlive host w w''

theorem FoundAlive.of_poll (alive : host.poll w = (.ok none, w')) (rest : host.FoundAlive w' w'') :
    host.FoundAlive w w'' := by
  induction rest with
  | refl => exact .poll .refl alive
  | poll _ alive ih => exact .poll ih alive

/-- However long the child is found alive from `w` on, polls are answered, and a forced kill is not refused and
lets the child be reaped. -/
structure AcceptsKill (host : Host σ) (w : σ) : Prop where
  answered : ∀ w', host.FoundAlive w w' → ∃ exit, (host.poll w').1 = .ok exit
  granted : ∀ w', host.FoundAlive w w' → ∀ reason, (host.forceKill w').1 ≠ .refused reason
  reaped : ∀ w', host.FoundAlive w w' → ∃ e, (host.reap (host.forceKill w').2).1 = .ok e

namespace AcceptsKill

theorem of_poll (accepts : host.AcceptsKill w) (alive : host.poll w = (.ok none, w')) : host.AcceptsKill w' where
  answered w'' rest := accepts.answered w'' (.of_poll alive rest)
  granted w'' rest := accepts.granted w'' (.of_poll alive rest)
  reaped w'' rest := accepts.reaped w'' (.of_poll alive rest)

theorem poll_ne_error (accepts : host.AcceptsKill w) {reason : OsError} :
    host.poll w ≠ (.error reason, w') := by
  intro failed
  obtain ⟨exit, answer⟩ := accepts.answered w .refl
  rw [failed] at answer
  cases answer

end AcceptsKill

end Host

namespace Handle
variable {σ : Type} {host : Host σ} {h : Handle σ}

/-- The first drain hands over all that has been read by then. -/
theorem drain_of_untaken (untaken : h.takenOut = 0 ∧ h.takenErr = 0) :
    (h.drain host).1 = host.outputSoFar (h.drain host).2.world := by
  unfold drain snapshot captured taken Host.outputSoFar
  simp only [untaken.1, untaken.2, ByteArray.extract_zero_size]

/-- If the child has ended, that is all that it has written. -/
theorem drain_of_ended {truth : host.Truth} {e : Exit} (untaken : h.takenOut = 0 ∧ h.takenErr = 0)
    (ended : truth.ended h.world = some e) :
    truth.ended (h.drain host).2.world = some e ∧ (h.drain host).1 = truth.kept (h.drain host).2.world := by
  obtain ⟨still, read⟩ := truth.settled h.world e ended
  have all (stream : Stream) : host.output stream (h.drain host).2.world = truth.wrote (h.drain host).2.world stream :=
    read stream
  refine ⟨still, ?_⟩
  rw [drain_of_untaken untaken, Host.outputSoFar_eq, all, all]
  rfl

/-- A drain leaves nothing to hand over. -/
theorem captured_drain (stream : Stream) : ((h.drain host).2.captured host stream).octets = .empty := by
  have all : (h.drain host).2.taken stream = (host.output stream (h.drain host).2.world).size := by
    cases stream <;> rfl
  simp only [captured, all, ByteArray.extract_same]
  rfl

theorem kill_succeeds (accepts : host.AcceptsKill h.world) :
    wp (kill host) (fun _ _ => True) (fun _ _ => False) h := by
  refine wp_kill (fun _ _ => trivial) (fun _ _ _ _ => trivial) ?_ ?_ (fun _ _ _ _ _ _ _ _ _ => trivial) ?_
  · intro _ reason w failed
    exact accepts.poll_ne_error failed
  · intro _ w reason w' alive refused
    refine (accepts.of_poll alive).granted w .refl reason ?_
    rw [refused]
  · intro _ w answer w' reason w'' alive killed lost
    obtain ⟨e, reaped⟩ := (accepts.of_poll alive).reaped w .refl
    rw [killed, lost] at reaped
    cases reaped

end Handle

theorem state_of_map {τ α β : Type} (f : α → β) (x : ExceptT Failure (StateM τ) α) {s : τ} :
    ((f <$> x).run.run s).2 = (x.run.run s).2 := by
  rw [map_eq_pure_bind, run_bind]
  rcases x.run.run s with ⟨e | a, t⟩ <;> rfl

namespace Supervised
variable {σ α : Type} {host : Host σ} {p q : Supervised σ}

/-! ### Ends -/

theorem awaitTermination_ends (p : Supervised σ) :
    wp (awaitTermination host) (fun _ q => q.state.isTerminal) (fun _ _ => True) p := by
  cases live : p.state.isTerminal with
  | true => rw [wp_awaitTermination_of_isTerminal live]; trivial
  | false =>
    rw [wp_awaitTermination live]
    refine wp_of_forall (fun _ _ => rfl) fun failure h => ?_
    split
    · exact wp_of_forall (fun _ _ => rfl) fun _ _ => trivial
    · trivial

/-- A poll that finds an exit ends the process. -/
theorem poll_ends (p : Supervised σ) :
    wp (poll host) (fun r q => r.isSome → q.state.isTerminal) (fun _ _ => True) p := by
  rw [wp_poll]
  refine wp_of_forall (fun r h ended => ?_) fun _ _ => trivial
  cases r with
  | none => cases ended
  | some e =>
    cases live : p.state.isTerminal with
    | true => simp [Lifecycle.raise_of_isTerminal live, live]
    | false => simp [Lifecycle.raise_terminated live, Lifecycle.isTerminal]

theorem terminate_ends (signal : TermSignal) (p : Supervised σ) :
    wp (terminate host signal) (fun _ q => q.state.isTerminal) (fun _ _ => True) p := by
  cases live : p.state.isTerminal with
  | true => rw [wp_terminate_of_isTerminal live]; trivial
  | false =>
    rw [wp_terminate live]
    refine wp_mono (poll_ends p) (fun r q ended => ?_) fun _ _ _ => trivial
    cases r with
    | some code => exact ended rfl
    | none =>
      exact wp_mono (wp_of_forall (fun _ _ => trivial) fun _ _ => trivial)
        (fun _ q' _ => awaitTermination_ends q') fun _ _ _ => trivial

/-- A kill that gets through ends the process. -/
theorem kill_ends (accepts : host.AcceptsKill p.handle.world) :
    wp (kill host) (fun _ q => q.state.isTerminal) (fun _ _ => False) p := by
  cases live : p.state.isTerminal with
  | true => rw [wp_kill_of_isTerminal live]; exact live
  | false =>
    have terminated : (p.state.raise .terminated).isTerminal := by rw [Lifecycle.raise_terminated live]; rfl
    have killed : (p.state.raise .killed).isTerminal := by
      rw [Lifecycle.raise, if_pos (Lifecycle.canBecome_killed live)]
      rfl
    rw [wp_kill live, wp_poll]
    refine Handle.wp_poll (fun _ _ => terminated) (fun _ _ _ _ => terminated) ?_ ?_
    · intro _ w alive
      refine wp_mono (Handle.kill_succeeds (accepts.of_poll alive)) (fun e h _ => ?_) fun _ _ failed => failed
      show (p.state.raise (if e.code?.isSome then .terminated else .killed)).isTerminal
      split <;> assumption
    · intro _ reason w failed
      exact accepts.poll_ne_error failed

/-- A wait that runs out ends in a kill, if one gets through. -/
theorem awaitTermination_of_expired {w : σ} (live : p.state.isTerminal = false) (unknown : p.handle.exit = none)
    (expired : host.await p.budget.total p.handle.world = (.ok none, w)) (accepts : host.AcceptsKill w) :
    wp (awaitTermination host)
      (fun outcome q => outcome = .killed (.between (host.clock p.handle.world) (host.clock q.handle.world)) ∧
        q.state = .killed ∧ q.handle.exit.isSome)
      (fun _ _ => False) p := by
  rw [wp_awaitTermination live]
  refine Handle.wp_waitFor ?_ ?_ ?_ ?_
  · intro e known
    rw [unknown] at known
    cases known
  · intro _ e' w' heard
    rw [expired] at heard
    cases heard
  · intro _ w' text heard
    rw [expired] at heard
    cases heard
    refine wp_mono (wp_and (Handle.kill_succeeds accepts) Handle.kill_recalls) ?_ fun _ _ h => h.1
    rintro e h ⟨-, -, exit⟩
    exact ⟨rfl, rfl, by rw [exit]; rfl⟩
  · intro _ reason w' failed
    rw [expired] at failed
    cases failed

theorem step_terminate (host : Host σ) (p : Supervised σ) (signal : TermSignal) :
    step host p (.operation (.terminate signal)) = ((terminate host signal).run.run p).2 :=
  state_of_map _ _

theorem step_kill (host : Host σ) (p : Supervised σ) :
    step host p (.operation .kill) = ((kill host).run.run p).2 :=
  state_of_map _ _

/-- To stop a process is to terminate it and, if that fails, to kill it. -/
theorem exists_after_eq_stopped (host : Host σ) (p : Supervised σ) :
    ∃ events, stopped host p = after host p events := by
  have terminated := step_terminate host p shutdownSignal
  unfold stopped
  split
  · exact ⟨[], rfl⟩
  · rcases ran : (terminate host shutdownSignal).run.run p with ⟨failure | outcome, q⟩ <;> rw [ran] at terminated
    · refine ⟨[.operation (.terminate shutdownSignal), .operation .kill], ?_⟩
      show _ = step host (step host p (.operation (.terminate shutdownSignal))) (.operation .kill)
      rw [terminated, step_kill]
    · exact ⟨[.operation (.terminate shutdownSignal)], terminated.symm⟩

/-- A stop ends the process, if a forced kill gets through once the orderly termination has failed. -/
theorem stopped_ends (fallback : ∀ failure q, (terminate host shutdownSignal).run.run p = (.error failure, q) →
    host.AcceptsKill q.handle.world) : (stopped host p).state.isTerminal := by
  unfold stopped
  split
  · assumption
  · rcases ran : (terminate host shutdownSignal).run.run p with ⟨failure | outcome, q⟩
    · have accepts := fallback failure q ran
      obtain ⟨⟨⟩, killed⟩ := succeeds_of_wp (kill_ends accepts)
      exact ok_of_wp (kill_ends accepts) killed
    · have ended := ok_of_wp (terminate_ends shutdownSignal p) (by rw [ran])
      rwa [ran] at ended

/-- No output has been handed over when a process is launched. -/
theorem untaken_of_launch {store : CredentialStore} {config : ProcessConfig} {run : Bool} {world : σ}
    (launched : launch host store config run world = .ok p) : p.handle.takenOut = 0 ∧ p.handle.takenErr = 0 := by
  obtain ⟨program, args, pid, w, -, -, rfl⟩ := eq_of_launch launched
  exact ⟨rfl, rfl⟩

theorem shutdown_ends (accounted : p.Accounted)
    (fallback : ∀ failure q, (terminate host shutdownSignal).run.run p = (.error failure, q) →
      host.AcceptsKill q.handle.world) :
    ((shutdown host).run p).2.state.isTerminal ∧ ∃ e, ((shutdown host).run p).2.handle.exit = some e := by
  have terminal : (stopped host p).state.isTerminal := stopped_ends fallback
  have known : (stopped host p).handle.exit.isSome := by
    obtain ⟨stopping, stops⟩ := exists_after_eq_stopped host p
    rw [stops] at terminal ⊢
    exact (moves_after host p stopping).accounted accounted terminal
  rw [run_shutdown]
  exact ⟨terminal, Option.isSome_iff_exists.1 known⟩

theorem untaken_stopped (host : Host σ) (untaken : p.handle.takenOut = 0 ∧ p.handle.takenErr = 0) :
    (stopped host p).handle.takenOut = 0 ∧ (stopped host p).handle.takenErr = 0 := by
  have kept : p.Keeps (stopped host p) := (invariant_keeps host p).stopped (.refl p)
  rw [kept.handle.taken.1, kept.handle.taken.2]
  exact untaken

theorem output_shutdown (untaken : p.handle.takenOut = 0 ∧ p.handle.takenErr = 0) :
    ((shutdown host).run p).1 = host.outputSoFar ((shutdown host).run p).2.handle.world := by
  rw [run_shutdown]
  exact Handle.drain_of_untaken (untaken_stopped host untaken)

/-- A shutdown that has heard of the exit hands over all that the child has written. -/
theorem output_shutdown_of_exit {truth : host.Truth} {e : Exit} (holds : truth.Holds p.handle)
    (untaken : p.handle.takenOut = 0 ∧ p.handle.takenErr = 0)
    (known : ((shutdown host).run p).2.handle.exit = some e) :
    truth.ended ((shutdown host).run p).2.handle.world = some e ∧
      ((shutdown host).run p).1 = truth.kept ((shutdown host).run p).2.handle.world := by
  rw [run_shutdown] at known ⊢
  have still : truth.Holds (stopped host p).handle := truth.invariant.stopped holds
  exact Handle.drain_of_ended (untaken_stopped host untaken) (still e known)

/-- To give a process up is to make no call, as its exit is known, or to send it a forced kill. -/
theorem calls_abandon (host : Host σ) {p : Supervised (Recorded σ)} (accounted : p.Accounted) :
    p.handle.exit.isSome ∧ abandon host.recorded p = p.handle.world ∨
      (abandon host.recorded p).calls = p.calls ++ [.forceKill (host.forceKill p.handle.world.world).1] := by
  unfold abandon
  split
  · rename_i ended
    exact .inl ⟨accounted ended, rfl⟩
  · unfold Handle.abandon
    cases p.handle.exit with
    | some e => exact .inl ⟨rfl, rfl⟩
    | none => exact .inr rfl

/-- Whatever has been done to a launched process and whatever has become of the child, a shutdown ends the process
and has heard of its exit, if a forced kill gets through once the orderly termination has failed. Then the child has
ended, and the shutdown hands over the beginning of all that it has written, unless something has undone an end
meanwhile. In any case that is the beginning of what has been read, in whatever pieces. A process that is given up
instead has ended or is sent a forced kill. -/
theorem no_process_outlives_its_owner {store : CredentialStore} {config : ProcessConfig} {run : Bool}
    {world : σ} {p₀ : Supervised σ} (launched : launch host store config run world = .ok p₀)
    (past : List (Event σ)) :
    let p := after host p₀ past
    let r := after host.recorded p₀.recording (past.map .recorded)
    let ended := ((shutdown host).run p).2
    let endedOnRecord := ((shutdown host.recorded).run r).2
    r.plain = p ∧ endedOnRecord.plain = ended ∧
      ((∀ failure q, (terminate host shutdownSignal).run.run p = (.error failure, q) →
          host.AcceptsKill q.handle.world) →
        ended.state.isTerminal ∧ ∃ e, ended.handle.exit = some e ∧
          endedOnRecord.calls.findSome? Call.exit? = some e ∧
          ∀ truth : host.Truth, (∀ f, Event.meanwhile f ∈ past → truth.Lasts f) →
            truth.ended ended.handle.world = some e ∧
              ((shutdown host).run p).1 =
                ⟨Utf8.lossy ((truth.wrote ended.handle.world .stdout).extract 0 OutputBuffer.limit),
                  Utf8.lossy ((truth.wrote ended.handle.world .stderr).extract 0 OutputBuffer.limit)⟩) ∧
      (∀ pieces : Stream → List ByteArray,
        (∀ stream, host.output stream ended.handle.world = joined (pieces stream)) →
          ((shutdown host).run p).1 =
              ⟨(OutputBuffer.reading (pieces .stdout)).snapshot, (OutputBuffer.reading (pieces .stderr)).snapshot⟩ ∧
            ((shutdown host).run p).1 =
              ⟨Utf8.lossy ((joined (pieces .stdout)).extract 0 OutputBuffer.limit),
                Utf8.lossy ((joined (pieces .stderr)).extract 0 OutputBuffer.limit)⟩) ∧
      (host.AcceptsKill p.handle.world →
        p.handle.exit.isSome ∧ abandon host.recorded r = r.handle.world ∨
          ∃ answer, (∀ reason, answer ≠ .refused reason) ∧
            (abandon host.recorded r).calls = r.calls ++ [.forceKill answer]) := by
  intro p r ended endedOnRecord
  have plain : r.plain = p := plain_after host p₀.recording past
  have exit : r.handle.exit = p.handle.exit := by rw [← plain]; rfl
  have plainEnded : endedOnRecord.plain = ended := by
    have shown := shutdown_seen host.recorded_shows r
    rw [← plain_eq_seen, plain, ← plain_eq_seen] at shown
    exact (congrArg Prod.snd shown).symm
  have accounted : p.Accounted := (moves_after host p₀ past).accounted (accounted_of_launch launched)
  have untaken : p.handle.takenOut = 0 ∧ p.handle.takenErr = 0 := by
    have kept : p₀.Keeps p := keeps_after p₀ past
    rw [kept.handle.taken.1, kept.handle.taken.2]
    exact untaken_of_launch launched
  refine ⟨plain, plainEnded, fun fallback => ?_, fun pieces read => ?_, fun accepts => ?_⟩
  · obtain ⟨terminal, e, known⟩ := shutdown_ends accounted fallback
    have heard : endedOnRecord.IsHeard := heard_shutdown (heard_of_launch launched past)
    have known' : endedOnRecord.handle.exit = some e := by
      rw [← known, ← show _ = ((shutdown host).run p).2 from plainEnded]
      rfl
    refine ⟨terminal, e, known, by rw [heard.findSome?, known'], fun truth lasting => ?_⟩
    exact output_shutdown_of_exit (truth.holds_after launched lasting) untaken known
  · rw [output_shutdown untaken, Host.outputSoFar_eq_reading read]
    simp only [OutputBuffer.snapshot, OutputBuffer.octets_reading, and_self]
  · have accounted' : r.Accounted := by
      rw [← plain] at accounted
      exact accounted
    have same : r.handle.world.world = p.handle.world := by rw [← plain]; rfl
    obtain known | killed := calls_abandon host accounted'
    · rw [← exit]
      exact .inl known
    · refine .inr ⟨_, ?_, killed⟩
      rw [same]
      exact accepts.granted p.handle.world .refl

end Supervised

namespace Stage
variable {s : Stage}

/-- A host that polls, kills and reaps as a stage does refuses no kill. -/
theorem acceptsKill {full : Host Stage} (poll : full.poll = host.poll) (forceKill : full.forceKill = host.forceKill)
    (reap : full.reap = host.reap) : full.AcceptsKill s where
  answered w _ := by
    rw [poll]
    exact ⟨w.ended, rfl⟩
  granted w _ reason := by
    rw [forceKill]
    exact nofun
  reaped w _ := by
    rw [forceKill, reap]
    exact ⟨w.forceKill.reap.1, rfl⟩

/-- A stage on which no signal can be sent but the one that no process survives, and nothing is read of what the
child writes until a moment has passed while it settles. -/
def unsignalled : Host Stage :=
  { host with
    signal := fun _ s => (.error .permissionDenied, s)
    settle := fun s => { s with clock := s.clock + 1 }
    output := fun stream s => if s.clock = 0 then .empty else output stream s }

/-- The same is true of its child as of that of any stage. -/
def truthOfUnsignalled : unsignalled.Truth where
  ended := ended
  wrote := truth.wrote
  polled := truth.polled
  awaited := truth.awaited
  reaped := truth.reaped
  settled s e ended := by
    obtain ⟨time, past, ending⟩ := exists_ending ended
    refine ⟨ended_of_ending ending (Nat.le_succ_of_le past), fun stream => ?_⟩
    show (if s.clock + 1 = 0 then ByteArray.empty else _) = _
    exact if_neg (Nat.succ_ne_zero s.clock)

/-- A child that writes a word and goes on until a signal ends it. -/
def greeting : Script := { stdout := "up".toUTF8 }

/-- A stage where every command line starts that child. -/
def greeted : Stage := { cast := fun _ => .ok greeting }

end Stage

namespace Supervised

/-- A child that no signal can be sent to is killed in the end, and what it wrote is read and handed over. -/
theorem unsignalled_child_does_not_outlive_its_owner : ∃ p₀ : Supervised Stage,
    launch Stage.unsignalled {} { binary := [97] } true Stage.greeted = .ok p₀ ∧
      let p := after Stage.unsignalled p₀ [.operation (.sendSignal .interrupt)]
      p.state = .signalSent ∧ p.handle.snapshot Stage.unsignalled .stdout = "" ∧
        ((terminate Stage.unsignalled shutdownSignal).run.run p).1 = .error (.io .permissionDenied) ∧
        ((shutdown Stage.unsignalled).run p).2.state.isTerminal ∧
        ((shutdown Stage.unsignalled).run p).2.handle.exit.isSome ∧
        ((shutdown Stage.unsignalled).run p).1 = ⟨"up", ""⟩ := by
  obtain ⟨p₀, launched, state, unread, refused, wrote⟩ : ∃ p₀ : Supervised Stage,
      launch Stage.unsignalled {} { binary := [97] } true Stage.greeted = .ok p₀ ∧
        let p := after Stage.unsignalled p₀ [.operation (.sendSignal .interrupt)]
        p.state = .signalSent ∧ p.handle.snapshot Stage.unsignalled .stdout = "" ∧
          ((terminate Stage.unsignalled shutdownSignal).run.run p).1 = .error (.io .permissionDenied) ∧
          ∀ stream, Stage.truthOfUnsignalled.wrote ((shutdown Stage.unsignalled).run p).2.handle.world stream =
            if stream = .stdout then "up".toUTF8 else .empty :=
    ⟨_, rfl, rfl, rfl, rfl, fun stream => by cases stream <;> rfl⟩
  obtain ⟨-, -, ends, -, -⟩ := no_process_outlives_its_owner launched [.operation (.sendSignal .interrupt)]
  obtain ⟨terminal, e, known, -, output⟩ := ends fun _ q _ => Stage.acceptsKill rfl rfl rfl
  obtain ⟨-, output⟩ := output Stage.truthOfUnsignalled (by simp)
  refine ⟨p₀, launched, state, unread, refused, terminal, by rw [known]; rfl, ?_⟩
  rw [output, wrote, wrote]
  rfl

end Supervised

end GracefulDrain
