import GracefulDrain.Proofs.Drain.Course
import GracefulDrain.Proofs.Drain.Invariant
import GracefulDrain.Proofs.Process.Shutdown
import GracefulDrain.Rehearsal.World

/-! # Order and cleanup

A verification keeps the order of its course, and however it ends, the connector that it has launched has ended too
and all that it has written has been handed over (`DrainVerifier.conduct_ends`), if a forced kill gets through where
the connector cannot be stopped otherwise. -/

namespace GracefulDrain

namespace DrainVerifier
variable {v : DrainVerifier} {scenario : Scenario} {signal : TermSignal} {watch : Option Watch}

theorem Joined.isSignal {cs : List Contact} (h : Joined watch cs) : ∀ c ∈ cs, c.isSignal = false := by
  cases watch with
  | some watch =>
    obtain ⟨length, rfl⟩ := h
    simp [Contact.isSignal]
  | none =>
    rw [show cs = [] from h]
    exact List.forall_mem_nil _

theorem Aftermath.isSignal {answer : Except OsError Unit} {result : Except Failure DrainReport}
    {cs : List Contact} (h : v.Aftermath watch answer result cs) : ∀ c ∈ cs, c.isSignal = false := by
  cases h with
  | undelivered => nofun
  | stillReady checked ready => exact fun c mem => Contact.isSignal_of_isProbing (ready c mem)
  | unended unready waited => exact List.forall_mem_append.2 ⟨unready.isSignal, waited.isSignal⟩
  | ended unready waited heard joined =>
    have afterwards := List.forall_mem_append.2 ⟨waited.isSignal, joined.isSignal⟩
    exact List.forall_mem_append.2 ⟨unready.isSignal, afterwards⟩

/-- A scenario sends its signal at most once. -/
theorem Course.signals_le_one {result : Except Failure DrainReport} {cs : List Contact}
    (h : v.Course scenario signal result cs) : (cs.filter Contact.isSignal).length ≤ 1 := by
  have none {cs : List Contact} (quiet : ∀ c ∈ cs, c.isSignal = false) : cs.filter Contact.isSignal = [] :=
    List.filter_eq_nil_iff.2 fun c mem => by simp [quiet c mem]
  cases h with
  | unsignalled quiet =>
    rw [none quiet]
    exact Nat.zero_le _
  | signalled ready opened polls aftermath =>
    rw [List.filter_append, List.filter_append, List.filter_append, none ready.isSignal, none opened.isSignal,
      none fun c mem => Contact.isSignal_of_isPoll (polls c mem), List.filter_cons_of_pos rfl,
      none aftermath.isSignal]
    exact Nat.le_refl _

end DrainVerifier

/-- The contact has let the child be killed, or found that it had ended. -/
def Contact.isKill : Contact → Bool
  | .child (.forceKill .sent) | .child (.forceKill .gone) => true
  | _ => false

theorem Contact.isKill_forceKill {answer : KillAnswer} (granted : ∀ reason, answer ≠ .refused reason) :
    (Contact.child (.forceKill answer)).isKill := by
  cases answer with
  | sent => rfl
  | gone => rfl
  | refused reason => exact absurd rfl (granted reason)

namespace Handle

/-- Who gives a handle up kills the child, unless its exit is known. -/
theorem trace_abandon {ω : Type} (world : World ω) (h : Handle (Traced ω)) :
    ∃ dropping, (h.abandon world.traced.toHost).trace = h.world.trace ++ dropping ∧
      (h.exit.isSome ∧ dropping = [] ∨
        h.exit = none ∧ dropping = [.child (.forceKill (world.forceKill h.world.world).1)]) := by
  unfold abandon
  cases h.exit with
  | some e => exact ⟨[], (List.append_nil _).symm, .inl ⟨rfl, rfl⟩⟩
  | none => exact ⟨_, rfl, .inr ⟨rfl, rfl⟩⟩

/-- A drain waits for the output, and tells nothing of an exit. -/
theorem drain_adds {ω : Type} (world : World ω) (h : Handle (Traced ω)) :
    h.Adds (h.drain world.traced.toHost).2 [.settle] :=
  ⟨rfl, fun _ known => .inl known⟩

end Handle

namespace Supervised
variable {ω : Type} {world : World ω} {p₀ : Supervised ω}

/-- The process with a trace that is still empty. -/
def tracing (p : Supervised ω) : Supervised (Traced ω) :=
  { p with handle := { p.handle with world := { world := p.handle.world } } }

theorem launch_tracing {store : CredentialStore} {config : ProcessConfig} {run : Bool} {w : ω}
    (launched : launch world.toHost store config run w = .ok p₀) :
    launch world.traced.toHost store config run { world := w } = .ok p₀.tracing := by
  obtain ⟨program, args, pid, w', words, spawned, rfl⟩ := eq_of_launch launched
  have spawned' : world.traced.spawn (program :: args) { world := w } = (.ok pid, { world := w' }) := by
    show ((world.spawn (program :: args) w).1, _) = _
    rw [spawned]
  unfold launch
  rw [words]
  unfold Handle.start
  simp only [spawned']
  rfl

end Supervised

namespace DrainVerifier
open Supervised
variable {ω : Type}

/-- A verification is conducted, and then its process is given up. -/
theorem verify_of_launch {v : DrainVerifier} {world : World ω} {scenario : Scenario} {signal : TermSignal} {w : ω}
    {p₀ : Supervised ω} (launched : launch world.toHost v.store v.process true w = .ok p₀) :
    v.verify world scenario signal w =
      ((v.conduct world scenario signal p₀).1.1,
        (v.conduct world scenario signal p₀).2.handle.abandon world.toHost) := by
  unfold verify
  rw [launched]

/-- To conduct a process is to take it through a course, to stop it, and to hand over its output. -/
theorem conduct_adds (v : DrainVerifier) (world : World ω) (scenario : Scenario) (signal : TermSignal)
    (p : Supervised (Traced ω)) :
    let conducted := v.conduct world.traced scenario signal p
    ∃ exercising stopping, p.handle.Adds conducted.2.handle (exercising ++ (stopping ++ [.settle])) ∧
      v.Course scenario signal conducted.1.1 exercising ∧ ∀ c ∈ stopping, c.isChild := by
  intro conducted
  rcases ran : (v.exercise world.traced scenario signal).run.run p with ⟨result, q⟩
  have exercises : ∃ contacts, p.handle.Adds ((v.exercise world.traced scenario signal).run.run p).2.handle contacts ∧
      v.Course scenario signal ((v.exercise world.traced scenario signal).run.run p).1 contacts :=
    of_wp (R := fun result (q : Supervised (Traced ω)) =>
      ∃ contacts, p.handle.Adds q.handle contacts ∧ v.Course scenario signal result contacts)
      (exercise_course v scenario signal p)
  rw [ran] at exercises
  obtain ⟨exercising, adds, course⟩ := exercises
  have handles : q.Handles (stopped world.traced.toHost q) := (invariant_handles q).stopped (.refl q)
  obtain ⟨stopping, stops, child⟩ := handles
  have run : conducted = ((result, ((stopped world.traced.toHost q).handle.drain world.traced.toHost).1),
      { stopped world.traced.toHost q with
        handle := ((stopped world.traced.toHost q).handle.drain world.traced.toHost).2 }) := by
    show v.conduct world.traced scenario signal p = _
    unfold conduct
    simp only [ran, run_shutdown]
  rw [run]
  exact ⟨exercising, stopping, adds.trans (stops.trans (Handle.drain_adds world _)), course, child⟩

theorem conduct_traced (v : DrainVerifier) (world : World ω) (scenario : Scenario) (signal : TermSignal)
    (p : Supervised ω) :
    let traced := v.conduct world.traced scenario signal p.tracing
    v.conduct world scenario signal p = (traced.1, traced.2.seen Traced.world) :=
  conduct_seen world.traced_shows v scenario signal p.tracing

section
variable {v : DrainVerifier} {world : World ω} {scenario : Scenario} {signal : TermSignal} {w : ω} {p₀ : Supervised ω}
  (launched : launch world.toHost v.store v.process true w = .ok p₀)
include launched

theorem untaken_exercise : let exercised := ((v.exercise world scenario signal).run.run p₀).2
    exercised.handle.takenOut = 0 ∧ exercised.handle.takenErr = 0 := by
  intro exercised
  have kept : p₀.Keeps exercised := (preserves_exercise (world.invariant_keeps p₀) v scenario signal).run (.refl p₀)
  rw [kept.handle.taken.1, kept.handle.taken.2]
  exact untaken_of_launch launched

/-- However a scenario ends, the shutdown that follows it ends the process, if a forced kill gets through once the
orderly termination has failed. Then it hands over all that the child has written. -/
theorem conduct_ends (fallback : ∀ failure q, (terminate world.toHost shutdownSignal).run.run
      ((v.exercise world scenario signal).run.run p₀).2 = (.error failure, q) → world.AcceptsKill q.handle.world) :
    let conducted := v.conduct world scenario signal p₀
    conducted.2.state.isTerminal ∧ ∃ e, conducted.2.handle.exit = some e ∧
      ∀ truth : world.Truth, truth.ended conducted.2.handle.world = some e ∧
        conducted.1.2 = truth.kept conducted.2.handle.world := by
  have accounted := (preserves_exercise world.invariant_accounted v scenario signal).run (accounted_of_launch launched)
  obtain ⟨terminal, e, known⟩ := shutdown_ends accounted fallback
  refine ⟨terminal, e, known, fun truth => ?_⟩
  have unknown : truth.Holds p₀.handle := Host.Truth.holds_of_unknown (fresh_of_launch launched).2
  have holds := (preserves_exercise truth.invariant v scenario signal).run unknown
  exact output_shutdown_of_exit holds (untaken_exercise launched) known

/-- In any case it hands over all that has been read, and nothing is left to hand over. -/
theorem output_conduct :
    let conducted := v.conduct world scenario signal p₀
    conducted.1.2 = world.outputSoFar conducted.2.handle.world ∧
      ∀ stream, (conducted.2.handle.captured world.toHost stream).octets = .empty := by
  refine ⟨output_shutdown (untaken_exercise launched), fun stream => ?_⟩
  unfold conduct
  simp only [run_shutdown]
  exact Handle.captured_drain stream

/-- A verification does the same in the world that keeps a trace. -/
theorem verify_traced :
    let verified := v.verify world.traced scenario signal { world := w }
    v.verify world scenario signal w = (verified.1, verified.2.world) := by
  intro verified
  have verifies : verified = _ := verify_of_launch (launch_tracing launched)
  rw [verify_of_launch launched, conduct_traced, verifies]
  exact Prod.ext rfl (Handle.abandon_seen world.traced_shows.host _)

/-- The trace of a verification: the course, the stop, the wait for the output, and what it takes to give the
process up. The exit that is known by then has been reported before the wait. -/
theorem trace_verify :
    let verified := v.verify world.traced scenario signal { world := w }
    let conducted := v.conduct world scenario signal p₀
    ∃ exercising stopping dropping,
      verified.2.trace = exercising ++ (stopping ++ .settle :: dropping) ∧
      v.Course scenario signal verified.1 exercising ∧ (∀ c ∈ stopping, c.isChild) ∧
      (∀ e, conducted.2.handle.exit = some e → ∃ c ∈ exercising ++ stopping, c.exit? = some e) ∧
      (conducted.2.handle.exit.isSome ∧ dropping = [] ∨
        conducted.2.handle.exit = none ∧
          dropping = [.child (.forceKill (world.forceKill conducted.2.handle.world).1)]) := by
  intro verified conducted
  let traced := v.conduct world.traced scenario signal p₀.tracing
  have verifies : verified = (traced.1.1, traced.2.handle.abandon world.traced.toHost) :=
    verify_of_launch (launch_tracing launched)
  have shown : conducted = (traced.1, traced.2.seen Traced.world) := conduct_traced v world scenario signal p₀
  obtain ⟨exercising, stopping, adds, course, child⟩ := conduct_adds v world scenario signal p₀.tracing
  obtain ⟨dropping, trace, dropped⟩ := Handle.trace_abandon world traced.2.handle
  rw [verifies, shown]
  refine ⟨exercising, stopping, dropping, ?_, course, child, fun e known => ?_, dropped⟩
  · rw [trace, adds.trace]
    show ([] ++ (exercising ++ (stopping ++ [.settle]))) ++ dropping = _
    simp only [List.nil_append, List.append_assoc, List.cons_append]
  · obtain unheard | ⟨c, mem, reports⟩ := adds.exit e known
    · cases unheard.symm.trans (fresh_of_launch launched).2
    · rw [← List.append_assoc] at mem
      obtain mem | mem := List.mem_append.1 mem
      · exact ⟨c, mem, reports⟩
      · rw [List.mem_singleton.1 mem] at reports
        cases reports

/-- The world that a verification leaves is that of the shutdown, if that has heard of the exit. -/
theorem world_verify_of_exit {e : Exit} (known : (v.conduct world scenario signal p₀).2.handle.exit = some e) :
    (v.verify world scenario signal w).2 = (v.conduct world scenario signal p₀).2.handle.world := by
  rw [verify_of_launch launched, Handle.abandon, known]

end

/-- Every verification whose connector could be launched keeps the order of its course. In particular it sends its
signal at most once, and only after the connector has been found ready and the eyeball has had its connection.
However it ends, the shutdown ends the connector, if a forced kill gets through once the orderly termination has
failed: its exit has been reported before its output is collected, that output is the beginning of all that it has
written, and nothing is left to be killed. Even where the host does not say whether the connector lives, it has been
heard to end or has been killed at last, unless the host refuses to, and all that has been read of its output has
been handed over. -/
theorem verify_keeps_order_and_cleans_up (v : DrainVerifier) (world : World ω) (scenario : Scenario)
    (signal : TermSignal) (w : ω) {p₀ : Supervised ω}
    (launched : launch world.toHost v.store v.process true w = .ok p₀) :
    let verified := v.verify world.traced scenario signal { world := w }
    let exercised := ((v.exercise world scenario signal).run.run p₀).2
    let conducted := v.conduct world scenario signal p₀
    v.verify world scenario signal w = (verified.1, verified.2.world) ∧
      ∃ exercising stopping dropping,
        verified.2.trace = exercising ++ (stopping ++ .settle :: dropping) ∧
        v.Course scenario signal verified.1 exercising ∧
        (exercising.filter Contact.isSignal).length ≤ 1 ∧
        (∀ c ∈ stopping ++ dropping, c.isChild) ∧
        ((∀ failure q, (terminate world.toHost shutdownSignal).run.run exercised = (.error failure, q) →
            world.AcceptsKill q.handle.world) →
          conducted.2.state.isTerminal ∧ dropping = [] ∧ ∃ e, conducted.2.handle.exit = some e ∧
            (∃ c ∈ exercising ++ stopping, c.exit? = some e) ∧
            ∀ truth : world.Truth, truth.ended verified.2.world = some e ∧
              conducted.1.2 =
                ⟨Utf8.lossy ((truth.wrote verified.2.world .stdout).extract 0 OutputBuffer.limit),
                  Utf8.lossy ((truth.wrote verified.2.world .stderr).extract 0 OutputBuffer.limit)⟩) ∧
        ((∀ w reason, (world.forceKill w).1 ≠ .refused reason) →
          ∃ c ∈ verified.2.trace, c.exit?.isSome ∨ c.isKill) ∧
        conducted.1.2 = world.outputSoFar conducted.2.handle.world ∧
        ∀ stream, (conducted.2.handle.captured world.toHost stream).octets = .empty := by
  intro verified exercised conducted
  obtain ⟨exercising, stopping, dropping, trace, course, child, reported, dropped⟩ := trace_verify launched
  refine ⟨verify_traced launched, exercising, stopping, dropping, trace, course, course.signals_le_one, ?_,
    fun fallback => ?_, fun accepts => ?_, output_conduct launched⟩
  · refine List.forall_mem_append.2 ⟨child, ?_⟩
    obtain ⟨-, rfl⟩ | ⟨-, rfl⟩ := dropped
    · nofun
    · exact List.forall_mem_singleton.2 rfl
  · obtain ⟨terminal, e, known, output⟩ := conduct_ends launched fallback
    have left : verified.2.world = conducted.2.handle.world :=
      (congrArg Prod.snd (verify_traced launched)).symm.trans (world_verify_of_exit launched known)
    refine ⟨terminal, ?_, e, known, reported e known, fun truth => ?_⟩
    · obtain ⟨-, rfl⟩ | ⟨unknown, -⟩ := dropped
      · rfl
      · cases unknown.symm.trans known
    · rw [left]
      exact output truth
  · rw [trace, ← List.append_assoc]
    obtain ⟨known, -⟩ | ⟨-, rfl⟩ := dropped
    · obtain ⟨e, heard⟩ := Option.isSome_iff_exists.1 known
      obtain ⟨c, mem, reports⟩ := reported e heard
      exact ⟨c, List.mem_append_left _ mem, .inl (by rw [reports]; rfl)⟩
    · let kill : Contact := .child (.forceKill (world.forceKill conducted.2.handle.world).1)
      have last : kill ∈ [.settle, kill] := List.mem_cons_of_mem _ (List.mem_singleton_self kill)
      exact ⟨kill, List.mem_append_right _ last, .inr (Contact.isKill_forceKill (accepts _))⟩

end DrainVerifier

/-! ### A connector that serves until it has a signal -/

/-- A drain that takes no time at all passes where no connection is expected to be in flight. -/
theorem DrainReport.verdict_of_immediate {r : DrainReport} {strictIdle : Bool} {grace : Duration}
    (inFlight : r.observation.connectionInFlight = false) (window : r.window = .of false grace)
    (immediate : r.observation.elapsed = .zero) : r.verdict strictIdle grace = .ok () := by
  have within : (DrainWindow.of false grace).check .zero = .ok () := by
    simp [DrainWindow.check, DrainWindow.contains, DrainWindow.of, Duration.secs, Duration.zero]
  have short : Duration.zero.isImmediate := by decide
  simp [DrainReport.verdict, inFlight, window, immediate, within, short]

/-- A stage on which the connector is ready until it has a signal, and streams nothing. -/
def Stage.serving : World Stage :=
  { Stage.world with
    probe := fun _ s => (s.player.ending.elim (some ⟨200, some []⟩) fun _ => none, s)
    request := fun _ s => (.answered 0 200 [] (.over 0 false), s)
    le_clock_probe := fun _ _ => Nat.le_refl _ }

namespace DrainVerifier
open Supervised

/-- A verifier of connectors that a signal ends at once. -/
def sample : DrainVerifier := ⟨{}, { binary := [97] }, .of "http://a" "http://a"⟩

/-- The connector on a stage, with what is known of it. -/
def sampleProcess (state : Lifecycle) (exit : Option Exit) (s : Stage) : Supervised Stage :=
  { handle := { program := "a", pid := Stage.pid, exit, world := s }
    state, argv := ["a", "tunnel", "run"], budget := {} }

theorem launch_sample :
    launch Stage.serving.toHost sample.store sample.process true Stage.greeted =
      .ok (sampleProcess .running none (Stage.greeted.play Stage.greeting)) :=
  rfl

/-- Asked to stop while an eyeball has a connection, the connector ends, and there is a report. -/
theorem exercise_sample : wp (sample.exercise Stage.serving (.earlyDisconnect 2) .interrupt)
    (fun _ q => q = sampleProcess .terminated (some (.signal 2))
      ((Stage.greeted.play Stage.greeting).receive .interrupt))
    (fun _ _ => False) (sampleProcess .running none (Stage.greeted.play Stage.greeting)) := by
  let running := sampleProcess .running none (Stage.greeted.play Stage.greeting)
  let signalled := (Stage.greeted.play Stage.greeting).receive .interrupt
  let terminated := sampleProcess .terminated (some (.signal 2)) signalled
  let watch := (sample.eyeball (.earlyDisconnect 2)).watch 0 (.answered 0 200 [] (.over 0 false))
  have ready : (awaitReady Stage.serving sample.probeUrl sample.settings.readinessTimeout).run.run running =
      (.ok (), running) := run_awaitReady_of_isReady rfl
  have opened : (sample.openStream Stage.serving (.earlyDisconnect 2)).run.run running =
      (.ok (some watch), running) := rfl
  have sent : (sendSignal Stage.serving.toHost .interrupt).run.run running =
      (.ok (), sampleProcess .draining none signalled) := rfl
  have unready : Stage.serving.awaitNotReady sample.probeUrl notReadyTimeout signalled = (true, signalled) :=
    World.awaitNotReady_of_not_isReady rfl
  have ended : (awaitTermination Stage.serving.toHost).run.run (sampleProcess .draining none signalled) =
      (.ok (.exited none .zero), terminated) := rfl
  have joined : (sample.joinOpened Stage.serving (.earlyDisconnect 2) (some watch)).run.run terminated =
      (.ok (some {}), terminated) := rfl
  rw [exercise, wp_bind]
  refine wp_of_run ready ?_
  rw [wp_bind]
  refine wp_of_run opened ?_
  rw [wp_bind]
  refine wp_of_run (a := ()) rfl ?_
  rw [wp_bind, drain, wp_bind, wp_get, wp_bind, wp_now, wp_bind]
  refine wp_of_run sent ?_
  rw [wp_bind, wp_callWorld, show (sampleProcess .draining none signalled).handle.world = signalled from rfl, unready,
    if_neg (by decide), wp_bind]
  refine wp_of_run ended ?_
  rw [wp_bind]
  refine wp_of_run joined ?_
  rw [wp_bind, wp_elapsedSince, wp_bind, wp_get, wp_pure]
  have soon : Duration.between (Stage.serving.clock running.handle.world)
      (Stage.serving.clock terminated.handle.world) = .zero := rfl
  rw [soon, judge, DrainReport.verdict_of_immediate rfl rfl rfl]
  rfl

/-- What is true of the connector does not depend on the network. -/
def truthOfServing : Stage.serving.Truth where
  toTruth := Stage.truth
  probe _ _ _ ended := ended
  request _ _ _ ended := ended
  pause _ d s _ ended := by
    obtain ⟨time, past, ending⟩ := Stage.exists_ending ended
    exact Stage.ended_of_ending ending (Nat.le_trans past (Nat.le_add_right s.clock d.nanos))

/-- Its verification ends in a report, so the connector has had its one signal and has ended, in this order, and the
word that it has written is handed over. -/
theorem verify_keeps_order_of_served_eyeball :
    let verified := sample.verify Stage.serving.traced (.earlyDisconnect 2) .interrupt { world := Stage.greeted }
    let running := sampleProcess .running none (Stage.greeted.play Stage.greeting)
    (∃ report, verified.1 = .ok report) ∧ ∃ exercising stopping,
      verified.2.trace = exercising ++ (stopping ++ [.settle]) ∧
      sample.Course (.earlyDisconnect 2) .interrupt verified.1 exercising ∧
      (exercising.filter Contact.isSignal).length ≤ 1 ∧
      (∃ c ∈ exercising ++ stopping, c.exit?.isSome) ∧
      (sample.conduct Stage.serving (.earlyDisconnect 2) .interrupt running).1.2 = ⟨"up", ""⟩ := by
  intro verified running
  obtain ⟨shown, exercising, stopping, dropping, trace, course, once, -, ends, -, -, -⟩ :=
    verify_keeps_order_and_cleans_up sample Stage.serving (.earlyDisconnect 2) .interrupt Stage.greeted launch_sample
  obtain ⟨report, reports⟩ := succeeds_of_wp exercise_sample
  have ran : (sample.exercise Stage.serving (.earlyDisconnect 2) .interrupt).run.run running = (.ok report, _) :=
    Prod.ext reports (ok_of_wp exercise_sample reports)
  obtain ⟨-, rfl, e, -, ⟨c, mem, heard⟩, output⟩ := ends fun _ _ _ => Stage.acceptsKill rfl rfl rfl
  obtain ⟨-, output⟩ := output truthOfServing
  have result := (verify_of_launch launch_sample).symm.trans shown
  have left : verified.2.world = (Stage.greeted.play Stage.greeting).receive .interrupt := by
    refine (congrArg Prod.snd result).symm.trans ?_
    unfold conduct
    rw [ran]
    rfl
  refine ⟨⟨report, ?_⟩, exercising, stopping, trace, course, once, ⟨c, mem, by rw [heard]; rfl⟩, ?_⟩
  · exact (congrArg Prod.fst result).symm.trans reports
  · rw [output, left]
    rfl

end DrainVerifier

end GracefulDrain
