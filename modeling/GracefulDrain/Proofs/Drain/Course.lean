import GracefulDrain.Proofs.Drain.Trace

/-! # The course of a scenario

What contacts a scenario can have, in what order. `Course` lists the ways a scenario can go, with the result of
each: the connector is found ready, the eyeball has its connection, one signal is sent, and then come the probes,
the wait for the end and the join, each only if what is before it has succeeded. Every run has such a course
(`DrainVerifier.exercise_course`). -/

namespace GracefulDrain

/-! ### Waits for readiness -/

/-- Probes of `url`, of which the last is the first to find it as `ready` says. -/
def ProbedUntil (url : String) (ready : Bool) (cs : List Contact) : Prop :=
  ∃ before answer, cs = before ++ [.probe url answer] ∧ (∀ c ∈ before, c.isProbing url !ready) ∧
    answer.any Answer.isReady = ready

theorem ProbedUntil.append {url : String} {ready : Bool} {before cs : List Contact}
    (probing : ∀ c ∈ before, c.isProbing url !ready) (h : ProbedUntil url ready cs) :
    ProbedUntil url ready (before ++ cs) := by
  obtain ⟨before', answer, rfl, probing', found⟩ := h
  have all := List.forall_mem_append.2 ⟨probing, probing'⟩
  exact ⟨before ++ before', answer, (List.append_assoc _ _ _).symm, all, found⟩

theorem ProbedUntil.isSignal {url : String} {ready : Bool} {cs : List Contact} (h : ProbedUntil url ready cs) :
    ∀ c ∈ cs, c.isSignal = false := by
  obtain ⟨before, answer, rfl, probing, -⟩ := h
  have quiet : ∀ c ∈ before, c.isSignal = false := fun c mem => Contact.isSignal_of_isProbing (probing c mem)
  exact List.forall_mem_append.2 ⟨quiet, List.forall_mem_singleton.2 rfl⟩

namespace World
variable {ω : Type} {world : World ω}

theorem awaitNotReadyUntil_adds (world : World ω) (url : String) (deadline : Nat) (t : Traced ω) :
    ∃ checking, (world.traced.awaitNotReadyUntil url deadline t).2.trace = t.trace ++ checking ∧
      ((world.traced.awaitNotReadyUntil url deadline t).1 = true → ProbedUntil url false checking) ∧
      ((world.traced.awaitNotReadyUntil url deadline t).1 = false →
        checking ≠ [] ∧ ∀ c ∈ checking, c.isProbing url true) := by
  -- a probe finds the connector not ready, or the time is up, or a pause is followed by another round
  induction t using awaitNotReadyUntil.induct world.traced url deadline with
  | case1 t after probed =>
    obtain ⟨answer, trace, found⟩ := trace_isReady probed
    rw [run_awaitNotReadyUntil, probed]
    refine ⟨_, trace, fun _ => ⟨[], answer, rfl, List.forall_mem_nil _, found⟩, fun unready => ?_⟩
    cases unready
  | case2 t after probed late =>
    obtain ⟨answer, trace, found⟩ := trace_isReady probed
    rw [run_awaitNotReadyUntil, probed]
    simp only [if_pos late]
    refine ⟨_, trace, fun ready => ?_, fun _ => ⟨List.cons_ne_nil _ _, List.forall_mem_singleton.2 ?_⟩⟩
    · cases ready
    · simp [Contact.isProbing, found]
  | case3 t after probed early ih =>
    obtain ⟨answer, trace, found⟩ := trace_isReady probed
    obtain ⟨checking, trace', ready, unready⟩ := ih
    have begun : ∀ c ∈ [.probe url answer, .pause .readiness probeInterval], Contact.isProbing url true c := by
      refine List.forall_mem_cons.2 ⟨?_, List.forall_mem_singleton.2 rfl⟩
      simp [Contact.isProbing, found]
    rw [run_awaitNotReadyUntil, probed]
    simp only [if_neg early]
    refine ⟨[.probe url answer, .pause .readiness probeInterval] ++ checking, ?_, fun found => ?_, fun found => ?_⟩
    · rw [trace']
      show (after.trace ++ [.pause .readiness probeInterval]) ++ checking = _
      rw [trace, List.append_assoc, List.append_assoc]
      rfl
    · exact (ready found).append begun
    · exact ⟨List.cons_ne_nil _ _, List.forall_mem_append.2 ⟨begun, (unready found).2⟩⟩

theorem awaitNotReady_adds {url : String} {timeout : Duration} {found : Bool} {t t' : Traced ω}
    (checked : world.traced.awaitNotReady url timeout t = (found, t')) :
    ∃ checking, t'.trace = t.trace ++ checking ∧ (found = true → ProbedUntil url false checking) ∧
      (found = false → checking ≠ [] ∧ ∀ c ∈ checking, c.isProbing url true) := by
  have adds := awaitNotReadyUntil_adds world url (world.clock t.world + timeout.nanos) t
  rw [show world.traced.awaitNotReadyUntil url (world.clock t.world + timeout.nanos) t = (found, t') from checked]
    at adds
  exact adds

end World

namespace Supervised
variable {ω : Type} {world : World ω}

@[simp] theorem wp_callWorld {α : Type} {Q : α → Supervised ω → Prop} {E : Failure → Supervised ω → Prop}
    (f : ω → α × ω) (p : Supervised ω) :
    wp (callWorld f) Q E p = Q (f p.handle.world).1 (p.inWorld (f p.handle.world).2) := by
  rw [callWorld, wp_viaHandle, Handle.wp_call]
  rfl

@[simp] theorem wp_now {Q : Nat → Supervised ω → Prop} {E : Failure → Supervised ω → Prop} (p : Supervised ω) :
    wp (now world) Q E p = Q (world.clock p.handle.world) p := rfl

@[simp] theorem wp_pauseUntil {Q : Unit → Supervised ω → Prop} {E : Failure → Supervised ω → Prop} (wait : Wait)
    (time : Nat) (p : Supervised ω) :
    wp (pauseUntil world wait time) Q E p = Q () (p.inWorld (world.pauseUntil wait time p.handle.world)) := by
  rw [pauseUntil, wp_callWorld]

/-- A round that finds the connector ready ends the wait with success, any other adds to it. -/
theorem readyRound_adds (world : World ω) (url : String) (start : Nat) (timeout : Duration)
    (p : Supervised (Traced ω)) :
    let round := readyRound world.traced url start timeout p
    (round.1 = some (.ok ()) ∧ ∃ answer, p.handle.Adds round.2.handle [.probe url answer] ∧
        answer.any Answer.isReady = true) ∨
      (round.1 ≠ some (.ok ()) ∧ ∃ probing, p.handle.Adds round.2.handle probing ∧
        ∀ c ∈ probing, c.isProbing url false) := by
  intro round
  rcases probed : world.traced.isReady url p.handle.world with ⟨ready, w⟩
  obtain ⟨answer, trace, found⟩ := World.trace_isReady probed
  have adds : p.handle.Adds (p.inWorld w).handle [.probe url answer] := .plain trace
  have run : round = readyRound world.traced url start timeout p := rfl
  unfold readyRound at run
  simp only [probed] at run
  cases ready with
  | true =>
    rw [run]
    exact .inl ⟨rfl, answer, adds, found⟩
  | false =>
    -- whatever the poll says, the round does not end the wait with success
    have polled : ∃ polls, (p.inWorld w).handle.Adds
        ((poll world.traced.toHost).run.run (p.inWorld w)).2.handle polls ∧ ∀ c ∈ polls, c.isPoll :=
      of_wp (R := fun _ (q : Supervised (Traced ω)) =>
        ∃ polls, (p.inWorld w).handle.Adds q.handle polls ∧ ∀ c ∈ polls, c.isPoll) (poll_adds (p.inWorld w))
    simp only [Bool.false_eq_true, if_false] at run
    rcases ran : (poll world.traced.toHost).run.run (p.inWorld w) with ⟨result, q⟩
    rw [ran] at polled
    obtain ⟨polls, adds', arePolls⟩ := polled
    have probing : ∀ c ∈ [.probe url answer] ++ polls, c.isProbing url false := by
      refine List.forall_mem_append.2 ⟨List.forall_mem_singleton.2 ?_, fun c mem => ?_⟩
      · simp [Contact.isProbing, found]
      · exact Contact.isProbing_of_isPoll (arePolls c mem)
    have left : round.1 ≠ some (.ok ()) ∧ round.2 = q := by
      rw [run, ran]
      rcases result with failure | _ | code
      · exact ⟨nofun, rfl⟩
      · dsimp only
        split
        · exact ⟨nofun, rfl⟩
        · exact ⟨nofun, rfl⟩
      · exact ⟨nofun, rfl⟩
    rw [left.2]
    exact .inr ⟨left.1, _, adds.trans adds', probing⟩

theorem awaitReadySince_adds (world : World ω) (url : String) (start : Nat) (timeout : Duration)
    (p : Supervised (Traced ω)) :
    let wait := awaitReadySince world.traced url start timeout p
    ∃ probing, p.handle.Adds wait.2.handle probing ∧ (wait.1 = .ok () → ProbedUntil url true probing) ∧
      (wait.1 ≠ .ok () → ∀ c ∈ probing, c.isProbing url false) := by
  induction p using awaitReadySince.induct world.traced url start timeout with
  | case1 p verdict q round =>
    have decided := readyRound_adds world url start timeout p
    rw [run_awaitReadySince, round]
    simp only [round] at decided
    obtain ⟨succeeds, answer, adds, found⟩ | ⟨fails, probing, adds, unready⟩ := decided
    · cases succeeds
      exact ⟨_, adds, fun _ => ⟨[], answer, rfl, List.forall_mem_nil _, found⟩, fun fails => absurd rfl fails⟩
    · exact ⟨probing, adds, fun succeeds => absurd (congrArg some succeeds) fails, fun _ => unready⟩
  | case2 p q round ih =>
    have decided := readyRound_adds world url start timeout p
    rw [run_awaitReadySince, round]
    simp only [round] at decided
    obtain ⟨succeeds, -⟩ | ⟨-, probing, adds, unready⟩ := decided
    · cases succeeds
    obtain ⟨probing', adds', ready, unready'⟩ := ih
    have paused : q.handle.Adds (q.inWorld (world.traced.pause .readiness probeInterval q.handle.world)).handle
        [.pause .readiness probeInterval] := .plain rfl
    have begun : ∀ c ∈ probing ++ [.pause .readiness probeInterval], c.isProbing url false :=
      List.forall_mem_append.2 ⟨unready, List.forall_mem_singleton.2 rfl⟩
    refine ⟨_, (adds.trans paused).trans adds', fun succeeds => (ready succeeds).append begun, fun fails => ?_⟩
    exact List.forall_mem_append.2 ⟨begun, unready' fails⟩

theorem awaitReady_adds (url : String) (timeout : Duration) (p : Supervised (Traced ω)) :
    wp (awaitReady world.traced url timeout)
      (fun _ q => ∃ readying, p.handle.Adds q.handle readying ∧ ProbedUntil url true readying)
      (fun _ q => ∃ probing, p.handle.Adds q.handle probing ∧ ∀ c ∈ probing, c.isProbing url false) p := by
  have waited := awaitReadySince_adds world url (world.traced.clock p.handle.world) timeout p
  have run : (awaitReady world.traced url timeout).run.run p =
      awaitReadySince world.traced url (world.traced.clock p.handle.world) timeout p := rfl
  unfold wp
  rw [run]
  rcases hr : awaitReadySince world.traced url (world.traced.clock p.handle.world) timeout p with ⟨f | _, q⟩
  · simp only [hr] at waited
    obtain ⟨probing, adds, -, unready⟩ := waited
    exact ⟨probing, adds, unready nofun⟩
  · simp only [hr] at waited
    obtain ⟨probing, adds, ready, -⟩ := waited
    exact ⟨probing, adds, ready trivial⟩

/-! ### The eyeball -/

theorem pauseUntil_adds (world : World ω) (wait : Wait) (time : Nat) (p : Supervised (Traced ω)) :
    ∃ length, p.handle.Adds (p.inWorld (world.traced.pauseUntil wait time p.handle.world)).handle
      [.pause wait length] :=
  ⟨_, .plain rfl⟩

theorem joinEyeball_adds (watch : Watch) (timeout : Duration) (p : Supervised (Traced ω)) :
    wp (joinEyeball world.traced watch timeout)
      (fun _ q => ∃ length, p.handle.Adds q.handle [.pause .join length])
      (fun _ q => ∃ length, p.handle.Adds q.handle [.pause .join length]) p := by
  simp only [joinEyeball, wp_bind, wp_now]
  rcases watch.join (world.traced.clock p.handle.world) timeout with ⟨result, time⟩
  simp only [wp_pauseUntil]
  have paused := pauseUntil_adds world .join time p
  rcases result with _ | failure | report
  · exact paused
  · exact paused
  · exact paused

/-- The contacts by which an eyeball gets its connection in time. -/
def Established (eyeball : Eyeball) (timeout : Duration) (watch : Watch) (cs : List Contact) : Prop :=
  ∃ start response length,
    cs = [.request eyeball start response, .pause .connectionEstablished length] ∧
      watch = eyeball.watch start response ∧ (watch.notice.await start timeout).1 = .ok ()

theorem openEyeball_adds (eyeball : Eyeball) (timeout : Duration) (p : Supervised (Traced ω)) :
    wp (openEyeball world.traced eyeball timeout)
      (fun watch q => ∃ opening, p.handle.Adds q.handle opening ∧ Established eyeball timeout watch opening)
      (fun _ q => ∃ opening, p.handle.Adds q.handle opening ∧ ∀ c ∈ opening, c.isSignal = false) p := by
  simp only [openEyeball, wp_bind, wp_now, wp_callWorld]
  rcases asked : world.traced.request eyeball p.handle.world with ⟨response, w⟩
  rcases waited : (eyeball.watch (world.traced.clock p.handle.world) response).notice.await
    (world.traced.clock p.handle.world) timeout with ⟨answer, time⟩
  simp only [wp_pauseUntil]
  let q := (p.inWorld w).inWorld (world.traced.pauseUntil .connectionEstablished time w)
  have asks : p.handle.Adds (p.inWorld w).handle
      [.request eyeball (world.traced.clock p.handle.world) response] := .plain (World.trace_request asked)
  obtain ⟨length, waits⟩ := pauseUntil_adds world .connectionEstablished time (p.inWorld w)
  have opened := asks.trans waits
  have quiet : ∀ c ∈ ([.request eyeball (world.traced.clock p.handle.world) response] ++
      [.pause .connectionEstablished length] : List Contact), c.isSignal = false := by
    simp [Contact.isSignal]
  rcases answer with (timedOut | _) | _
  · exact ⟨_, opened, quiet⟩
  · have gaveUp : ∀ {r : Supervised (Traced ω)}, (∃ length, q.handle.Adds r.handle [.pause .join length]) →
        ∃ opening, p.handle.Adds r.handle opening ∧ ∀ c ∈ opening, c.isSignal = false := by
      rintro r ⟨length', joins⟩
      exact ⟨_, opened.trans joins, List.forall_mem_append.2 ⟨quiet, List.forall_mem_singleton.2 rfl⟩⟩
    rw [wp_bind]
    exact wp_mono (joinEyeball_adds _ timeout q) (fun _ _ h => gaveUp h) fun _ _ h => gaveUp h
  · exact ⟨_, opened, _, response, length, rfl, rfl, by rw [waited]⟩

end Supervised

/-! ### Scenarios -/

namespace DrainVerifier
open Supervised
variable {ω : Type} {world : World ω}

/-- The contacts by which a scenario gets the watch of its eyeball, if it opens a connection. -/
def Opened (v : DrainVerifier) (scenario : Scenario) : Option Watch → List Contact → Prop
  | some watch, cs => scenario.opensConnection ∧ Established (v.eyeball scenario) v.settings.timeout watch cs
  | none, cs => scenario.opensConnection = false ∧ cs = []

theorem Opened.isSignal {v : DrainVerifier} {scenario : Scenario} {watch : Option Watch} {cs : List Contact}
    (h : v.Opened scenario watch cs) : ∀ c ∈ cs, c.isSignal = false := by
  cases watch with
  | some watch =>
    obtain ⟨-, start, response, length, rfl, -, -⟩ := h
    simp [Contact.isSignal]
  | none =>
    obtain ⟨-, rfl⟩ := h
    nofun

/-- The contacts by which the eyeball is joined, if there is one. -/
def Joined : Option Watch → List Contact → Prop
  | some _, cs => ∃ length, cs = [.pause .join length]
  | none, cs => cs = []

/-- What follows a signal, by the answer to it: probes until the connector is found not to be ready, the wait for
its end, and the join of the eyeball. Each comes only once the one before has succeeded, and only the last can
lead to a report. -/
inductive Aftermath (v : DrainVerifier) (watch : Option Watch) :
    Except OsError Unit → Except Failure DrainReport → List Contact → Prop
  | undelivered {reason : OsError} {failure : Failure} : Aftermath v watch (.error reason) (.error failure) []
  | stillReady {checking : List Contact} {failure : Failure} (checked : checking ≠ [])
      (ready : ∀ c ∈ checking, c.isProbing v.probeUrl true) :
      Aftermath v watch (.ok ()) (.error failure) checking
  | unended {checking waiting : List Contact} {failure : Failure}
      (unready : ProbedUntil v.probeUrl false checking) (waited : TerminationWait waiting) :
      Aftermath v watch (.ok ()) (.error failure) (checking ++ waiting)
  | ended {checking waiting joining : List Contact} {result : Except Failure DrainReport}
      (unready : ProbedUntil v.probeUrl false checking) (waited : TerminationWait waiting)
      (heard : ∃ c ∈ waiting, c.exit?.isSome) (joined : Joined watch joining) :
      Aftermath v watch (.ok ()) result (checking ++ (waiting ++ joining))

/-- How a scenario can go. It fails before it has sent any signal, or it sends one, and then the connector has been
found ready before and the eyeball, if there is one, has had its connection. -/
inductive Course (v : DrainVerifier) (scenario : Scenario) (signal : TermSignal) :
    Except Failure DrainReport → List Contact → Prop
  | unsignalled {failure : Failure} {contacts : List Contact} (quiet : ∀ c ∈ contacts, c.isSignal = false) :
      Course v scenario signal (.error failure) contacts
  | signalled {watch : Option Watch} {answer : Except OsError Unit} {result : Except Failure DrainReport}
      {readying opening polling afterwards : List Contact} (ready : ProbedUntil v.probeUrl true readying)
      (opened : v.Opened scenario watch opening) (polls : ∀ c ∈ polling, c.isPoll)
      (aftermath : v.Aftermath watch answer result afterwards) :
      Course v scenario signal result
        (readying ++ (opening ++ (polling ++ .child (.signal signal answer) :: afterwards)))

theorem openStream_adds (v : DrainVerifier) (scenario : Scenario) (p : Supervised (Traced ω)) :
    wp (v.openStream world.traced scenario)
      (fun watch q => ∃ opening, p.handle.Adds q.handle opening ∧ v.Opened scenario watch opening)
      (fun _ q => ∃ opening, p.handle.Adds q.handle opening ∧ ∀ c ∈ opening, c.isSignal = false) p := by
  unfold openStream
  split
  · next opens =>
    rw [wp_bind]
    refine wp_mono (openEyeball_adds _ _ p) ?_ fun _ _ h => h
    rintro watch q ⟨opening, adds, established⟩
    exact ⟨opening, adds, opens, established⟩
  · next closed => exact ⟨[], .refl _, by simpa using closed, rfl⟩

/-- A check that passes leaves everything as it is. -/
theorem checkInFlight_adds (v : DrainVerifier) (scenario : Scenario) (watch : Option Watch)
    (p : Supervised (Traced ω)) :
    wp (v.checkInFlight world.traced scenario watch) (fun _ q => q = p)
      (fun _ q => ∃ length, p.handle.Adds q.handle [.pause .join length]) p := by
  cases watch with
  | none => exact rfl
  | some watch =>
    show wp (if scenario.expectsInFlight then v.refuseEnded world.traced watch else pure ()) _ _ p
    split
    · simp only [refuseEnded, wp_bind, wp_now]
      split
      · rw [wp_bind]
        exact wp_mono (joinEyeball_adds watch _ p) (fun _ _ h => h) fun _ _ h => h
      · exact rfl
    · exact rfl

theorem joinOpened_adds (v : DrainVerifier) (scenario : Scenario) (watch : Option Watch)
    (p : Supervised (Traced ω)) :
    wp (v.joinOpened world.traced scenario watch)
      (fun _ q => ∃ joining, p.handle.Adds q.handle joining ∧ Joined watch joining)
      (fun _ q => ∃ joining, p.handle.Adds q.handle joining ∧ Joined watch joining) p := by
  cases watch with
  | none => exact ⟨[], .refl _, rfl⟩
  | some watch =>
    unfold joinOpened
    rw [wp_map]
    refine wp_mono (joinEyeball_adds watch _ p) ?_ ?_
    · rintro _ q ⟨length, adds⟩
      exact ⟨_, adds, length, rfl⟩
    · rintro _ q ⟨length, adds⟩
      exact ⟨_, adds, length, rfl⟩

/-- A drain that makes a report has had the whole aftermath, whatever becomes of the report. -/
theorem drain_adds (v : DrainVerifier) (scenario : Scenario) (signal : TermSignal) (watch : Option Watch)
    (p : Supervised (Traced ω)) :
    wp (v.drain world.traced scenario signal watch)
      (fun _ q => ∃ polling answer afterwards,
        p.handle.Adds q.handle (polling ++ .child (.signal signal answer) :: afterwards) ∧
        (∀ c ∈ polling, c.isPoll) ∧ ∀ result, v.Aftermath watch answer result afterwards)
      (fun failure q => (∃ polling, p.handle.Adds q.handle polling ∧ ∀ c ∈ polling, c.isPoll) ∨
        ∃ polling answer afterwards,
          p.handle.Adds q.handle (polling ++ .child (.signal signal answer) :: afterwards) ∧
          (∀ c ∈ polling, c.isPoll) ∧ v.Aftermath watch answer (.error failure) afterwards) p := by
  simp only [drain, wp_bind, wp_get, wp_now]
  -- a signal that is sent leaves the process alive and its exit unknown, so the wait for the end does wait
  refine wp_mono (wp_and (sendSignal_adds signal p) (sendSignal_moves signal p)) ?_ ?_
  · rintro _ q ⟨⟨polling, signals, arePolls, unknown⟩, -, live⟩
    rcases checked : world.traced.awaitNotReady v.probeUrl notReadyTimeout q.handle.world with ⟨found, t⟩
    obtain ⟨checking, trace, unready, ready⟩ := World.awaitNotReady_adds checked
    have checks : q.handle.Adds (q.inWorld t).handle checking := .plain trace
    -- whatever comes after the signal is added behind it
    have signalled {r : Supervised (Traced ω)} {afterwards : List Contact}
        (adds : q.handle.Adds r.handle afterwards) :
        p.handle.Adds r.handle (polling ++ .child (.signal signal (.ok ())) :: afterwards) := by
      have whole := signals.trans adds
      rwa [List.append_assoc] at whole
    simp only [wp_bind, wp_callWorld, checked]
    cases found with
    | false => exact .inr ⟨polling, _, checking, signalled checks, arePolls, .stillReady (ready rfl).1 (ready rfl).2⟩
    | true =>
      rw [if_neg (by decide), wp_bind]
      refine wp_mono (awaitTermination_adds (q.inWorld t)) ?_ ?_
      · rintro outcome r ⟨ended, waiting, waits, ⟨known, -⟩ | waited⟩
        · rw [show (q.inWorld t).handle.exit = none from unknown] at known
          cases known
        have heard : ∃ c ∈ waiting, c.exit?.isSome := by
          obtain ⟨e, he⟩ := Option.isSome_iff_exists.1 ended
          obtain known | ⟨c, mem, reports⟩ := waits.exit e he
          · rw [show (q.inWorld t).handle.exit = none from unknown] at known
            cases known
          · exact ⟨c, mem, by rw [reports]; rfl⟩
        rw [wp_bind]
        refine wp_mono (joinOpened_adds v scenario watch r) ?_ ?_
        · rintro eyeball s ⟨joining, joins, joined⟩
          exact ⟨polling, _, _, signalled (checks.trans (waits.trans joins)), arePolls,
            fun result => .ended (unready rfl) waited heard joined⟩
        · rintro failure s ⟨joining, joins, joined⟩
          exact .inr ⟨polling, _, _, signalled (checks.trans (waits.trans joins)), arePolls,
            .ended (unready rfl) waited heard joined⟩
      · rintro failure r ⟨waiting, waits, ⟨terminal, -⟩ | waited⟩
        · rw [show (q.inWorld t).state.isTerminal = false from live] at terminal
          cases terminal
        · exact .inr ⟨polling, _, _, signalled (checks.trans waits), arePolls, .unended (unready rfl) waited⟩
  · rintro failure q ⟨⟨polling, adds | ⟨reason, adds⟩, arePolls⟩, -⟩
    · exact .inl ⟨polling, adds, arePolls⟩
    · exact .inr ⟨polling, _, [], adds, arePolls, .undelivered⟩

theorem judge_keeps (v : DrainVerifier) (report : DrainReport) (p : Supervised ω) :
    wp (v.judge report) (fun _ q => q = p) (fun _ q => q = p) p := by
  unfold judge
  split
  · exact rfl
  · exact rfl

/-- Every run of a scenario has a course. -/
theorem exercise_course (v : DrainVerifier) (scenario : Scenario) (signal : TermSignal)
    (p : Supervised (Traced ω)) :
    wp (v.exercise world.traced scenario signal)
      (fun report q => ∃ contacts, p.handle.Adds q.handle contacts ∧ v.Course scenario signal (.ok report) contacts)
      (fun failure q =>
        ∃ contacts, p.handle.Adds q.handle contacts ∧ v.Course scenario signal (.error failure) contacts) p := by
  have quietly {cs cs' : List Contact} (h : ∀ c ∈ cs, c.isSignal = false) (h' : ∀ c ∈ cs', c.isSignal = false) :
      ∀ c ∈ cs ++ cs', c.isSignal = false :=
    List.forall_mem_append.2 ⟨h, h'⟩
  -- no act before the drain sends a signal, so whatever fails there has a course without one
  rw [exercise, wp_bind]
  refine wp_mono (awaitReady_adds v.probeUrl v.settings.readinessTimeout p) ?_ ?_
  · rintro _ q ⟨readying, readies, ready⟩
    rw [wp_bind]
    refine wp_mono (openStream_adds v scenario q) ?_ ?_
    · rintro watch r ⟨opening, opens, opened⟩
      rw [wp_bind]
      refine wp_mono (checkInFlight_adds v scenario watch r) ?_ ?_
      · rintro _ r' rfl
        rw [wp_bind]
        refine wp_mono (drain_adds v scenario signal watch r') ?_ ?_
        · rintro report s ⟨polling, answer, afterwards, drains, arePolls, aftermath⟩
          have whole := readies.trans (opens.trans drains)
          refine wp_mono (judge_keeps v report s) ?_ ?_
          · rintro _ s' rfl
            exact ⟨_, whole, .signalled ready opened arePolls (aftermath _)⟩
          · rintro _ s' rfl
            exact ⟨_, whole, .signalled ready opened arePolls (aftermath _)⟩
        · rintro failure s (⟨polling, polls, arePolls⟩ | ⟨polling, answer, afterwards, drains, arePolls, aftermath⟩)
          · have quiet : ∀ c ∈ polling, c.isSignal = false := fun c mem => Contact.isSignal_of_isPoll (arePolls c mem)
            exact ⟨_, readies.trans (opens.trans polls),
              .unsignalled (quietly ready.isSignal (quietly opened.isSignal quiet))⟩
          · exact ⟨_, readies.trans (opens.trans drains), .signalled ready opened arePolls aftermath⟩
      · rintro failure s ⟨length, joins⟩
        have quiet : ∀ c ∈ [.pause .join length], Contact.isSignal c = false := by simp [Contact.isSignal]
        exact ⟨_, readies.trans (opens.trans joins),
          .unsignalled (quietly ready.isSignal (quietly opened.isSignal quiet))⟩
    · rintro failure r ⟨opening, opens, quiet⟩
      exact ⟨_, readies.trans opens, .unsignalled (quietly ready.isSignal quiet)⟩
  · rintro failure q ⟨probing, probes, unready⟩
    exact ⟨probing, probes, .unsignalled fun c mem => Contact.isSignal_of_isProbing (unready c mem)⟩

end DrainVerifier

end GracefulDrain
