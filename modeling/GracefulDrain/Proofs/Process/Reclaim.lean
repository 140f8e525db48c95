import GracefulDrain.Proofs.Process.Deliveries
import GracefulDrain.Proofs.Process.Grace

/-! # Ends that are recorded as forced

A child may end with an exit code after its budget is used up and before a kill reaches it. The owner's kill
records such an end as the child's own; the kill that follows a wait in vain records it as forced. The calls
to the host tell the two apart: `escalation?` is the exit that a wait in vain and then a kill have reaped. -/

namespace GracefulDrain

namespace Call
variable {earlier : List Call} {e : Exit}

/-- The last call was a wait in vain. Here and below, calls are listed from the last to the first. -/
def overran : List Call → Bool
  | .await _ (.ok none) :: _ => true
  | _ => false

/-- The exit that the last calls have reaped, if they are a wait in vain and then a kill. -/
def escalation? : List Call → Option Exit
  | .poll (.ok (some e)) :: earlier => if overran earlier then some e else none
  | .reap (.ok e) :: .forceKill _ :: .poll (.ok none) :: earlier => if overran earlier then some e else none
  | _ => none

theorem escalation?_poll :
    escalation? (.poll (.ok (some e)) :: earlier) = if overran earlier then some e else none :=
  rfl

theorem escalation?_reap {answer : KillAnswer} :
    escalation? (.reap (.ok e) :: .forceKill answer :: .poll (.ok none) :: earlier) =
      if overran earlier then some e else none := rfl

end Call

open Call (overran escalation? escalation?_poll escalation?_reap)

namespace Handle
variable {σ : Type} {host : Host σ} {h h' : Handle (Recorded σ)}

/-- The calls made so far, from the last to the first. -/
def log (h : Handle (Recorded σ)) : List Call := h.world.calls.reverse

theorem log_of_call {α : Type} {f : σ → α × σ} {note : α → Call} {a : α} {r r' : Recorded σ}
    (called : r.call f note = (a, r')) : r'.calls.reverse = note a :: r.calls.reverse := by
  rw [Recorded.calls_of_call called, List.reverse_append]
  rfl

/-- The last calls are no escalation, and no wait in vain that a kill would make one. -/
structure Calm (h : Handle (Recorded σ)) : Prop where
  overran : overran h.log = false
  escalation : escalation? h.log = none

theorem Calm.of_log {calls : List Call} (log : h.log = calls) (rested : Call.overran calls = false)
    (none : escalation? calls = none) : h.Calm := by
  subst log
  exact ⟨rested, none⟩

theorem poll_calm (calm : h.Calm) :
    wp (poll host.recorded) (fun r h' => h'.Calm ∧ h'.exit = r) (fun _ h' => h'.Calm) h := by
  refine wp_poll (fun e known => ⟨calm, known⟩) ?_ ?_ ?_
  · intro _ e w polled
    have reaped : escalation? (.poll (.ok (some e)) :: h.log) = none := by simp [escalation?_poll, calm.overran]
    exact ⟨.of_log (log_of_call polled) rfl reaped, rfl⟩
  · intro unknown w polled
    exact ⟨.of_log (log_of_call polled) rfl rfl, unknown⟩
  · intro _ reason w polled
    exact .of_log (log_of_call polled) rfl rfl

theorem sendSignal_calm (signal : TermSignal) (calm : h.Calm) :
    wp (sendSignal host.recorded signal) (fun _ h' => h'.Calm) (fun _ h' => h'.Calm) h := by
  refine wp_sendSignal (fun _ _ => calm) ?_ ?_ ?_ ?_
  · intro _ e w polled
    have reaped : escalation? (.poll (.ok (some e)) :: h.log) = none := by simp [escalation?_poll, calm.overran]
    exact .of_log (log_of_call polled) rfl reaped
  · intro _ reason w polled
    exact .of_log (log_of_call polled) rfl rfl
  · intro _ w w' _ sent
    exact .of_log (log_of_call sent) rfl rfl
  · intro _ w reason w' _ refused
    exact .of_log (log_of_call refused) rfl rfl

/-- A wait in vain is the only one that a kill follows. -/
theorem waitFor_overruns (timeout : Duration) (wait : Wait) (calm : h.Calm) :
    wp (waitFor host.recorded timeout wait) (fun e h' => h'.Calm ∧ h'.exit = some e)
      (fun failure h' =>
        match failure with
        | .timeout .. => overran h'.log = true ∧ h'.exit = none
        | _ => h'.Calm) h := by
  refine wp_waitFor (fun e known => ⟨calm, known⟩) ?_ ?_ ?_
  · intro _ e w awaited
    exact ⟨.of_log (log_of_call awaited) rfl rfl, rfl⟩
  · intro unknown w text awaited
    refine ⟨?_, unknown⟩
    show overran w.calls.reverse = true
    rw [log_of_call awaited]
    rfl
  · intro _ reason w awaited
    exact .of_log (log_of_call awaited) rfl rfl

/-- What a kill reaps is an escalation just if a wait in vain came before it. -/
theorem kill_escalates (unknown : h.exit = none) :
    wp (kill host.recorded)
      (fun e h' => h'.exit = some e ∧ overran h'.log = false ∧
        escalation? h'.log = if overran h.log then some e else none)
      (fun _ h' => h'.Calm) h := by
  refine wp_kill ?_ ?_ ?_ ?_ ?_ ?_
  · intro e known
    rw [unknown] at known
    cases known
  · intro _ e w polled
    have log : w.calls.reverse = .poll (.ok (some e)) :: h.log := log_of_call polled
    refine ⟨rfl, ?_, ?_⟩
    · show overran w.calls.reverse = false
      rw [log]
      rfl
    · show escalation? w.calls.reverse = _
      rw [log, escalation?_poll]
  · intro _ reason w polled
    exact .of_log (log_of_call polled) rfl rfl
  · intro _ w reason w' _ refused
    exact .of_log (log_of_call refused) rfl rfl
  · intro _ w answer w' e w'' polled killed reaped
    have log : w''.calls.reverse = .reap (.ok e) :: .forceKill answer :: .poll (.ok none) :: h.log := by
      rw [log_of_call reaped, log_of_call killed, log_of_call polled]
      rfl
    refine ⟨rfl, ?_, ?_⟩
    · show overran w''.calls.reverse = false
      rw [log]
      rfl
    · show escalation? w''.calls.reverse = _
      rw [log, escalation?_reap]
  · intro _ w answer w' reason w'' _ _ lost
    exact .of_log (log_of_call lost) rfl rfl

end Handle

namespace Supervised
variable {σ : Type} {host : Host σ} {p q : Supervised (Recorded σ)} {e : Exit}

/-- The exit that an escalation has reaped, if that is what the last calls are. -/
def escalation? (p : Supervised (Recorded σ)) : Option Exit := Call.escalation? p.handle.log

/-- How the end of a process is recorded. -/
inductive Classified (p : Supervised (Recorded σ)) : Prop
  | live (state : p.state.isTerminal = false) (calm : p.handle.Calm)
  | terminated (state : p.state = .terminated) {e : Exit} (exit : p.handle.exit = some e) (calm : p.handle.Calm)
  /-- The owner's kill found no exit code. -/
  | killed (state : p.state = .killed) {e : Exit} (exit : p.handle.exit = some e) (code : e.code? = none)
      (calm : p.handle.Calm)
  | escalated (state : p.state = .killed) {e : Exit} (exit : p.handle.exit = some e)
      (escalation : p.escalation? = some e)

namespace Classified

theorem calm (h : p.Classified) (live : p.state.isTerminal = false) : p.handle.Calm := by
  cases h with
  | live _ calm => exact calm
  | terminated state => rw [state] at live; cases live
  | killed state => rw [state] at live; cases live
  | escalated state => rw [state] at live; cases live

theorem exit (h : p.Classified) (ended : p.state.isTerminal) : ∃ e, p.handle.exit = some e := by
  cases h with
  | live state => rw [state] at ended; cases ended
  | terminated _ exit => exact ⟨_, exit⟩
  | killed _ exit => exact ⟨_, exit⟩
  | escalated _ exit => exact ⟨_, exit⟩

/-- An end with an exit code counts as forced just if an escalation has reaped it. -/
theorem state_of_code (h : p.Classified) (ended : p.state.isTerminal) (exit : p.handle.exit = some e)
    (code : e.code?.isSome) : p.state = if p.escalation? = some e then .killed else .terminated := by
  cases h with
  | live state => rw [state] at ended; cases ended
  | terminated state _ calm =>
    have other : p.escalation? ≠ some e := by
      rw [Supervised.escalation?, calm.escalation]
      exact (Option.some_ne_none e).symm
    rw [if_neg other, state]
  | killed _ exit' uncoded =>
    cases exit.symm.trans exit'
    rw [uncoded] at code
    cases code
  | escalated state exit' escalation =>
    cases exit.symm.trans exit'
    rw [if_pos escalation, state]

theorem of_escalation (h : p.Classified) (escalation : p.escalation? = some e) :
    p.state = .killed ∧ p.handle.exit = some e := by
  have calm_no (calm : p.handle.Calm) : False := by
    rw [Supervised.escalation?, calm.escalation] at escalation
    cases escalation
  cases h with
  | live _ calm => exact (calm_no calm).elim
  | terminated _ _ calm => exact (calm_no calm).elim
  | killed _ _ _ calm => exact (calm_no calm).elim
  | escalated state exit escalation' =>
    cases escalation.symm.trans escalation'
    exact ⟨state, exit⟩

/-- Nothing but the state, the exit and the calls matter. -/
theorem of_same (h : p.Classified) (state : q.state = p.state) (exit : q.handle.exit = p.handle.exit)
    (calls : q.calls = p.calls) : q.Classified := by
  have log : q.handle.log = p.handle.log := congrArg List.reverse calls
  have calm (c : p.handle.Calm) : q.handle.Calm := .of_log log c.overran c.escalation
  cases h with
  | live live c => exact .live (by rw [state, live]) (calm c)
  | terminated ended known c => exact .terminated (state.trans ended) (exit.trans known) (calm c)
  | killed ended known code c => exact .killed (state.trans ended) (exit.trans known) code (calm c)
  | escalated ended known escalation =>
    refine .escalated (state.trans ended) (exit.trans known) ?_
    rw [Supervised.escalation?, log]
    exact escalation

end Classified

/-- The process has ended as `outcome` says. One that is reported as killed has been killed after a wait in vain. -/
def EndedAs (p : Supervised (Recorded σ)) : Outcome → Prop
  | .exited code _ => p.state = .terminated ∧ ∃ e, p.handle.exit = some e ∧ e.code? = code
  | .killed _ => p.state = .killed ∧ ∃ e, p.handle.exit = some e ∧ p.escalation? = some e

/-! Each operation on a live process classifies its end. -/

theorem poll_classified (live : p.state.isTerminal = false) (calm : p.handle.Calm) :
    wp (poll host.recorded)
      (fun r q => q.Classified ∧ r = q.handle.exit.map Exit.code? ∧ q.handle.Calm ∧
        q.state = if r.isSome then .terminated else p.state)
      (fun _ q => q.Classified) p := by
  rw [wp_poll]
  refine wp_mono (Handle.poll_calm calm) ?_ fun _ _ calm => .live live calm
  rintro r h ⟨calm, rfl⟩
  rw [Lifecycle.raise_terminated live]
  cases exit : h.exit with
  | none => exact ⟨.live live calm, by simp, calm, rfl⟩
  | some e => exact ⟨.terminated rfl exit calm, by simp, calm, rfl⟩

theorem sendSignal_classified (signal : TermSignal) (live : p.state.isTerminal = false) (calm : p.handle.Calm) :
    wp (sendSignal host.recorded signal) (fun _ q => q.state.isTerminal = false ∧ q.handle.Calm)
      (fun _ q => q.Classified) p := by
  rw [wp_sendSignal live]
  refine wp_mono (poll_classified live calm) ?_ fun _ _ classified => classified
  rintro r q ⟨classified, -, calm, state⟩
  split
  · exact classified
  · rename_i unheard
    have live : q.state.isTerminal = false := by rw [state, if_neg unheard, live]
    have signalled := Lifecycle.isTerminal_raise .signalSent live rfl
    refine wp_mono (Handle.sendSignal_calm signal calm) (fun _ h calm => ?_) fun _ h calm => ?_
    · exact ⟨Lifecycle.isTerminal_raise .draining signalled rfl, calm⟩
    · exact .live signalled calm

theorem awaitTermination_classified (live : p.state.isTerminal = false) (calm : p.handle.Calm) :
    wp (awaitTermination host.recorded) (fun outcome q => q.Classified ∧ q.EndedAs outcome)
      (fun _ q => q.Classified) p := by
  rw [wp_awaitTermination live]
  refine wp_mono (Handle.waitFor_overruns _ _ calm) ?_ ?_
  · rintro e h ⟨calm, exit⟩
    exact ⟨.terminated rfl exit calm, rfl, e, exit, rfl⟩
  · intro failure h waited
    split
    · obtain ⟨overran, unknown⟩ := waited
      refine wp_mono (Handle.kill_escalates unknown) ?_ fun _ _ calm => .live live calm
      rintro e h' ⟨exit, -, escalation⟩
      rw [overran, if_pos rfl] at escalation
      -- whatever the exit is, it is recorded as that of a killed process
      exact ⟨.escalated rfl exit escalation, rfl, e, exit, escalation⟩
    · rename_i other
      refine .live live ?_
      cases failure with
      | timeout wait elapsedMs text => exact absurd rfl (other wait elapsedMs text)
      | _ => exact waited

theorem terminate_classified (signal : TermSignal) (live : p.state.isTerminal = false) (calm : p.handle.Calm) :
    wp (terminate host.recorded signal) (fun outcome q => q.Classified ∧ q.EndedAs outcome)
      (fun _ q => q.Classified) p := by
  rw [wp_terminate live]
  refine wp_mono (poll_classified live calm) ?_ fun _ _ classified => classified
  rintro r q ⟨classified, heard, calm, state⟩
  cases r with
  | some code =>
    obtain ⟨e, exit, rfl⟩ := Option.map_eq_some_iff.1 heard.symm
    exact ⟨classified, state, e, exit, rfl⟩
  | none =>
    have live : q.state.isTerminal = false := by rw [state]; exact live
    refine wp_mono (sendSignal_classified signal live calm) ?_ fun _ _ classified => classified
    rintro - q' ⟨live, calm⟩
    exact awaitTermination_classified live calm

theorem kill_classified (live : p.state.isTerminal = false) (calm : p.handle.Calm) :
    wp (kill host.recorded) (fun _ q => q.Classified ∧ q.state.isTerminal ∧ q.escalation? = none)
      (fun _ q => q.Classified) p := by
  rw [wp_kill live]
  refine wp_mono (poll_classified live calm) ?_ fun _ _ classified => classified
  rintro r q ⟨classified, heard, calm, state⟩
  split
  · rename_i ended
    refine ⟨classified, ?_, calm.escalation⟩
    rw [state, if_pos ended]
    rfl
  · rename_i unheard
    have live : q.state.isTerminal = false := by rw [state, if_neg unheard, live]
    have unknown : q.handle.exit = none := by simpa [heard] using unheard
    refine wp_mono (Handle.kill_escalates unknown) ?_ fun _ _ calm => .live live calm
    rintro e h ⟨exit, rested, escalation⟩
    rw [calm.overran] at escalation
    have calm : h.Calm := ⟨rested, escalation⟩
    cases code : e.code? with
    | some n =>
      have state : q.state.raise .terminated = .terminated := Lifecycle.raise_terminated live
      exact ⟨.terminated state exit calm, by simp [state, Lifecycle.isTerminal], escalation⟩
    | none =>
      have state : q.state.raise .killed = .killed := if_pos (Lifecycle.canBecome_killed live)
      exact ⟨.killed state exit code calm, by simp [state, Lifecycle.isTerminal], escalation⟩

/-- Once the process has ended, nothing is classified anew. -/
theorem act_classified_of_isTerminal (op : Operation) (ended : p.state.isTerminal) (classified : p.Classified) :
    wp (op.act host.recorded) (fun reply q => q.Classified ∧ ∀ outcome, reply ≠ .ended outcome)
      (fun _ q => q.Classified) p := by
  cases op with
  | poll =>
    obtain ⟨e, exit⟩ := classified.exit ended
    have kept {q : Supervised (Recorded σ)} (tells : p.handle.Tells q.handle []) (moves : p.Moves q) :
        q.Classified := by
      have same : q.handle = p.handle := tells.settled e exit
      exact classified.of_same (moves.state.eq_of_isTerminal ended) (by rw [same]) (by rw [calls, same, calls])
    rw [Operation.act, wp_map]
    refine wp_mono (wp_and (poll_tells host p) (poll_moves p)) ?_ ?_
    · rintro _ q ⟨tells, moves, -⟩
      refine ⟨kept tells moves, fun outcome same => ?_⟩
      cases same
    · rintro _ q ⟨⟨tells, -⟩, moves, -⟩
      exact kept tells moves
  | sendSignal signal => rw [Operation.act, wp_map, wp_sendSignal_of_isTerminal ended]; exact classified
  | awaitTermination => rw [Operation.act, wp_map, wp_awaitTermination_of_isTerminal ended]; exact classified
  | terminate signal => rw [Operation.act, wp_map, wp_terminate_of_isTerminal ended]; exact classified
  | kill =>
    rw [Operation.act, wp_map, wp_kill_of_isTerminal ended]
    refine ⟨classified, fun outcome same => ?_⟩
    cases same

theorem act_classified (op : Operation) (classified : p.Classified) :
    wp (op.act host.recorded) (fun reply q => q.Classified ∧ ∀ outcome, reply = .ended outcome → q.EndedAs outcome)
      (fun _ q => q.Classified) p := by
  cases ended : p.state.isTerminal with
  | true =>
    refine wp_mono (act_classified_of_isTerminal op ended classified) ?_ fun _ _ classified => classified
    rintro _ _ ⟨classified, unended⟩
    exact ⟨classified, fun outcome same => absurd same (unended outcome)⟩
  | false =>
    have calm := classified.calm ended
    cases op with
    | poll =>
      rw [Operation.act, wp_map]
      refine wp_mono (poll_classified ended calm) ?_ fun _ _ h => h
      exact fun _ _ h => ⟨h.1, fun outcome same => by cases same⟩
    | sendSignal signal =>
      rw [Operation.act, wp_map]
      refine wp_mono (sendSignal_classified signal ended calm) ?_ fun _ _ h => h
      rintro _ _ ⟨live, calm⟩
      exact ⟨.live live calm, fun outcome same => by cases same⟩
    | awaitTermination =>
      rw [Operation.act, wp_map]
      refine wp_mono (awaitTermination_classified ended calm) ?_ fun _ _ h => h
      rintro outcome q ⟨classified, fits⟩
      exact ⟨classified, by rintro _ ⟨⟩; exact fits⟩
    | terminate signal =>
      rw [Operation.act, wp_map]
      refine wp_mono (terminate_classified signal ended calm) ?_ fun _ _ h => h
      rintro outcome q ⟨classified, fits⟩
      exact ⟨classified, by rintro _ ⟨⟩; exact fits⟩
    | kill =>
      rw [Operation.act, wp_map]
      refine wp_mono (kill_classified ended calm) ?_ fun _ _ h => h
      exact fun _ _ h => ⟨h.1, fun outcome same => by cases same⟩

theorem classified_after (classified : p.Classified) (events : List (Event σ)) :
    (after host.recorded p (events.map .recorded)).Classified := by
  induction events generalizing p with
  | nil => exact classified
  | cons event rest ih =>
    refine ih ?_
    cases event with
    | operation op =>
      exact of_wp (R := fun _ q => q.Classified)
        (wp_mono (act_classified op classified) (fun _ _ h => h.1) fun _ _ h => h)
    | meanwhile f => exact classified.of_same rfl rfl rfl

/-- From a launch on, an end with an exit code is recorded as forced just if the kill after a wait in vain has
reaped it. A kill of the owner's records it as the child's own, and a reply that reports a killed process
reports a kill after a wait in vain, with an exit code or not. -/
theorem end_with_code_is_forced_iff_escalated {store : CredentialStore} {config : ProcessConfig} {run : Bool}
    {world : σ} {p₀ : Supervised σ} (launched : launch host store config run world = .ok p₀)
    (past : List (Event σ)) :
    let p := after host p₀ past
    let r := after host.recorded p₀.recording (past.map .recorded)
    r.plain = p ∧
      (∀ e, p.handle.exit = some e → e.code?.isSome → p.state.isTerminal →
        p.state = if r.escalation? = some e then .killed else .terminated) ∧
      (∀ e, r.escalation? = some e → p.state = .killed ∧ p.handle.exit = some e) ∧
      (∀ q, p.state.isTerminal = false → (kill host.recorded).run.run r = (.ok (), q) →
        ∃ e, q.handle.exit = some e ∧ (e.code?.isSome → q.state = .terminated)) ∧
      ∀ (op : Operation) outcome q, (op.act host.recorded).run.run r = (.ok (.ended outcome), q) →
        q.EndedAs outcome := by
  intro p r
  have plain : r.plain = p := plain_after host p₀.recording past
  have exit : r.handle.exit = p.handle.exit := by rw [← plain]; rfl
  have state : r.state = p.state := by rw [← plain]; rfl
  have classified : r.Classified := by
    refine classified_after (.live ?_ (.of_log rfl rfl rfl)) past
    show p₀.state.isTerminal = false
    rw [(fresh_of_launch launched).1]
    rfl
  rw [← exit, ← state]
  refine ⟨plain, fun e known code ended => classified.state_of_code ended known code,
    fun e => classified.of_escalation, fun q live ran => ?_, fun op outcome q ran => ?_⟩
  · have kills : wp (kill host.recorded) _ _ r := kill_classified live (classified.calm live)
    have killed := ok_of_wp kills (by rw [ran])
    rw [ran] at killed
    obtain ⟨classified, ended, none⟩ := killed
    obtain ⟨e, known⟩ := classified.exit ended
    refine ⟨e, known, fun code => ?_⟩
    rw [classified.state_of_code ended known code, none]
    rfl
  · have acts : wp (op.act host.recorded) _ _ r := act_classified op classified
    have replied := ok_of_wp acts (by rw [ran])
    rw [ran] at replied
    exact replied.2 outcome rfl

end Supervised

namespace Stage

/-- A wait in vain that comes back late. -/
def belatedly (late timeout : Duration) (s : Stage) : Except OsError (Option Exit) × Stage :=
  match s.await timeout with
  | (some e, t) => (.ok (some e), t)
  | (none, t) => (.ok none, t.pause late)

end Stage

namespace Supervised

def hurried : ProcessConfig :=
  { binary := [97], termination := { attempts := 1, pollInterval := .ofMillis 100 } }

/-- The owner ends the process with a signal and waits for it. -/
def terminated : List (Event Stage) := [.operation (.terminate .terminate)]

theorem terminated_by_end_in_time :
    ∃ p₀ : Supervised Stage,
      launch Stage.host {} hurried true (Stage.lingeringStage (.ofMillis 99)) = .ok p₀ ∧
        (after Stage.host p₀ terminated).handle.exit = some (.code 0) ∧
        (after Stage.host p₀ terminated).state = .terminated := by
  obtain ⟨p₀, launched, exit, ended, calm⟩ : ∃ p₀ : Supervised Stage,
      launch Stage.host {} hurried true (Stage.lingeringStage (.ofMillis 99)) = .ok p₀ ∧
        (after Stage.host p₀ terminated).handle.exit = some (.code 0) ∧
        (after Stage.host p₀ terminated).state.isTerminal ∧
        (after Stage.host.recorded p₀.recording (terminated.map .recorded)).escalation? = none :=
    ⟨_, rfl, rfl, rfl, rfl⟩
  have state := (end_with_code_is_forced_iff_escalated launched terminated).2.1 _ exit rfl ended
  rw [calm] at state
  exact ⟨p₀, launched, exit, state⟩

/-- A child that ends with an exit code after its budget is used up, before a late wait comes back: the kill
that follows the wait records a killed process, where the owner's kill records one that has terminated. -/
theorem one_end_is_recorded_in_two_ways : ∃ p₀ : Supervised Stage,
    launch (Stage.hostWith (Stage.belatedly (.ofMillis 14))) {} hurried true
        (Stage.lingeringStage (.ofMillis 107)) = .ok p₀ ∧
      let host := Stage.hostWith (Stage.belatedly (.ofMillis 14))
      let escalated := after host p₀ terminated
      let killed := after host p₀ [.operation (.sendSignal .terminate),
        .meanwhile (Stage.pause (.ofMillis 114)), .operation .kill]
      (escalated.handle.exit = some (.code 0) ∧ escalated.state = .killed) ∧
        ((terminate host .terminate).run.run p₀).1 = .ok (.killed (.ofMillis 114)) ∧
        killed.handle.exit = some (.code 0) ∧ killed.state = .terminated :=
  ⟨_, rfl, ⟨rfl, rfl⟩, rfl, rfl, rfl⟩

end Supervised

end GracefulDrain
