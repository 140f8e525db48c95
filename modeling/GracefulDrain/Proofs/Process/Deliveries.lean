import GracefulDrain.Proofs.Process.Record

/-! # Which signals a supervisor issues

Over a whole run, the call that reports the exit of the child is the last call of all, so that no signal
reaches a child that has been reaped. `Tells` says what an act of a handle adds to the record: nothing once
the exit is known, and otherwise the signals it lists. -/

namespace GracefulDrain

/-- Once a call has reported the exit of the child, no call is made. -/
def SilentOnceEnded (calls : List Call) : Prop :=
  ∀ before call after, calls = before ++ call :: after → call.exit?.isSome → after = []

/-- `exit` has been reported by the last of `calls`, or by none of them if it is unknown. -/
def Heard : Option Exit → List Call → Prop
  | none, calls => ∀ c ∈ calls, c.exit? = none
  | some e, calls => ∃ before last, calls = before ++ [last] ∧ last.exit? = some e ∧ ∀ c ∈ before, c.exit? = none

namespace Heard
variable {exit : Option Exit} {calls : List Call}

theorem append (h : Heard none calls) (c : Call) : Heard c.exit? (calls ++ [c]) := by
  cases hc : c.exit? with
  | none =>
    intro d hd
    rcases List.mem_append.1 hd with hd | hd
    · exact h d hd
    · rw [List.mem_singleton.1 hd, hc]
  | some e => exact ⟨calls, c, rfl, hc, h⟩

theorem findSome? (h : Heard exit calls) : calls.findSome? Call.exit? = exit := by
  cases exit with
  | none => exact List.findSome?_eq_none_iff.2 h
  | some e =>
    obtain ⟨before, last, rfl, hl, hb⟩ := h
    rw [List.findSome?_append, List.findSome?_eq_none_iff.2 hb]
    simp [hl]

theorem silent (h : Heard exit calls) : SilentOnceEnded calls := by
  rintro before call after rfl ended
  have unheard (hc : call.exit? = none) : after = [] := by rw [hc] at ended; cases ended
  cases exit with
  | none => exact unheard (h call (by simp))
  | some e =>
    obtain ⟨front, last, same, -, hf⟩ := h
    -- any call before the last one is of those that reported nothing
    cases hn : after.reverse with
    | nil => simpa using hn
    | cons x xs =>
      rw [List.reverse_eq_cons_iff] at hn
      rw [hn, ← List.cons_append, ← List.append_assoc] at same
      have := (List.append_inj' same rfl).1
      exact unheard (hf call (by rw [← this]; simp))

end Heard

namespace Handle
variable {σ : Type} {host : Host σ} {h h' h'' : Handle (Recorded σ)} {issued issued' : List Call}

/-- The signals issued so far. -/
def signals (h : Handle (Recorded σ)) : List Call := h.world.calls.filter Call.isSignal

/-- What an act does that turns `h` into `h'` and issues the signals `issued`: nothing at all once the exit
is known. -/
structure Tells (h h' : Handle (Recorded σ)) (issued : List Call) : Prop where
  settled : ∀ e, h.exit = some e → h' = h
  heard : Heard h.exit h.world.calls → Heard h'.exit h'.world.calls
  signals : h'.signals = h.signals ++ issued

namespace Tells

theorem refl (h : Handle (Recorded σ)) : h.Tells h [] := ⟨fun _ _ => rfl, id, by simp⟩

theorem trans (t : h.Tells h' issued) (t' : h'.Tells h'' issued') : h.Tells h'' (issued ++ issued') := by
  refine ⟨fun e he => ?_, fun heard => t'.heard (t.heard heard), ?_⟩
  · have same := t.settled e he
    rw [same] at t'
    exact t'.settled e he
  · rw [t'.signals, t.signals, List.append_assoc]

/-- One call to the host, after which the handle knows just what the call reported. -/
theorem call {c : Call} {w : Recorded σ} (unknown : h.exit = none) (calls : w.calls = h.world.calls ++ [c])
    (world : h'.world = w) (exit : h'.exit = c.exit?) : h.Tells h' ([c].filter Call.isSignal) := by
  subst world
  refine ⟨fun e he => ?_, fun heard => ?_, ?_⟩
  · rw [unknown] at he; cases he
  · rw [unknown] at heard
    rw [exit, calls]
    exact heard.append c
  · rw [Handle.signals, calls, List.filter_append]
    rfl

theorem poll {answer : Except OsError (Option Exit)} {w : Recorded σ} (unknown : h.exit = none)
    (polled : host.recorded.poll h.world = (answer, w)) (world : h'.world = w)
    (exit : h'.exit = (Call.poll answer).exit?) : h.Tells h' [] :=
  call unknown (Recorded.calls_of_call polled) world exit

theorem await {timeout : Duration} {answer : Except OsError (Option Exit)} {w : Recorded σ}
    (unknown : h.exit = none) (awaited : host.recorded.await timeout h.world = (answer, w))
    (world : h'.world = w) (exit : h'.exit = (Call.await timeout answer).exit?) : h.Tells h' [] :=
  call unknown (Recorded.calls_of_call awaited) world exit

theorem signal {signal : TermSignal} {answer : Except OsError Unit} {w : Recorded σ}
    (unknown : h.exit = none) (signalled : host.recorded.signal signal h.world = (answer, w))
    (world : h'.world = w) (exit : h'.exit = none) : h.Tells h' [.signal signal answer] :=
  call unknown (Recorded.calls_of_call signalled) world exit

theorem forceKill {answer : KillAnswer} {w : Recorded σ} (unknown : h.exit = none)
    (forced : host.recorded.forceKill h.world = (answer, w)) (world : h'.world = w) (exit : h'.exit = none) :
    h.Tells h' [.forceKill answer] :=
  call unknown (Recorded.calls_of_call forced) world exit

theorem reap {answer : Except OsError Exit} {w : Recorded σ} (unknown : h.exit = none)
    (reaped : host.recorded.reap h.world = (answer, w)) (world : h'.world = w)
    (exit : h'.exit = (Call.reap answer).exit?) : h.Tells h' [] :=
  call unknown (Recorded.calls_of_call reaped) world exit

end Tells

theorem poll_tells :
    wp (poll host.recorded) (fun r h' => h.Tells h' [] ∧ h'.exit = r)
      (fun f h' => h.Tells h' [] ∧ ∃ reason, f = .io reason) h :=
  wp_poll (fun _ he => ⟨.refl h, he⟩) (fun hx _ _ hp => ⟨.poll hx hp rfl rfl, rfl⟩)
    (fun hx _ hp => ⟨.poll hx hp rfl hx, hx⟩) fun hx reason _ hp => ⟨.poll hx hp rfl hx, reason, rfl⟩

/-- A signal is delivered, or refused by the host, or not issued at all. -/
theorem sendSignal_tells (signal : TermSignal) :
    wp (sendSignal host.recorded signal) (fun _ h' => h.Tells h' [.signal signal (.ok ())])
      (fun f h' => h.Tells h' [] ∨ ∃ reason, f = .io reason ∧ h.Tells h' [.signal signal (.error reason)]) h := by
  refine wp_sendSignal (fun _ _ => .inl (.refl h)) (fun hx _ _ hp => .inl (.poll hx hp rfl rfl))
    (fun hx _ _ hp => .inl (.poll hx hp rfl hx)) ?_ ?_
  · intro hx w w' hp hs
    have polled : h.Tells { h with world := w } [] := .poll hx hp rfl hx
    exact polled.trans (.signal hx hs rfl hx)
  · intro hx w reason w' hp hs
    have polled : h.Tells { h with world := w } [] := .poll hx hp rfl hx
    exact .inr ⟨reason, rfl, polled.trans (.signal hx hs rfl hx)⟩

theorem waitFor_tells (timeout : Duration) (wait : Wait) :
    wp (waitFor host.recorded timeout wait) (fun _ h' => h.Tells h' []) (fun _ h' => h.Tells h' []) h :=
  wp_waitFor (fun _ _ => .refl h) (fun hx _ _ hw => .await hx hw rfl rfl)
    (fun hx _ _ hw => .await hx hw rfl hx) fun hx _ _ hw => .await hx hw rfl hx

/-- `issued` is one forced kill at most. -/
def ForcedAtMostOnce (issued : List Call) : Prop := issued = [] ∨ ∃ answer, issued = [.forceKill answer]

/-- A forced kill of a child that has been found alive. -/
theorem forced {w w' : Recorded σ} {answer : KillAnswer} (unknown : h.exit = none)
    (polled : host.recorded.poll h.world = (.ok none, w)) (killed : host.recorded.forceKill w = (answer, w')) :
    h.Tells { h with world := w' } [.forceKill answer] := by
  have alive : h.Tells { h with world := w } [] := .poll unknown polled rfl unknown
  exact alive.trans (.forceKill unknown killed rfl unknown)

theorem kill_tells :
    wp (kill host.recorded) (fun _ h' => ∃ issued, h.Tells h' issued ∧ ForcedAtMostOnce issued)
      (fun _ h' => ∃ issued, h.Tells h' issued ∧ ForcedAtMostOnce issued) h := by
  refine wp_kill (fun _ _ => ⟨[], .refl h, .inl rfl⟩)
    (fun hx _ _ hp => ⟨[], .poll hx hp rfl rfl, .inl rfl⟩)
    (fun hx _ _ hp => ⟨[], .poll hx hp rfl hx, .inl rfl⟩) ?_ ?_ ?_
  · intro hx w reason w' hp hk
    exact ⟨_, forced hx hp hk, .inr ⟨_, rfl⟩⟩
  · intro hx w answer w' e w'' hp hk hr
    exact ⟨_, (forced hx hp hk).trans (.reap hx hr rfl rfl), .inr ⟨answer, rfl⟩⟩
  · intro hx w answer w' reason w'' hp hk hr
    exact ⟨_, (forced hx hp hk).trans (.reap hx hr rfl hx), .inr ⟨answer, rfl⟩⟩

end Handle

namespace Supervised
variable {σ : Type} {host : Host σ} {p q : Supervised (Recorded σ)} {issued : List Call}

/-- The signals issued so far. -/
def signals (p : Supervised (Recorded σ)) : List Call := p.handle.signals

open Handle (ForcedAtMostOnce)

theorem poll_tells (host : Host σ) (p : Supervised (Recorded σ)) :
    wp (poll host.recorded) (fun _ q => p.handle.Tells q.handle [])
      (fun f q => p.handle.Tells q.handle [] ∧ ∃ reason, f = .io reason) p := by
  rw [wp_poll]
  exact wp_mono Handle.poll_tells (fun _ _ h => h.1) fun _ _ h => h

theorem sendSignal_tells (host : Host σ) (signal : TermSignal) (p : Supervised (Recorded σ)) :
    wp (sendSignal host.recorded signal) (fun _ q => p.handle.Tells q.handle [.signal signal (.ok ())])
      (fun f q => p.handle.Tells q.handle [] ∨
        ∃ reason, f = .io reason ∧ p.handle.Tells q.handle [.signal signal (.error reason)]) p := by
  cases live : p.state.isTerminal with
  | true => rw [wp_sendSignal_of_isTerminal live]; exact .inl (.refl _)
  | false =>
    rw [wp_sendSignal live]
    refine wp_mono (poll_tells host p) ?_ fun _ _ h => .inl h.1
    intro r q polled
    split
    · exact .inl polled
    · refine wp_mono (Handle.sendSignal_tells signal) (fun _ h tells => polled.trans tells) ?_
      rintro f h (tells | ⟨reason, rfl, tells⟩)
      · exact .inl (polled.trans tells)
      · exact .inr ⟨reason, rfl, polled.trans tells⟩

theorem awaitTermination_tells (host : Host σ) (p : Supervised (Recorded σ)) :
    wp (awaitTermination host.recorded)
      (fun _ q => ∃ issued, p.handle.Tells q.handle issued ∧ ForcedAtMostOnce issued)
      (fun _ q => ∃ issued, p.handle.Tells q.handle issued ∧ ForcedAtMostOnce issued) p := by
  cases live : p.state.isTerminal with
  | true => rw [wp_awaitTermination_of_isTerminal live]; exact ⟨[], .refl _, .inl rfl⟩
  | false =>
    rw [wp_awaitTermination live]
    refine wp_mono (Handle.waitFor_tells _ _) (fun _ h waited => ⟨[], waited, .inl rfl⟩) ?_
    intro f h waited
    split
    · refine wp_mono Handle.kill_tells ?_ ?_ <;>
        rintro _ _ ⟨issued, tells, forced⟩ <;> exact ⟨issued, waited.trans tells, forced⟩
    · exact ⟨[], waited, .inl rfl⟩

/-- `issued` is one termination signal at most and then one forced kill at most. -/
def SignalledThenForced (signal : TermSignal) (issued : List Call) : Prop :=
  ∃ sent forced, issued = sent ++ forced ∧ (sent = [] ∨ ∃ answer, sent = [.signal signal answer]) ∧
    ForcedAtMostOnce forced

theorem terminate_tells (host : Host σ) (signal : TermSignal) (p : Supervised (Recorded σ)) :
    wp (terminate host.recorded signal)
      (fun _ q => ∃ issued, p.handle.Tells q.handle issued ∧ SignalledThenForced signal issued)
      (fun _ q => ∃ issued, p.handle.Tells q.handle issued ∧ SignalledThenForced signal issued) p := by
  have quiet : SignalledThenForced signal [] := ⟨[], [], rfl, .inl rfl, .inl rfl⟩
  cases live : p.state.isTerminal with
  | true => rw [wp_terminate_of_isTerminal live]; exact ⟨[], .refl _, quiet⟩
  | false =>
    rw [wp_terminate live]
    refine wp_mono (poll_tells host p) ?_ fun _ _ h => ⟨[], h.1, quiet⟩
    intro r q polled
    cases r with
    | some code => exact ⟨[], polled, quiet⟩
    | none =>
      refine wp_mono (sendSignal_tells host signal q) ?_ ?_
      · intro _ q' told
        have signalled := polled.trans told
        refine wp_mono (awaitTermination_tells host q') ?_ ?_ <;>
          rintro _ _ ⟨issued, tells, forced⟩ <;>
          exact ⟨_, signalled.trans tells, _, issued, rfl, .inr ⟨_, rfl⟩, forced⟩
      · rintro f q' (told | ⟨reason, -, told⟩)
        · exact ⟨[], polled.trans told, quiet⟩
        · exact ⟨_, polled.trans told, _, [], rfl, .inr ⟨_, rfl⟩, .inl rfl⟩

theorem kill_tells (host : Host σ) (p : Supervised (Recorded σ)) :
    wp (kill host.recorded) (fun _ q => ∃ issued, p.handle.Tells q.handle issued)
      (fun _ q => ∃ issued, p.handle.Tells q.handle issued) p := by
  cases live : p.state.isTerminal with
  | true => rw [wp_kill_of_isTerminal live]; exact ⟨[], .refl _⟩
  | false =>
    rw [wp_kill live]
    refine wp_mono (poll_tells host p) ?_ fun _ _ h => ⟨[], h.1⟩
    intro r q polled
    split
    · exact ⟨[], polled⟩
    · refine wp_mono Handle.kill_tells ?_ ?_ <;>
        rintro _ _ ⟨issued, tells, -⟩ <;> exact ⟨issued, polled.trans tells⟩

theorem act_tells (host : Host σ) (op : Operation) (p : Supervised (Recorded σ)) :
    wp (op.act host.recorded) (fun _ q => ∃ issued, p.handle.Tells q.handle issued)
      (fun _ q => ∃ issued, p.handle.Tells q.handle issued) p := by
  cases op <;> rw [Operation.act, wp_map]
  case poll => exact wp_mono (poll_tells host p) (fun _ _ h => ⟨_, h⟩) fun _ _ h => ⟨_, h.1⟩
  case sendSignal signal =>
    refine wp_mono (sendSignal_tells host signal p) (fun _ _ h => ⟨_, h⟩) ?_
    rintro _ _ (told | ⟨_, _, told⟩) <;> exact ⟨_, told⟩
  case awaitTermination =>
    refine wp_mono (awaitTermination_tells host p) ?_ ?_ <;>
      rintro _ _ ⟨_, told, -⟩ <;> exact ⟨_, told⟩
  case terminate signal =>
    refine wp_mono (terminate_tells host signal p) ?_ ?_ <;>
      rintro _ _ ⟨_, told, -⟩ <;> exact ⟨_, told⟩
  case kill => exact kill_tells host p

theorem stopped_tells (host : Host σ) (p : Supervised (Recorded σ)) :
    ∃ issued, p.handle.Tells (stopped host.recorded p).handle issued := by
  unfold stopped
  split
  · exact ⟨[], .refl _⟩
  · have told : ∃ issued, p.handle.Tells
        ((terminate host.recorded shutdownSignal).run.run p).2.handle issued := by
      refine of_wp (R := fun _ q => ∃ issued, p.handle.Tells q.handle issued)
        (wp_mono (terminate_tells host _ p) ?_ ?_) <;>
        rintro _ _ ⟨_, told, -⟩ <;> exact ⟨_, told⟩
    rcases ht : (terminate host.recorded shutdownSignal).run.run p with ⟨_ | _, q⟩ <;> rw [ht] at told
    · obtain ⟨issued, told⟩ := told
      obtain ⟨issued', told'⟩ := of_wp (R := fun _ (r : Supervised _) => ∃ issued, q.handle.Tells r.handle issued)
        (kill_tells host q)
      exact ⟨_, told.trans told'⟩
    · exact told

/-! ### Whole runs -/

/-- A process with a record that is still empty. -/
def recording {σ : Type} (p : Supervised σ) : Supervised (Recorded σ) :=
  { p with handle := { p.handle with world := { world := p.handle.world } } }

/-- What is known of the exit is what the calls have reported. -/
def IsHeard (p : Supervised (Recorded σ)) : Prop := Heard p.handle.exit p.calls

theorem heard_after (h : p.IsHeard) (events : List (Event σ)) :
    (after host.recorded p (events.map .recorded)).IsHeard := by
  induction events generalizing p with
  | nil => exact h
  | cons event rest ih =>
    refine ih ?_
    cases event with
    | operation op =>
      refine of_wp (R := fun _ q => q.IsHeard) (wp_mono (act_tells host op p) ?_ ?_) <;>
        rintro _ _ ⟨_, told⟩ <;> exact told.heard h
    | meanwhile f => exact h

theorem heard_of_launch {store : CredentialStore} {config : ProcessConfig} {run : Bool} {world : σ}
    {p₀ : Supervised σ} (launched : launch host store config run world = .ok p₀) (events : List (Event σ)) :
    (after host.recorded p₀.recording (events.map .recorded)).IsHeard := by
  refine heard_after ?_ events
  rw [IsHeard, show p₀.recording.handle.exit = none from (fresh_of_launch launched).2]
  exact fun c hc => absurd hc (by simp [calls, recording])

/-- Once the exit is known, a run makes no call. -/
theorem calls_after_of_exit {e : Exit} (known : p.handle.exit = some e) (events : List (Event σ)) :
    (after host.recorded p (events.map .recorded)).calls = p.calls := by
  induction events generalizing p with
  | nil => rfl
  | cons event rest ih =>
    cases event with
    | operation op =>
      have same : (step host.recorded p (.operation op)).handle = p.handle := by
        refine of_wp (R := fun _ q => q.handle = p.handle) (wp_mono (act_tells host op p) ?_ ?_) <;>
          rintro _ _ ⟨_, told⟩ <;> exact told.settled e known
      refine (ih (p := step host.recorded p (.operation op)) (by rw [same, known])).trans ?_
      rw [calls, same, calls]
    | meanwhile f => exact ih (p := step host.recorded p (Event.meanwhile f).recorded) known

theorem heard_shutdown (h : p.IsHeard) : ((shutdown host.recorded).run p).2.IsHeard := by
  obtain ⟨issued, told⟩ := stopped_tells host p
  rw [run_shutdown]
  exact told.heard h

theorem silent_abandon (h : p.IsHeard) : SilentOnceEnded (abandon host.recorded p).calls := by
  unfold abandon
  split
  · exact h.silent
  · unfold Handle.abandon
    cases hx : p.handle.exit with
    | some e => exact h.silent
    | none =>
      rw [IsHeard, hx] at h
      exact (h.append (.forceKill (host.forceKill p.handle.world.world).1)).silent

/-- From a launch on, no signal is issued after a call has reported the exit of the child, whatever the owner
does, a shutdown and an abandonment included; in particular none is once the exit is recorded or the process
has ended. An ended process refuses every operation that needs a live one, and nothing changes. A signal that
is sent is delivered once, one that is refused for want of a live process is not issued, and a termination
issues one signal at most and then one forced kill at most. -/
theorem no_signal_after_the_end {store : CredentialStore} {config : ProcessConfig} {run : Bool}
    {world : σ} {p₀ : Supervised σ} (launched : launch host store config run world = .ok p₀)
    (past future : List (Event σ)) (signal : TermSignal) :
    let p := after host p₀ past
    let r := after host.recorded p₀.recording (past.map .recorded)
    let sending := (sendSignal host.recorded signal).run.run r
    let termination := (terminate host.recorded signal).run.run r
    r.plain = p ∧
      (r.calls.findSome? Call.exit? = p.handle.exit ∧ SilentOnceEnded r.calls ∧
        SilentOnceEnded ((shutdown host.recorded).run r).2.calls ∧
        SilentOnceEnded (abandon host.recorded r).calls) ∧
      (p.handle.exit.isSome ∨ p.state.isTerminal →
        (after host.recorded r (future.map .recorded)).calls = r.calls ∧
          ((shutdown host.recorded).run r).2.calls = r.calls ∧ (abandon host.recorded r).calls = r.calls) ∧
      (p.state.isTerminal →
        (sendSignal host signal).run.run p = (.error (.notRunning p.handle.pid p.state), p) ∧
          (awaitTermination host).run.run p = (.error (.notRunning p.handle.pid p.state), p) ∧
          (terminate host signal).run.run p = (.error (.notRunning p.handle.pid p.state), p) ∧
          (kill host).run.run p = (.ok (), p)) ∧
      (sending.1 = .ok () → sending.2.signals = r.signals ++ [.signal signal (.ok ())]) ∧
      (∀ pid state, sending.1 = .error (.notRunning pid state) → sending.2.signals = r.signals) ∧
      ∃ sent forced,
        termination.2.signals = r.signals ++ sent ++ forced ∧
          (sent = [] ∨ ∃ answer, sent = [.signal signal answer]) ∧
          (forced = [] ∨ ∃ answer, forced = [.forceKill answer]) := by
  intro p r sending termination
  have plain : r.plain = p := plain_after host p₀.recording past
  have exit : r.handle.exit = p.handle.exit := by rw [← plain]; rfl
  have heard : r.IsHeard := heard_of_launch launched past
  have accounted : p.Accounted := (moves_after host p₀ past).accounted (accounted_of_launch launched)
  refine ⟨plain, ⟨exit ▸ heard.findSome?, heard.silent, (heard_shutdown heard).silent, silent_abandon heard⟩,
    fun ended => ?_, fun ended => ?_, fun delivered => ?_, fun pid state refused => ?_, ?_⟩
  · have known : p.handle.exit.isSome := ended.elim id accounted
    obtain ⟨e, he⟩ := Option.isSome_iff_exists.1 known
    rw [← exit] at he
    refine ⟨calls_after_of_exit he future, ?_, ?_⟩
    · obtain ⟨issued, told⟩ := stopped_tells host r
      rw [run_shutdown, calls, Handle.drain, told.settled e he]
      rfl
    · unfold abandon Handle.abandon
      rw [he]
      split <;> rfl
  · exact ⟨run_of_wp (by rw [wp_sendSignal_of_isTerminal ended]; exact ⟨rfl, rfl⟩),
      run_of_wp (by rw [wp_awaitTermination_of_isTerminal ended]; exact ⟨rfl, rfl⟩),
      run_of_wp (by rw [wp_terminate_of_isTerminal ended]; exact ⟨rfl, rfl⟩),
      run_of_wp (by rw [wp_kill_of_isTerminal ended]; exact ⟨rfl, rfl⟩)⟩
  · exact (ok_of_wp (sendSignal_tells host signal r) delivered).signals
  · obtain told | ⟨_, other, -⟩ := error_of_wp (sendSignal_tells host signal r) refused
    · exact told.signals.trans (List.append_nil _)
    · cases other
  · obtain ⟨issued, told, sent, forced, rfl, one, atMostOne⟩ := of_wp
      (R := fun _ (s : Supervised _) => ∃ issued, r.handle.Tells s.handle issued ∧
        SignalledThenForced signal issued) (terminate_tells host signal r)
    exact ⟨sent, forced, by rw [List.append_assoc]; exact told.signals, one, atMostOne⟩

/-- An actor that the first signal ends gets no other one. -/
theorem no_signal_to_signalled_actor :
    ∃ p₀ : Supervised Stage,
      launch Stage.host {} { binary := [97] } true { cast := fun _ => .ok {} } = .ok p₀ ∧
        let p := after Stage.host p₀ [.operation (.terminate .interrupt)]
        let r := after Stage.host.recorded p₀.recording [.operation (.terminate .interrupt)]
        r.signals = [.signal .interrupt (.ok ())] ∧
          (∀ future : List (Event Stage),
            (after Stage.host.recorded r (future.map .recorded)).calls = r.calls) ∧
          (sendSignal Stage.host .terminate).run.run p = (.error (.notRunning 1 .terminated), p) := by
  obtain ⟨p₀, launched, state, pid, signals⟩ : ∃ p₀ : Supervised Stage,
      launch Stage.host {} { binary := [97] } true { cast := fun _ => .ok {} } = .ok p₀ ∧
        (after Stage.host p₀ [.operation (.terminate .interrupt)]).state = .terminated ∧
        (after Stage.host p₀ [.operation (.terminate .interrupt)]).handle.pid = 1 ∧
        (after Stage.host.recorded p₀.recording [.operation (.terminate .interrupt)]).signals =
          [.signal .interrupt (.ok ())] := ⟨_, rfl, rfl, rfl, rfl⟩
  have ended : (after Stage.host p₀ [.operation (.terminate .interrupt)]).state.isTerminal := by rw [state]; rfl
  have law future := no_signal_after_the_end launched [.operation (.terminate .interrupt)] future .terminate
  refine ⟨p₀, launched, signals, fun future => ((law future).2.2.1 (.inr ended)).1, ?_⟩
  have refused := ((law []).2.2.2.1 ended).1
  rwa [state, pid] at refused

end Supervised

end GracefulDrain
