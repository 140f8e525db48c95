import GracefulDrain.Stream.Events
import GracefulDrain.Stream.Session

/-! # The chunks of an event stream

Over a whole reading, an event stream yields events with consecutive numbers, then, once a signal has come,
the sentinel unless it drops its readers, and then nothing for ever. `Yields` is what one request can bring.
`Told` is the invariant between two steps of a reading: the chunks so far are just those of the events sent
and of the end, and whatever the stream has made of a signal, the signal has come. Each step keeps it
(`Told.step`), hence each run does (`Told.run`). -/

namespace GracefulDrain

/-- A signal has come by `now`. -/
def HasCome (signal : Option Nat) (now : Nat) : Prop := ∃ time, signal = some time ∧ time ≤ now

theorem HasCome.mono {signal : Option Nat} {now later : Nat} (h : HasCome signal now) (le : now ≤ later) :
    HasCome signal later := by
  obtain ⟨time, come, before⟩ := h
  exact ⟨time, come, Nat.le_trans before le⟩

namespace Session
variable {β τ : Type} {next : τ → Option Nat → Nat → β → Option String × Nat × β} {s : Session β}

/-- The chunks that a reader gets by `steps`, in order, and where they lead. -/
def run (next : τ → Option Nat → Nat → β → Option String × Nat × β) (s : Session β) :
    List (ReadStep τ) → List (Option String) × Session β
  | [] => ([], s)
  | step :: steps =>
    let (chunk, t) := s.step next step
    let (chunks, u) := run next t steps
    (chunk.toList ++ chunks, u)

theorem run_cons (step : ReadStep τ) (steps : List (ReadStep τ)) :
    s.run next (step :: steps) =
      ((s.step next step).1.toList ++ ((s.step next step).2.run next steps).1,
        ((s.step next step).2.run next steps).2) := rfl

/-- Only a signal changes what signal there is. -/
theorem signal_of_step {step : ReadStep τ} (other : ∀ after, step ≠ .signal after) :
    (s.step next step).2.signal = s.signal := by
  -- the new time becomes a variable, for the kernel would compute with its million
  cases step with
  | signal after => exact absurd rfl (other after)
  | next ties =>
    show ({ s with clock := ceilMillis (next ties s.signal s.clock s.body).2.1 * 1_000_000, body := _ } :
      Session β).signal = s.signal
    generalize ceilMillis (next ties s.signal s.clock s.body).2.1 * 1_000_000 = later
    rfl
  | sleep ms =>
    show ({ s with clock := s.clock + ms * 1_000_000 } : Session β).signal = s.signal
    generalize s.clock + ms * 1_000_000 = later
    rfl

/-- Whoever is signalled in the end has been signalled on the way. -/
theorem signal_of_run {steps : List (ReadStep τ)} (unsignalled : s.signal = none)
    (signalled : (s.run next steps).2.signal ≠ none) : ∃ after, ReadStep.signal after ∈ steps := by
  induction steps generalizing s with
  | nil => exact absurd unsignalled signalled
  | cons step steps ih =>
    rw [run_cons] at signalled
    by_cases isSignal : ∃ after, step = .signal after
    · obtain ⟨after, rfl⟩ := isSignal
      exact ⟨after, List.mem_cons_self⟩
    · have same : (s.step next step).2.signal = s.signal :=
        signal_of_step fun after isStep => isSignal ⟨after, isStep⟩
      obtain ⟨after, later⟩ := ih (same.trans unsignalled) signalled
      exact ⟨after, List.mem_cons_of_mem _ later⟩

end Session

theorem le_ceilMillis (nanos : Nat) : nanos ≤ ceilMillis nanos * 1_000_000 := by
  unfold ceilMillis
  omega

namespace EventStream
variable {s : EventStream} {signal : Option Nat} {now : Nat}

theorem max_le_of_comesFirst {a b : Nat} {tie : Bool} (first : comesFirst now a b tie = true) :
    max now a ≤ max now b := by
  simp only [comesFirst, Bool.or_eq_true, Bool.and_eq_true, decide_eq_true_eq, beq_iff_eq] at first
  omega

theorem max_le_of_not_comesFirst {a b : Nat} {tie : Bool} (first : ¬ comesFirst now a b tie = true) :
    max now b ≤ max now a := by
  simp only [comesFirst, Bool.or_eq_true, decide_eq_true_eq] at first
  omega

/-- The events from the first to number `n`. -/
def numbered (n : Nat) : List (Option String) := (List.range n).map fun i => some (eventText (i + 1))

/-- The chunk with which a stream ends: the sentinel, or none if it drops its readers. -/
def closing (dropOnSignal : Bool) : Option String := if dropOnSignal then none else some sentinelText

theorem numbered_succ (n : Nat) : numbered (n + 1) = numbered n ++ [some (eventText (n + 1))] := by
  rw [numbered, List.range_succ, List.map_append]
  rfl

/-- What a request can bring: a chunk, and the stream behind it. -/
inductive Yields (s : EventStream) : Option String → EventStream → Prop
  | silence (isDone : s.isDone = true) : s.Yields none s
  | event {s' : EventStream} (going : s.isDone = false) (still : s'.isDone = false)
      (sent : s'.sent = s.sent + 1) (drop : s'.dropOnSignal = s.dropOnSignal) :
      s.Yields (some (eventText (s.sent + 1))) s'
  | ending {s' : EventStream} {chunk : Option String} (last : chunk = closing s.dropOnSignal)
      (going : s.isDone = false) (isDone : s'.isDone = true) (sent : s'.sent = s.sent)
      (drop : s'.dropOnSignal = s.dropOnSignal) : s.Yields chunk s'

/-- A stream has set its deadline or ended only because of a signal that has come, and it sets no deadline if it
drops its readers. -/
structure Heeds (s : EventStream) (signal : Option Nat) (now : Nat) : Prop where
  come : s.deadline.isSome ∨ s.isDone → HasCome signal now
  drains : s.deadline.isSome → s.dropOnSignal = false

/-- What a request made at `now` brings, and that it takes its time forward. -/
structure Answers (s : EventStream) (signal : Option Nat) (now : Nat) (r : Option String × Nat × EventStream) :
    Prop where
  yields : s.Yields r.1 r.2.2
  later : now ≤ r.2.1
  heeds : r.2.2.Heeds signal r.2.1

theorem Heeds.answers_event (h : s.Heeds signal now) (going : s.isDone = false) :
    s.Answers signal now (s.event now) := by
  have later : now ≤ max now s.due := Nat.le_max_left _ _
  exact ⟨.event going going rfl rfl, later, fun set => (h.come set).mono later, h.drains⟩

theorem Heeds.answers_drain (h : s.Heeds signal now) (ties : Ties) (deadline : Nat) (going : s.isDone = false)
    (keeps : s.dropOnSignal = false) (come : HasCome signal now) :
    s.Answers signal now (s.drain ties deadline now) := by
  unfold drain
  split
  · exact h.answers_event going
  · have later : now ≤ max now deadline := Nat.le_max_left _ _
    have last : some sentinelText = closing s.dropOnSignal := by rw [keeps]; rfl
    exact ⟨.ending last going rfl rfl rfl, later, fun _ => come.mono later, fun _ => keeps⟩

/-- The answer of a stream that has just set its deadline is one of the stream before. -/
theorem Answers.of_deadline {deadline : Option Nat} {noticed : Nat} {r : Option String × Nat × EventStream}
    (h : ({ s with deadline } : EventStream).Answers signal noticed r) (going : s.isDone = false)
    (later : now ≤ noticed) : s.Answers signal now r := by
  obtain ⟨chunk, time, s'⟩ := r
  obtain ⟨yields, after, heeds⟩ := h
  refine ⟨?_, Nat.le_trans later after, heeds⟩
  cases yields with
  | silence isDone =>
    rw [show s.isDone = true from isDone] at going
    cases going
  | event _ still sent drop => exact .event going still sent drop
  | ending last _ isDone sent drop => exact .ending last going isDone sent drop

theorem Heeds.answers_next (h : s.Heeds signal now) (ties : Ties) :
    s.Answers signal now (s.next ties signal now) := by
  unfold EventStream.next
  by_cases isDone : s.isDone = true
  · rw [if_pos isDone]
    exact ⟨.silence isDone, Nat.le_refl _, h⟩
  have going : s.isDone = false := by simpa using isDone
  rw [if_neg isDone]
  split
  · next deadline set =>
    have armed : s.deadline.isSome := by rw [set]; rfl
    exact h.answers_drain ties deadline going (h.drains armed) (h.come (.inl armed))
  · exact h.answers_event going
  · next signal unset =>
    split
    · exact h.answers_event going
    · have later : now ≤ max now signal := Nat.le_max_left _ _
      have come : HasCome (some signal) (max now signal) := ⟨signal, rfl, Nat.le_max_right _ _⟩
      by_cases drop : s.dropOnSignal = true
      · have last : none = closing s.dropOnSignal := by rw [drop]; rfl
        rw [if_pos drop]
        refine ⟨.ending last going rfl rfl rfl, later, fun _ => come, fun armed => ?_⟩
        have armed : s.deadline.isSome := armed
        rw [unset] at armed
        cases armed
      · -- from the signal on, the request is one of a stream whose deadline is set
        have keeps : s.dropOnSignal = false := by simpa using drop
        have noticed : ({ s with deadline := some (max now signal + s.grace.nanos) } : EventStream).Heeds
            (some signal) (max now signal) := ⟨fun _ => come, fun _ => keeps⟩
        rw [if_neg drop]
        exact (noticed.answers_drain ties _ going keeps come).of_deadline going later

/-- One request of a reader. -/
def request (ties : Ties) (signal : Option Nat) (now : Nat) (s : EventStream) : Option String × Nat × EventStream :=
  s.next ties signal now

end EventStream

/-! ### Whole readings -/

namespace EventStream
open Session
variable {s : Session EventStream} {drop : Bool} {chunks : List (Option String)}

/-- `chunks` is what a reader has got so far who has come to `s`. -/
structure Told (drop : Bool) (s : Session EventStream) (chunks : List (Option String)) : Prop where
  same : s.body.dropOnSignal = drop
  heeds : s.body.Heeds s.signal s.clock
  going : s.body.isDone = false → chunks = numbered s.body.sent
  ended : s.body.isDone = true →
    ∃ silent, chunks = numbered s.body.sent ++ closing drop :: List.replicate silent none

theorem Told.wait {later : Nat} (h : Told drop s chunks) (le : s.clock ≤ later) :
    Told drop { s with clock := later } chunks :=
  ⟨h.same, ⟨fun set => (h.heeds.come set).mono le, h.heeds.drains⟩, h.going, h.ended⟩

/-- A signal that has come stays the first. -/
theorem Told.signalled (h : Told drop s chunks) (time : Nat) :
    Told drop { s with signal := some (s.signal.elim time (min time)) } chunks := by
  refine ⟨h.same, ⟨fun set => ?_, h.heeds.drains⟩, h.going, h.ended⟩
  obtain ⟨first, known, before⟩ := h.heeds.come set
  refine ⟨min time first, ?_, Nat.le_trans (Nat.min_le_right _ _) before⟩
  show some (s.signal.elim time (min time)) = some (min time first)
  rw [known, Option.elim_some]

theorem Told.step (h : Told drop s chunks) (step : ReadStep Ties) :
    Told drop (s.step request step).2 (chunks ++ (s.step request step).1.toList) := by
  cases step with
  | sleep ms =>
    have waits := h.wait (Nat.le_add_right s.clock (ms * 1_000_000))
    rwa [← List.append_nil chunks] at waits
  | signal after =>
    have signalled := h.signalled (s.clock + after * 1_000_000)
    rwa [← List.append_nil chunks] at signalled
  | next ties =>
    rcases hr : s.body.next ties s.signal s.clock with ⟨chunk, time, body⟩
    have answers := h.heeds.answers_next ties
    rw [hr] at answers
    obtain ⟨later, le, step⟩ : ∃ later, time ≤ later ∧
        s.step request (.next ties) = (some chunk, { s with clock := later, body }) := by
      refine ⟨_, le_ceilMillis time, ?_⟩
      simp only [Session.step, request, hr]
    have heeds : body.Heeds s.signal later :=
      ⟨fun set => (answers.heeds.come set).mono le, answers.heeds.drains⟩
    rw [step]
    cases answers.yields with
    | silence isDone =>
      refine ⟨h.same, heeds, fun going => ?_, fun _ => ?_⟩
      · rw [show s.body.isDone = false from going] at isDone
        cases isDone
      · obtain ⟨silent, same⟩ := h.ended isDone
        refine ⟨silent + 1, ?_⟩
        rw [same, List.replicate_succ', List.append_assoc]
        rfl
    | event going still sent dropSame =>
      refine ⟨dropSame.trans h.same, heeds, fun _ => ?_, fun isDone => ?_⟩
      · show chunks ++ [_] = numbered body.sent
        rw [sent, numbered_succ, h.going going]
      · rw [show body.isDone = true from isDone] at still
        cases still
    | ending final going isDone sent dropSame =>
      refine ⟨dropSame.trans h.same, heeds, fun still => ?_, fun _ => ⟨0, ?_⟩⟩
      · rw [show body.isDone = false from still] at isDone
        cases isDone
      · show chunks ++ [chunk] = numbered body.sent ++ [closing drop]
        rw [sent, h.going going, ← h.same, ← final]

theorem Told.run (h : Told drop s chunks) (steps : List (ReadStep Ties)) :
    Told drop (s.run request steps).2 (chunks ++ (s.run request steps).1) := by
  induction steps generalizing s chunks with
  | nil =>
    show Told drop s (chunks ++ [])
    rwa [List.append_nil]
  | cons step steps ih =>
    have rest := ih (h.step step)
    rw [List.append_assoc] at rest
    exact rest

/-- Whatever a reader does and whenever signals come, a stream yields its events from the first on, none left
out or repeated. It ends only after a signal has come, with the sentinel, or without if it drops its readers,
and from then on it yields nothing. -/
theorem chunks_of_reading (interval grace : Duration) (dropOnSignal : Bool) (opened clock : Nat)
    (steps : List (ReadStep Ties)) :
    let start : Session EventStream := { clock, body := { interval, grace, dropOnSignal, opened } }
    let chunks := (start.run request steps).1
    let last := (start.run request steps).2
    ∃ sent, chunks = numbered sent ∨
      (∃ silent, chunks = numbered sent ++ closing dropOnSignal :: List.replicate silent none) ∧
        HasCome last.signal last.clock ∧ ∃ after, ReadStep.signal after ∈ steps := by
  intro start chunks last
  have fresh : Told dropOnSignal start [] := by
    refine ⟨rfl, ⟨fun set => ?_, fun armed => ?_⟩, fun _ => rfl, fun isDone => ?_⟩
    · rcases set with armed | isDone
      · cases armed
      · cases isDone
    · cases armed
    · cases isDone
  have told : Told dropOnSignal last chunks := fresh.run steps
  refine ⟨last.body.sent, ?_⟩
  cases ended : last.body.isDone with
  | false => exact .inl (told.going ended)
  | true =>
    have come : HasCome last.signal last.clock := told.heeds.come (.inr ended)
    have signalled : (start.run request steps).2.signal ≠ none := by
      obtain ⟨time, first, -⟩ := come
      rw [show (start.run request steps).2.signal = some time from first]
      exact Option.some_ne_none time
    exact .inr ⟨told.ended ended, come, signal_of_run rfl signalled⟩

end EventStream

end GracefulDrain
