import GracefulDrain.Proofs.Stream.Numbered

/-! # When the chunks of an event stream come

A reader may ask for a chunk at any time. `Serves` is what a request can bring, and when: an event comes when it
is due, or at once if that has passed, and so does the sentinel. `Paced` is the invariant between two steps of a
reading: a deadline that is set lies a grace period after a moment, not before the signal and past by now, at which
the signal was noticed. As each request of a reading is made where this holds (`Paced.exists_of_mem`), what it does
is told by what it is served with and by how the reading ends. Clocks move in whole milliseconds, and what is said
of exact times is said of streams whose times are such. -/

namespace GracefulDrain

/-- A number of nanoseconds that makes up whole milliseconds. -/
def InMillis (nanos : Nat) : Prop := 1_000_000 ∣ nanos

instance (nanos : Nat) : Decidable (InMillis nanos) := inferInstanceAs (Decidable (1_000_000 ∣ nanos))

namespace InMillis
variable {a b : Nat}

theorem add (ha : InMillis a) (hb : InMillis b) : InMillis (a + b) := Nat.dvd_add ha hb

theorem max (ha : InMillis a) (hb : InMillis b) : InMillis (Nat.max a b) := by
  rcases Nat.le_total a b with le | le
  · rwa [show a.max b = b from Nat.max_eq_right le]
  · rwa [show a.max b = a from Nat.max_eq_left le]

theorem min (ha : InMillis a) (hb : InMillis b) : InMillis (Nat.min a b) := by
  rcases Nat.le_total a b with le | le
  · rwa [show a.min b = a from Nat.min_eq_left le]
  · rwa [show a.min b = b from Nat.min_eq_right le]

theorem ceilMillis_eq (ha : InMillis a) : ceilMillis a * 1_000_000 = a := by
  obtain ⟨ms, rfl⟩ := ha
  unfold ceilMillis
  omega

end InMillis

namespace EventStream
variable {s : EventStream} {signal : Option Nat} {now time : Nat}

/-! ### One request -/

/-- What a request that is made at `now` and answered at `time` makes of the deadline. -/
inductive Notices (s : EventStream) (signal : Option Nat) (now time : Nat) : Option Nat → Prop
  | known {deadline : Nat} (set : s.deadline = some deadline) : s.Notices signal now time (some deadline)
  | unnoticed (unset : s.deadline = none) (soon : ∀ c, signal = some c → time ≤ max now c) :
      s.Notices signal now time none
  | noticed {c : Nat} (unset : s.deadline = none) (come : signal = some c) (late : max now c ≤ time) :
      s.Notices signal now time (some (max now c + s.grace.nanos))

/-- What a request that is made at `now` can bring, and when. -/
inductive Serves (s : EventStream) (signal : Option Nat) (now : Nat) : Option String × Nat × EventStream → Prop
  | silence (isDone : s.isDone = true) : s.Serves signal now (none, now, s)
  | event {deadline : Option Nat} (going : s.isDone = false)
      (notices : s.Notices signal now (max now s.due) deadline) :
      s.Serves signal now (some (eventText (s.sent + 1)), max now s.due, { s with sent := s.sent + 1, deadline })
  | sentinel {deadline : Nat} (going : s.isDone = false)
      (notices : s.Notices signal now (max now deadline) (some deadline)) :
      s.Serves signal now
        (some sentinelText, max now deadline, { s with deadline := some deadline, isDone := true })

/-- A request that knows the deadline from `noticed` on, whether it was made then or before. -/
theorem serves_drain {deadline noticed : Nat} (ties : Ties) (going : s.isDone = false)
    (dueLater : max noticed s.due = max now s.due) (endLater : max noticed deadline = max now deadline)
    (notices : ∀ time, noticed ≤ time → s.Notices signal now time (some deadline)) :
    s.Serves signal now (({ s with deadline := some deadline } : EventStream).drain ties deadline noticed) := by
  unfold drain
  split
  · rw [EventStream.event]
    show s.Serves signal now (_, max noticed s.due, _)
    rw [dueLater]
    exact .event going (notices _ (by omega))
  · rw [endLater]
    exact .sentinel going (notices _ (by omega))

theorem serves_next (keeps : s.dropOnSignal = false) (ties : Ties) :
    s.Serves signal now (s.next ties signal now) := by
  unfold EventStream.next
  split
  · exact .silence ‹_›
  rename_i going
  simp only [Bool.not_eq_true] at going
  rcases set : s.deadline with _ | deadline
  · -- an event leaves the deadline unset
    have event (soon : ∀ c, signal = some c → max now s.due ≤ max now c) : s.Serves signal now (s.event now) := by
      refine .event going ?_
      rw [set]
      exact .unnoticed set soon
    rcases signal with _ | c
    · exact event nofun
    · dsimp only
      split
      · rename_i first
        refine event ?_
        rintro _ ⟨⟩
        exact max_le_of_comesFirst first
      · rename_i first
        have soon := max_le_of_not_comesFirst first
        rw [if_neg (by simp [keeps])]
        refine serves_drain ties going ?_ ?_ fun time late => .noticed set rfl late
        · omega
        · omega
  · have same : { s with deadline := some deadline } = s := by rw [← set]
    have known (time : Nat) : s.Notices signal now time (some deadline) := .known set
    have served := serves_drain ties going rfl rfl fun time _ => known time
    rwa [same] at served

theorem Serves.le_time {r : Option String × Nat × EventStream} (h : s.Serves signal now r) : now ≤ r.2.1 := by
  cases h with
  | silence => exact Nat.le_refl _
  | event => exact Nat.le_max_left _ _
  | sentinel => exact Nat.le_max_left _ _

theorem Serves.deadline_eq {r : Option String × Nat × EventStream} {deadline : Nat} (h : s.Serves signal now r)
    (set : s.deadline = some deadline) : r.2.2.deadline = some deadline := by
  have known {time : Nat} {d : Option Nat} (notices : s.Notices signal now time d) : d = some deadline := by
    cases notices with
    | known same => rw [← same, set]
    | unnoticed unset => rw [set] at unset; cases unset
    | noticed unset => rw [set] at unset; cases unset
  cases h with
  | silence => exact set
  | event going notices => exact known notices
  | sentinel going notices => exact known notices

end EventStream

/-! ### Readings -/

namespace EventStream
open Session
variable {s t : Session EventStream} {steps : List (ReadStep Ties)} {interval grace : Duration} {opened : Nat}
  {chunk : Option String} {time : Nat} {body : EventStream}

/-- A request of a reading. -/
structure Request where
  before : EventStream
  made : Nat
  chunk : Option String
  answered : Nat
  after : EventStream

/-- The requests of a reading, in order. -/
def requests (s : Session EventStream) : List (ReadStep Ties) → List Request
  | [] => []
  | step :: steps =>
    let (chunk, t) := s.step request step
    chunk.toList.map (fun chunk => ⟨s.body, s.clock, chunk, t.clock, t.body⟩) ++ requests t steps

theorem requests_cons (s : Session EventStream) (step : ReadStep Ties) (steps : List (ReadStep Ties)) :
    requests s (step :: steps) =
      (s.step request step).1.toList.map
          (fun chunk => ⟨s.body, s.clock, chunk, (s.step request step).2.clock, (s.step request step).2.body⟩) ++
        requests (s.step request step).2 steps := rfl

/-- The requests bring the chunks of the reading. -/
theorem map_chunk_requests (s : Session EventStream) (steps : List (ReadStep Ties)) :
    (requests s steps).map Request.chunk = (s.run request steps).1 := by
  induction steps generalizing s with
  | nil => rfl
  | cons step steps ih =>
    rw [requests_cons, run_cons, List.map_append, List.map_map, ih]
    exact congrArg (· ++ _) (List.map_id _)

/-- The deadline lies a grace period after a moment, past by `now`, at which the signal was noticed. -/
def Granted (grace : Duration) (signal : Option Nat) (now deadline : Nat) : Prop :=
  ∃ c noticed, signal = some c ∧ c ≤ noticed ∧ noticed ≤ now ∧ InMillis noticed ∧ deadline = noticed + grace.nanos

theorem Granted.mono {signal : Option Nat} {now later deadline : Nat} (h : Granted grace signal now deadline)
    (le : now ≤ later) : Granted grace signal later deadline := by
  obtain ⟨c, noticed, come, since, past, rest⟩ := h
  exact ⟨c, noticed, come, since, Nat.le_trans past le, rest⟩

/-- The reading has come to `s`, of a stream with this pace that drains. -/
structure Paced (interval grace : Duration) (opened : Nat) (s : Session EventStream) : Prop where
  interval_eq : s.body.interval = interval
  grace_eq : s.body.grace = grace
  opened_eq : s.body.opened = opened
  keeps : s.body.dropOnSignal = false
  clock : InMillis s.clock
  signal : ∀ c, s.signal = some c → InMillis c
  armed : ∀ deadline, s.body.deadline = some deadline → Granted grace s.signal s.clock deadline
  ended : s.body.isDone = true → ∃ deadline, s.body.deadline = some deadline ∧ deadline ≤ s.clock

/-- What a step can do, where times are in whole milliseconds. -/
inductive Steps (s : Session EventStream) : Option (Option String) → Session EventStream → Prop
  | wait {later : Nat} (le : s.clock ≤ later) (whole : InMillis later) : Steps s none { s with clock := later }
  | signal {time : Nat} (le : s.clock ≤ time) (whole : InMillis time) :
      Steps s none { s with signal := some (s.signal.elim time (min time)) }
  | request {chunk : Option String} {time : Nat} {body : EventStream} (whole : InMillis time)
      (serves : s.body.Serves s.signal s.clock (chunk, time, body)) :
      Steps s (some chunk) { s with clock := time, body }

/-- What a request makes of the deadline, even one that comes after the end. -/
theorem Paced.notices (h : Paced interval grace opened s)
    (serves : s.body.Serves s.signal s.clock (chunk, time, body)) :
    s.body.Notices s.signal s.clock time body.deadline := by
  cases serves with
  | silence isDone =>
    obtain ⟨deadline, set, -⟩ := h.ended isDone
    rw [set]
    exact .known set
  | event going notices => exact notices
  | sentinel going notices => exact notices

theorem Paced.of_steps (h : Paced interval grace opened s) {chunk : Option (Option String)} (steps : Steps s chunk t) :
    Paced interval grace opened t := by
  cases steps with
  | wait le whole =>
    refine { h with
      clock := whole
      armed := fun deadline set => (h.armed deadline set).mono le
      ended := fun isDone => ?_ }
    obtain ⟨deadline, set, past⟩ := h.ended isDone
    exact ⟨deadline, set, Nat.le_trans past le⟩
  | @signal time le whole =>
    refine { h with signal := ?_, armed := fun deadline set => ?_ }
    · rintro _ ⟨⟩
      cases hs : s.signal with
      | none => exact whole
      | some c => exact whole.min (h.signal c hs)
    · -- a signal that has been noticed is the first
      obtain ⟨c, noticed, come, since, past, rest⟩ := h.armed deadline set
      have first : min time c = c := by omega
      refine ⟨c, noticed, ?_, since, past, rest⟩
      show some (s.signal.elim time (min time)) = some c
      rw [come, Option.elim_some, first]
  | @request chunk time body whole serves =>
    have notices := h.notices serves
    have later : s.clock ≤ time := serves.le_time
    have armed : ∀ deadline, body.deadline = some deadline → Granted grace s.signal time deadline := by
      intro deadline set
      rw [set] at notices
      cases notices with
      | known set => exact (h.armed deadline set).mono later
      | @noticed c unset come late =>
        exact ⟨c, _, come, Nat.le_max_right _ _, late, h.clock.max (h.signal c come), by rw [h.grace_eq]⟩
    cases serves with
    | silence isDone => exact { h with }
    | event going =>
      refine ⟨h.interval_eq, h.grace_eq, h.opened_eq, h.keeps, whole, h.signal, armed, fun isDone => ?_⟩
      rw [show s.body.isDone = true from isDone] at going
      cases going
    | sentinel => exact ⟨h.interval_eq, h.grace_eq, h.opened_eq, h.keeps, whole, h.signal, armed, fun _ =>
        ⟨_, rfl, Nat.le_max_right _ _⟩⟩

/-- On the way from `s` to `t`, time goes by, a deadline that is set stays, and so does the first signal, unless it is
still to come. -/
structure Precedes (s t : Session EventStream) : Prop where
  le : s.clock ≤ t.clock
  deadline : ∀ deadline, s.body.deadline = some deadline → t.body.deadline = some deadline
  signal : t.signal = s.signal ∨
    ∃ c, t.signal = some c ∧ s.clock ≤ c ∧ ∀ first, s.signal = some first → c ≤ first

theorem Precedes.refl (s : Session EventStream) : Precedes s s := ⟨Nat.le_refl _, fun _ set => set, .inl rfl⟩

theorem Precedes.trans {u : Session EventStream} (h : Precedes s t) (h' : Precedes t u) : Precedes s u := by
  refine ⟨Nat.le_trans h.le h'.le, fun _ set => h'.deadline _ (h.deadline _ set), ?_⟩
  rcases h'.signal with same | ⟨c, signal, later, first⟩
  · rw [same]
    exact h.signal
  · refine .inr ⟨c, signal, Nat.le_trans h.le later, fun c' come => ?_⟩
    rcases h.signal with same | ⟨c'', come', -, first'⟩
    · exact first c' (same.trans come)
    · exact Nat.le_trans (first c'' come') (first' c' come)

theorem Steps.precedes {chunk : Option (Option String)} (h : Steps s chunk t) : Precedes s t := by
  cases h with
  | wait le => exact ⟨le, fun _ set => set, .inl rfl⟩
  | request whole serves => exact ⟨serves.le_time, fun _ set => serves.deadline_eq set, .inl rfl⟩
  | @signal time le =>
    refine ⟨Nat.le_refl _, fun _ set => set, ?_⟩
    dsimp only
    rcases s.signal with _ | first
    · exact .inr ⟨time, rfl, le, nofun⟩
    · by_cases sooner : time ≤ first
      · rw [Option.elim_some, Nat.min_eq_left sooner]
        refine .inr ⟨time, rfl, le, ?_⟩
        rintro _ ⟨⟩
        exact sooner
      · rw [Option.elim_some, Nat.min_eq_right (Nat.le_of_not_le sooner)]
        exact .inl rfl

/-- A signal that has come stays the first. -/
theorem Precedes.signal_eq {c : Nat} (h : Precedes s t) (come : s.signal = some c) (past : c ≤ s.clock) :
    t.signal = some c := by
  rcases h.signal with same | ⟨c', signal, later, first⟩
  · exact same.trans come
  · have := first c come
    rw [signal, show c' = c by omega]

/-- The request is made in a reading at `t` that comes to `last`. -/
structure Request.MadeAt (r : Request) (t last : Session EventStream) : Prop where
  before : r.before = t.body
  made : r.made = t.clock
  serves : t.body.Serves t.signal t.clock (r.chunk, r.answered, r.after)
  precedes : Precedes { t with clock := r.answered, body := r.after } last

theorem Steps.madeAt {chunk : Option (Option String)} {last : Session EventStream} {r : Request}
    (h : Steps s chunk t) (here : r ∈ chunk.toList.map fun chunk => ⟨s.body, s.clock, chunk, t.clock, t.body⟩)
    (rest : Precedes t last) : r.MadeAt s last := by
  cases h with
  | wait => cases here
  | signal => cases here
  | request whole serves =>
    obtain rfl := List.mem_singleton.1 here
    exact ⟨rfl, rfl, serves, rest⟩

/-- The requests of a reader of a stream that has sent `n` events, and that is over or not: each event comes when it
is due, or when it is asked for if that is later, and so does the sentinel at the deadline. -/
inductive Timed (opened interval : Nat) (deadline : Option Nat) : Bool → Nat → List Request → Prop
  | nil (isDone : Bool) (n : Nat) : Timed opened interval deadline isDone n []
  | event {n : Nat} {r : Request} {rs : List Request} (chunk : r.chunk = some (eventText (n + 1)))
      (answered : r.answered = max r.made (opened + interval * n))
      (rest : Timed opened interval deadline false (n + 1) rs) : Timed opened interval deadline false n (r :: rs)
  | sentinel {n stop : Nat} {r : Request} {rs : List Request} (set : deadline = some stop)
      (chunk : r.chunk = some sentinelText) (answered : r.answered = max r.made stop)
      (rest : Timed opened interval deadline true n rs) : Timed opened interval deadline false n (r :: rs)
  | silence {n : Nat} {r : Request} {rs : List Request} (chunk : r.chunk = none) (answered : r.answered = r.made)
      (rest : Timed opened interval deadline true n rs) : Timed opened interval deadline true n (r :: rs)

section
variable (hInterval : InMillis interval.nanos) (hGrace : InMillis grace.nanos) (hOpened : InMillis opened)
include hInterval hGrace hOpened

/-- Whatever is served comes at a whole millisecond. -/
theorem Paced.inMillis_time (h : Paced interval grace opened s)
    (serves : s.body.Serves s.signal s.clock (chunk, time, body)) : InMillis time := by
  cases serves with
  | silence => exact h.clock
  | event =>
    have due : InMillis s.body.due := by
      rw [due, h.interval_eq, h.opened_eq]
      exact hOpened.add (Nat.dvd_mul_right_of_dvd hInterval _)
    exact h.clock.max due
  | sentinel going notices =>
    refine h.clock.max ?_
    cases notices with
    | known set =>
      obtain ⟨c, noticed, -, -, -, whole, rfl⟩ := h.armed _ set
      exact whole.add hGrace
    | noticed unset come late =>
      rw [h.grace_eq]
      exact (h.clock.max (h.signal _ come)).add hGrace

theorem Paced.step (h : Paced interval grace opened s) (step : ReadStep Ties) :
    Steps s (s.step request step).1 (s.step request step).2 := by
  have whole (ms : Nat) : InMillis (s.clock + ms * 1_000_000) := h.clock.add (Nat.dvd_mul_left _ _)
  cases step with
  | sleep ms => exact .wait (Nat.le_add_right _ _) (whole ms)
  | signal after => exact .signal (Nat.le_add_right _ _) (whole after)
  | next ties =>
    have serves : s.body.Serves s.signal s.clock (s.body.next ties s.signal s.clock) := serves_next h.keeps ties
    rcases hr : s.body.next ties s.signal s.clock with ⟨chunk, time, body⟩
    rw [hr] at serves
    have whole := h.inMillis_time hInterval hGrace hOpened serves
    have step : s.step request (.next ties) = (some chunk, { s with clock := time, body }) := by
      simp only [Session.step, request, hr, whole.ceilMillis_eq]
    rw [step]
    exact .request whole serves

theorem Paced.run (h : Paced interval grace opened s) (steps : List (ReadStep Ties)) :
    Paced interval grace opened (s.run request steps).2 := by
  induction steps generalizing s with
  | nil => exact h
  | cons step steps ih => exact ih (h.of_steps (h.step hInterval hGrace hOpened step))

theorem Paced.precedes_run (h : Paced interval grace opened s) (steps : List (ReadStep Ties)) :
    Precedes s (s.run request steps).2 := by
  induction steps generalizing s with
  | nil => exact .refl s
  | cons step steps ih =>
    have moved := h.step hInterval hGrace hOpened step
    exact moved.precedes.trans (ih (h.of_steps moved))

/-- Each request of a reading is made on the way. -/
theorem Paced.exists_of_mem (h : Paced interval grace opened s) {r : Request} (mem : r ∈ requests s steps) :
    ∃ t, Paced interval grace opened t ∧ r.MadeAt t (s.run request steps).2 := by
  induction steps generalizing s with
  | nil => cases mem
  | cons step steps ih =>
    have moved := h.step hInterval hGrace hOpened step
    have next := h.of_steps moved
    rw [requests_cons] at mem
    rcases List.mem_append.1 mem with here | later
    · have precedes := next.precedes_run hInterval hGrace hOpened steps
      exact ⟨s, h, moved.madeAt here precedes⟩
    · exact ih next later

theorem Paced.timed (h : Paced interval grace opened s) (steps : List (ReadStep Ties)) :
    Timed opened interval.nanos (s.run request steps).2.body.deadline s.body.isDone s.body.sent
      (requests s steps) := by
  induction steps generalizing s with
  | nil => exact .nil _ _
  | cons step steps ih =>
    have moved := h.step hInterval hGrace hOpened step
    have next := h.of_steps moved
    have rest := ih next
    have kept := (next.precedes_run hInterval hGrace hOpened steps).deadline
    rw [requests_cons, run_cons]
    generalize s.step request step = moving at *
    obtain ⟨chunk, t⟩ := moving
    cases moved with
    | wait => exact rest
    | signal => exact rest
    | @request chunk time body whole serves =>
      have due : s.body.due = opened + interval.nanos * s.body.sent := by rw [due, h.opened_eq, h.interval_eq]
      cases serves with
      | silence isDone =>
        rw [isDone] at rest ⊢
        exact .silence rfl rfl rest
      | event going =>
        rw [show s.body.isDone = false from going] at rest ⊢
        exact .event rfl (congrArg (max _) due) rest
      | sentinel going =>
        rw [going]
        exact .sentinel (kept _ rfl) rfl rfl rest

end

/-- A request that leaves the deadline unset is answered by an event. -/
theorem Paced.answered_of_unset (h : Paced interval grace opened s)
    (serves : s.body.Serves s.signal s.clock (chunk, time, body)) (unset : body.deadline = none) :
    time = max s.clock s.body.due := by
  cases serves with
  | silence isDone =>
    obtain ⟨deadline, set, -⟩ := h.ended isDone
    rw [set] at unset
    cases unset
  | event => rfl
  | sentinel => cases unset

section
variable {last : Session EventStream} {r : Request} {c : Nat}

/-- The request that sets the deadline has noticed the signal, and grants the grace period from then on. -/
theorem Paced.deadline_of_noticed (h : Paced interval grace opened t) (made : r.MadeAt t last)
    (unset : r.before.deadline = none) (set : r.after.deadline ≠ none) :
    ∃ c, last.signal = some c ∧ max r.made c ≤ r.answered ∧
      last.body.deadline = some (max r.made c + grace.nanos) := by
  obtain ⟨before, atClock, serves, precedes⟩ := made
  rw [before] at unset
  rw [atClock]
  have notices := h.notices serves
  rcases after : r.after.deadline with _ | deadline <;> rw [after] at notices
  · exact absurd after set
  · have kept := precedes.deadline deadline after
    cases notices with
    | known set =>
      rw [set] at unset
      cases unset
    | @noticed c _ come late =>
      rw [h.grace_eq] at kept
      exact ⟨c, precedes.signal_eq come (Nat.le_trans (Nat.le_max_right _ _) late), late, kept⟩

/-- A request that leaves the deadline unset has been answered by the time at which it would notice the signal. -/
theorem Paced.answered_le_of_unset (h : Paced interval grace opened t) (made : r.MadeAt t last)
    (unset : r.after.deadline = none) (first : last.signal = some c) : r.answered ≤ max r.made c := by
  obtain ⟨-, atClock, serves, precedes⟩ := made
  rw [atClock]
  have notices := h.notices serves
  rw [unset] at notices
  cases notices with
  | unnoticed _ soon =>
    rcases precedes.signal with same | ⟨c', first', later, -⟩
    · exact soon c (same.symm.trans first)
    · have : c' = c := Option.some.inj (first'.symm.trans first)
      have : r.answered ≤ c' := later
      omega

/-- A request during which the signal comes notices it, unless an event is ready just then. -/
theorem Paced.deadline_of_pending (h : Paced interval grace opened t) (made : r.MadeAt t last)
    (first : last.signal = some c) (begun : r.made ≤ c) (pending : c ≤ r.answered)
    (none_ready : max r.made r.before.due ≠ c) : last.body.deadline = some (c + grace.nanos) := by
  obtain ⟨before, atClock, serves, precedes⟩ := made
  rw [before] at none_ready
  rw [atClock] at begun none_ready
  rcases after : r.after.deadline with _ | deadline
  · have soon := h.answered_le_of_unset ⟨before, atClock, serves, precedes⟩ after first
    have answered := h.answered_of_unset serves after
    omega
  rw [precedes.deadline deadline after]
  -- a signal that the request knows of is the one that stays the first
  have known {c' : Nat} (come : t.signal = some c') (past : c' ≤ r.answered) : c' = c :=
    Option.some.inj ((precedes.signal_eq come past).symm.trans first)
  have notices := h.notices serves
  rw [after] at notices
  cases notices with
  | known set =>
    obtain ⟨c', noticed, come, since, past, -, rfl⟩ := h.armed deadline set
    have := known come (by omega)
    rw [show noticed = c by omega]
  | @noticed c' unset come late =>
    have := known come (Nat.le_trans (Nat.le_max_right _ _) late)
    rw [h.grace_eq, this, Nat.max_eq_right begun]

end

/-- A reading of a stream that is to drain, by any steps, with any number of signals, of which the first counts, and
however it is decided what goes first when two things are ready. Every event comes when it is due, or when it is
asked for if that is later, so none is lost or put off, and so does the sentinel at the deadline. The deadline is
set once and never moved. The request that sets it, before whose end the signal has come, notices the signal when
it comes or at once, and grants the grace period from then on; a request that leaves it unset was answered no
later than that. So the deadline is no sooner than a grace period after the signal, and just then if the signal
came during a request and no event was ready at the time. -/
theorem chunks_come_on_time {interval grace : Duration} {opened : Nat} (hInterval : InMillis interval.nanos)
    (hGrace : InMillis grace.nanos) (hOpened : InMillis opened) (steps : List (ReadStep Ties)) :
    let start : Session EventStream :=
      { clock := opened, body := { interval, grace, dropOnSignal := false, opened } }
    let last := (start.run request steps).2
    let deadline := last.body.deadline
    (requests start steps).map Request.chunk = (start.run request steps).1 ∧
      Timed opened interval.nanos deadline false 0 (requests start steps) ∧
      (∀ stop, deadline = some stop → ∃ c, last.signal = some c ∧ c + grace.nanos ≤ stop) ∧
      ∀ r ∈ requests start steps,
        (∀ stop, r.before.deadline = some stop ∨ r.after.deadline = some stop → deadline = some stop) ∧
        (r.before.deadline = none → r.after.deadline ≠ none → ∃ c, last.signal = some c ∧
          max r.made c ≤ r.answered ∧ deadline = some (max r.made c + grace.nanos)) ∧
        (r.after.deadline = none → ∀ c, last.signal = some c → r.answered ≤ max r.made c) ∧
        ∀ c, last.signal = some c → r.made ≤ c → c ≤ r.answered → max r.made r.before.due ≠ c →
          deadline = some (c + grace.nanos) := by
  intro start last deadline
  have fresh : Paced interval grace opened start :=
    ⟨rfl, rfl, rfl, rfl, hOpened, nofun, nofun, nofun⟩
  have paced := fresh.run hInterval hGrace hOpened steps
  have timed := fresh.timed hInterval hGrace hOpened steps
  refine ⟨map_chunk_requests start steps, timed, fun stop set => ?_, fun r mem => ?_⟩
  · obtain ⟨c, noticed, come, since, -, -, rfl⟩ := paced.armed stop set
    exact ⟨c, come, Nat.add_le_add_right since _⟩
  obtain ⟨t, h, made⟩ := fresh.exists_of_mem hInterval hGrace hOpened mem
  refine ⟨fun stop set => made.precedes.deadline stop ?_, h.deadline_of_noticed made,
    fun unset c first => h.answered_le_of_unset made unset first, fun c first => h.deadline_of_pending made first⟩
  rcases set with set | set
  · exact made.serves.deadline_eq (by rw [← made.before, set])
  · exact set

/-- A reader of a stream of one event per second. -/
def pausingReader : Session EventStream :=
  { body := { interval := .ofSecs 1, grace := .ofMillis 1500, dropOnSignal := false } }

/-- A signal comes during the second request, at 0.3 s. After a pause the third event and the sentinel are both
overdue. -/
def pausing : List (ReadStep Ties) :=
  [.signal 300, .next ⟨true, true⟩, .next ⟨true, true⟩, .sleep 2000, .next ⟨true, true⟩, .next ⟨true, false⟩]

/-- The deadline lies 1.5 s after that signal. -/
theorem pausing_reader_is_granted_grace :
    InMillis (Duration.ofSecs 1).nanos ∧ InMillis (Duration.ofMillis 1500).nanos ∧ InMillis 0 ∧
      (pausingReader.run request pausing).1 =
        [some (eventText 1), some (eventText 2), some (eventText 3), some sentinelText] ∧
      (pausingReader.run request pausing).2.body.deadline = some 1_800_000_000 := by
  obtain ⟨-, -, -, each⟩ :=
    @chunks_come_on_time (.ofSecs 1) (.ofMillis 1500) 0 (by decide) (by decide) (by decide) pausing
  have second : (requests pausingReader pausing)[1]?.map
      (fun r => (r.made, r.answered, r.before.due)) = some (0, 1_000_000_000, 1_000_000_000) := by
    decide
  obtain ⟨r, found, times⟩ := Option.map_eq_some_iff.1 second
  simp only [Prod.mk.injEq] at times
  obtain ⟨made, answered, due⟩ := times
  obtain ⟨-, -, -, pending⟩ := each r (List.mem_of_getElem? found)
  have granted := pending 300_000_000 rfl (by omega) (by omega) (by omega)
  exact ⟨by decide, by decide, by decide, rfl, granted⟩

end EventStream

end GracefulDrain
