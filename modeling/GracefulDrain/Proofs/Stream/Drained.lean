import GracefulDrain.Drain.Window
import GracefulDrain.Process.Host
import GracefulDrain.Proofs.Stream.Lines
import GracefulDrain.Proofs.Stream.Numbered
import GracefulDrain.Proofs.Text.Utf8

/-! # A drained stream passes its checks

A reader who asks for a chunk as soon as the last one has come reads a stream that is signalled on the way.
`Waiting` is the invariant between two requests: the next event is not overdue, nor is the sentinel. A
request then yields the event when it is due, or the sentinel at the deadline if that is no later
(`Waiting.served_next`), so events come until the deadline has been reached (`Waiting.drains_chunk`). What a line
counter makes of the octets follows from their lines (`Drains.linesOf_body`). -/

namespace GracefulDrain

/-! ### Lines that all end -/

theorem bodyLinesFrom_append (piece line rest : Bytes) (h : 10 ∉ line) :
    bodyLinesFrom piece (line ++ 10 :: rest) = (piece.reverse ++ line) :: bodyLines rest := by
  induction line generalizing piece with
  | nil => simp [bodyLinesFrom, bodyLines]
  | cons b line ih =>
    obtain ⟨hb, h⟩ := not_or.1 (mt List.mem_cons.2 h)
    rw [List.cons_append, bodyLinesFrom, if_neg (Ne.symm hb), ih _ h]
    simp

/-- Lines that all have their line feed are the lines of the body they make. -/
theorem linesOf_flatMap (lines : List Bytes) (h : ∀ line ∈ lines, 10 ∉ line) :
    linesOf (lines.flatMap (· ++ [10])) = lines := by
  induction lines with
  | nil => rfl
  | cons line lines ih =>
    obtain ⟨hl, h⟩ := List.forall_mem_cons.1 h
    rw [← bodyLines_eq_linesOf] at ih ⊢
    rw [List.flatMap_cons, List.append_assoc, bodyLines, List.singleton_append,
      bodyLinesFrom_append _ _ _ hl, ih h]
    rfl

theorem stripReturn_of_notMem {line : Bytes} (h : 13 ∉ line) : stripReturn line = line :=
  if_neg fun hl => h (List.mem_of_getLast? hl)

/-! ### The octets of a text -/

namespace Utf8

/-- A number is written in ASCII digits. -/
theorem digit_of_mem_encode {n : Nat} {b : UInt8} (h : b ∈ encode (toString n)) : 48 ≤ b ∧ b ≤ 57 := by
  rw [← String.ofList_toList (s := toString n), encode_ofList, Nat.toString_eq_repr, Nat.toList_repr,
    List.mem_flatMap] at h
  obtain ⟨c, hc, hb⟩ := h
  have digit := Char.isDigit_iff_toNat.1 (Nat.isDigit_of_mem_toDigits (by decide) (by decide) hc)
  have ascii : c.utf8Size = 1 :=
    Char.utf8Size_eq_one_iff.2 (UInt32.le_iff_toNat_le.2 (Nat.le_trans digit.2 (by decide)))
  rw [String.utf8EncodeChar_eq_singleton ascii, List.mem_singleton] at hb
  subst hb
  have bounds : 48 ≤ c.toNat ∧ c.toNat ≤ 57 := digit
  simp only [UInt8.le_iff_toNat_le, UInt32.toNat_toUInt8]
  change 48 ≤ c.toNat % 256 ∧ c.toNat % 256 ≤ 57
  omega

end Utf8

/-! ### The time and the lines that are expected -/

namespace Duration
variable {d : Duration}

theorem between_add_nanos (start : Nat) (d : Duration) : between start (start + d.nanos) = d := by
  rw [between, Nat.add_sub_cancel_left, saturate, dif_pos d.nanos_lt]

theorem ofSecs_one_le_iff : ofSecs 1 ≤ d ↔ 1 ≤ d.secs := by
  have second : ofSecs 1 ≤ d ↔ 1_000_000_000 ≤ d.nanos := Iff.rfl
  rw [second, secs, Nat.le_div_iff_mul_le (by decide), Nat.one_mul]

theorem expectedLines_le {n : Nat} (enough : d.nanos ≤ 1_000_000_000 * n) : d.expectedLines ≤ 2 * n := by
  have := Nat.div_le_of_le_mul enough
  rw [expectedLines, secs]
  omega

end Duration

/-- A drain that takes all of its grace period passes if that is a second at least. -/
theorem DrainWindow.check_grace_iff {grace : Duration} :
    (of true grace).check grace = .ok () ↔ .ofSecs 1 ≤ grace := by
  rw [Duration.ofSecs_one_le_iff, check]
  have inside : (of true grace).contains grace = decide (1 ≤ grace.secs) := by
    rw [contains, of, decide_eq_true (Nat.le_refl _), Bool.and_true]
    rfl
  rw [inside]
  by_cases h : 1 ≤ grace.secs <;> simp [h]

namespace EventStream
variable {s : EventStream} {signal now : Nat}

/-! ### A reader who always waits -/

/-- What a reader gets who asks for a chunk at `now`, and for each further one when the last has come: a text,
if any, and its time. `ties` says what goes first at each request. -/
def chunk (s : EventStream) (ties : Nat → Ties) (signal : Option Nat) (now : Nat) : Nat → Option String × Nat
  | 0 =>
    let (text, time, _) := s.next (ties 0) signal now
    (text, time)
  | n + 1 =>
    let (_, time, s) := s.next (ties 0) signal now
    s.chunk (fun i => ties (i + 1)) signal time n

/-- A stream that is to be drained, between two requests of a reader who always waits. -/
structure Waiting (s : EventStream) (signal now : Nat) : Prop where
  going : s.isDone = false
  keeps : s.dropOnSignal = false
  paced : 0 < s.interval.nanos
  early : now ≤ s.due
  /-- Once the signal has been noticed, the deadline is set but has not passed. -/
  armed : s.deadline = none ∧ now ≤ signal ∨
    s.deadline = some (signal + s.grace.nanos) ∧ now ≤ signal + s.grace.nanos

/-- What a reader who waits may get. -/
inductive Served (s : EventStream) (signal : Nat) : Option String × Nat × EventStream → Prop
  /-- The next event on time. -/
  | event {s' : EventStream} (timely : s.due ≤ signal + s.grace.nanos) (sent : s'.sent = s.sent + 1)
      (opened : s'.opened = s.opened) (interval : s'.interval = s.interval) (grace : s'.grace = s.grace)
      (waiting : s'.Waiting signal s.due) : Served s signal (some (eventText (s.sent + 1)), s.due, s')
  /-- The sentinel at the deadline. -/
  | sentinel {s' : EventStream} (late : signal + s.grace.nanos ≤ s.due) (isDone : s'.isDone = true) :
      Served s signal (some sentinelText, signal + s.grace.nanos, s')

section
variable {a b : Nat} {tie : Bool}

theorem le_of_comesFirst (ha : now ≤ a) (hb : now ≤ b) (h : comesFirst now a b tie = true) : a ≤ b := by
  have := max_le_of_comesFirst h
  rwa [Nat.max_eq_right ha, Nat.max_eq_right hb] at this

theorem le_of_not_comesFirst (ha : now ≤ a) (hb : now ≤ b) (h : ¬ comesFirst now a b tie = true) :
    b ≤ a := by
  have := max_le_of_not_comesFirst h
  rwa [Nat.max_eq_right ha, Nat.max_eq_right hb] at this

end

/-- An event that comes before the sentinel leaves the stream waiting for the next. -/
theorem Waiting.served_event (h : s.Waiting signal now) (timely : s.due ≤ signal + s.grace.nanos)
    (armed : s.deadline = none → s.due ≤ signal) : s.Served signal (s.event now) := by
  have later : s.due ≤ ({ s with sent := s.sent + 1 } : EventStream).due :=
    Nat.add_le_add_left (Nat.mul_le_mul_left _ (Nat.le_succ _)) _
  rw [EventStream.event, Nat.max_eq_right h.early]
  refine .event timely rfl rfl rfl rfl ⟨h.going, h.keeps, h.paced, later, ?_⟩
  exact h.armed.imp (fun hd => ⟨hd.1, armed hd.1⟩) (fun hd => ⟨hd.1, timely⟩)

/-- Once the deadline is set, a request yields an event that is due by then, or else the sentinel. -/
theorem Waiting.served_drain (h : s.Waiting signal now) (ties : Ties)
    (set : s.deadline = some (signal + s.grace.nanos)) (inTime : now ≤ signal + s.grace.nanos) :
    s.Served signal (s.drain ties (signal + s.grace.nanos) now) := by
  rw [EventStream.drain]
  split
  · next first =>
    refine h.served_event (le_of_comesFirst h.early inTime first) fun unset => ?_
    rw [set] at unset
    cases unset
  · next first =>
    rw [Nat.max_eq_right inTime]
    exact .sentinel (le_of_not_comesFirst h.early inTime first) rfl

/-- A signal that comes no later than the next event is noticed when it comes. -/
theorem Waiting.notice (h : s.Waiting signal now) (first : signal ≤ s.due) :
    ({ s with deadline := some (signal + s.grace.nanos) } : EventStream).Waiting signal signal :=
  ⟨h.going, h.keeps, h.paced, first, .inr ⟨rfl, Nat.le_add_right _ _⟩⟩

/-- What is served does not depend on whether the deadline has been set already. -/
theorem Served.of_deadline {deadline : Option Nat} {r : Option String × Nat × EventStream}
    (h : ({ s with deadline } : EventStream).Served signal r) : s.Served signal r := by
  cases h with
  | event timely sent opened interval grace waiting =>
    exact .event timely sent opened interval grace waiting
  | sentinel late isDone => exact .sentinel late isDone

theorem Waiting.served_next (h : s.Waiting signal now) (ties : Ties) :
    s.Served signal (s.next ties (some signal) now) := by
  have isOpen : ¬ s.isDone = true := by simp [h.going]
  rcases h.armed with ⟨unset, inTime⟩ | ⟨set, inTime⟩
  · unfold EventStream.next
    rw [if_neg isOpen]
    simp only [unset]
    split
    · next first =>
      have timely := le_of_comesFirst h.early inTime first
      exact h.served_event (Nat.le_add_right_of_le timely) fun _ => timely
    · next first =>
      -- from the signal on, the request is one of a stream whose deadline is set
      have noticed := h.notice (le_of_not_comesFirst h.early inTime first)
      rw [if_neg (by simp [h.keeps]), Nat.max_eq_right inTime]
      exact (noticed.served_drain ties rfl (Nat.le_add_right _ _)).of_deadline
  · unfold EventStream.next
    rw [if_neg isOpen]
    simp only [set]
    exact h.served_drain ties set inTime

theorem chunk_of_isDone (isDone : s.isDone = true) (ties : Nat → Ties) (n : Nat) :
    s.chunk ties (some signal) now n = (none, now) := by
  have closed (ties : Ties) : s.next ties (some signal) now = (none, now, s) := if_pos isDone
  induction n generalizing ties with
  | zero => rw [EventStream.chunk, closed]
  | succ n ih => rw [EventStream.chunk, closed]; exact ih _

/-- Chunks that carry `n` events, numbered from `first` on, and the sentinel at `stop`, where they end. -/
structure Drains (chunk : Nat → Option String × Nat) (first n stop : Nat) : Prop where
  events : ∀ i < n, (chunk i).1 = some (eventText (first + i))
  sentinel : chunk n = (some sentinelText, stop)
  silence : ∀ i > n, chunk i = (none, stop)

theorem Drains.cons {chunk : Nat → Option String × Nat} {first n stop : Nat}
    (head : (chunk 0).1 = some (eventText first))
    (tail : Drains (fun i => chunk (i + 1)) (first + 1) n stop) : Drains chunk first (n + 1) stop := by
  refine ⟨fun i hi => ?_, tail.sentinel, fun i hi => ?_⟩
  · cases i with
    | zero => exact head
    | succ i =>
      rw [tail.events i (by omega)]
      congr 2
      omega
  · cases i with
    | zero => omega
    | succ i => exact tail.silence i (by omega)

/-- Events come until one would be due after the deadline. -/
theorem Waiting.drains_chunk (h : s.Waiting signal now) (ties : Nat → Ties) :
    ∃ n, Drains (s.chunk ties (some signal) now) (s.sent + 1) n (signal + s.grace.nanos) ∧
      signal + s.grace.nanos ≤ s.opened + s.interval.nanos * (s.sent + n) := by
  -- by induction on the time that is left, of which each event takes some
  obtain ⟨left, hl⟩ : ∃ left, signal + s.grace.nanos < s.due + left :=
    ⟨_, Nat.lt_add_left _ (Nat.lt_succ_self _)⟩
  induction left using Nat.strongRecOn generalizing s now ties with
  | ind left ih =>
    have served := h.served_next (ties 0)
    rcases hr : s.next (ties 0) (some signal) now with ⟨text, time, s'⟩
    rw [hr] at served
    cases served with
    | event timely sent opened interval grace waiting =>
      have paced := h.paced
      have due : s'.due = s.due + s.interval.nanos := by
        simp only [EventStream.due, opened, interval, sent, Nat.mul_succ, Nat.add_assoc]
      obtain ⟨n, drains, enough⟩ :=
        ih (left - 1) (by omega) waiting (fun i => ties (i + 1)) (by rw [grace, due]; omega)
      rw [sent, grace] at drains
      refine ⟨n + 1, Drains.cons ?_ ?_, ?_⟩
      · simp only [EventStream.chunk, hr]
      · simpa only [EventStream.chunk, hr] using drains
      · rw [grace, opened, interval, sent] at enough
        rwa [Nat.add_right_comm, Nat.add_assoc] at enough
    | sentinel late isDone =>
      refine ⟨0, ⟨fun i hi => absurd hi (Nat.not_lt_zero i), ?_, fun i hi => ?_⟩, late⟩
      · simp only [EventStream.chunk, hr]
      · cases i with
        | zero => omega
        | succ i => simp only [EventStream.chunk, hr]; exact chunk_of_isDone isDone _ i

/-! ### What a line counter makes of it -/

/-- The octets of the first `n` chunks. -/
def body (chunk : Nat → Option String × Nat) (n : Nat) : Bytes :=
  (List.range n).flatMap fun i => (chunk i).1.elim [] Utf8.encode

/-- The lines of `n` events, numbered from `first` on. -/
def eventLines (first n : Nat) : List Bytes :=
  (List.range n).flatMap fun i => [Utf8.encode (toString (first + i)), []]

theorem length_eventLines (first n : Nat) : (eventLines first n).length = 2 * n := by
  simp [eventLines, List.length_flatMap, List.map_const', Nat.mul_comm]

/-- No line of an event contains a line end or a blank. -/
theorem notMem_of_mem_eventLines {first n : Nat} {line : Bytes} (h : line ∈ eventLines first n) :
    10 ∉ line ∧ 13 ∉ line ∧ 32 ∉ line := by
  obtain ⟨i, -, h⟩ := List.mem_flatMap.1 h
  simp only [List.mem_cons, List.not_mem_nil, or_false] at h
  rcases h with rfl | rfl
  · have digit {b : UInt8} := Utf8.digit_of_mem_encode (n := first + i) (b := b)
    refine ⟨fun hb => ?_, fun hb => ?_, fun hb => ?_⟩ <;> exact absurd (digit hb) (by decide)
  · simp

theorem encode_eventText (n : Nat) :
    Utf8.encode (eventText n) = [Utf8.encode (toString n), []].flatMap (· ++ [10]) := by
  have text : eventText n = toString n ++ "\n\n" := by simp only [eventText]; rfl
  rw [text, Utf8.encode_append, List.flatMap_cons, List.append_assoc]
  rfl

theorem encode_sentinelText : Utf8.encode sentinelText = Utf8.encode sentinelLine ++ [10] := by
  rw [sentinelText, Utf8.encode_append]
  rfl

theorem Drains.body_eq {chunk : Nat → Option String × Nat} {first n stop : Nat}
    (h : Drains chunk first n stop) :
    body chunk (n + 1) = (eventLines first n ++ [Utf8.encode sentinelLine]).flatMap (· ++ [10]) := by
  have events : (List.range n).flatMap (fun i => (chunk i).1.elim [] Utf8.encode) =
      (eventLines first n).flatMap (· ++ [10]) := by
    rw [eventLines, List.flatMap_assoc]
    refine congrArg List.flatten (List.map_congr_left fun i hi => ?_)
    rw [h.events i (List.mem_range.1 hi), Option.elim_some, encode_eventText]
  rw [body, List.range_succ, List.flatMap_append, List.flatMap_append, events, List.flatMap_singleton,
    List.flatMap_singleton, h.sentinel, Option.elim_some, encode_sentinelText]

theorem Drains.linesOf_body {chunk : Nat → Option String × Nat} {first n stop : Nat}
    (h : Drains chunk first n stop) :
    linesOf (body chunk (n + 1)) = eventLines first n ++ [Utf8.encode sentinelLine] := by
  rw [h.body_eq]
  refine linesOf_flatMap _ fun line hl => ?_
  rcases List.mem_append.1 hl with hl | hl
  · exact (notMem_of_mem_eventLines hl).1
  · rw [List.mem_singleton.1 hl]
    decide

/-- Each event counts as two lines, and the sentinel is seen behind them. -/
theorem ofLines_eventLines (first n : Nat) :
    LineReport.ofLines none ((eventLines first n ++ [Utf8.encode sentinelLine]).map stripReturn) =
      { lines := 2 * n, sawSentinel := true } := by
  have plain : (eventLines first n).map stripReturn = eventLines first n :=
    (List.map_congr_left fun _ hl => stripReturn_of_notMem (notMem_of_mem_eventLines hl).2.1).trans
      (List.map_id' _)
  have sentinel : stripReturn (Utf8.encode sentinelLine) = Utf8.encode sentinelLine :=
    stripReturn_of_notMem (by decide)
  have counted : ∀ line ∈ eventLines first n, decide (line ≠ Utf8.encode sentinelLine) = true := by
    intro line hl
    refine decide_eq_true fun same => (notMem_of_mem_eventLines hl).2.2 ?_
    rw [same]
    decide
  rw [List.map_append, plain, List.map_singleton, sentinel]
  simp only [LineReport.ofLines, List.takeWhile_append_of_pos counted]
  rw [List.takeWhile_cons_of_neg (by simp), List.append_nil, length_eventLines]
  simp

theorem Drains.finish_feedAll {chunk : Nat → Option String × Nat} {first n stop : Nat}
    (h : Drains chunk first n stop) {chunks : List Bytes} (cut : chunks.flatten = body chunk (n + 1)) :
    (LineCounter.feedAll {} chunks).finish = { lines := 2 * n, sawSentinel := true } := by
  rw [LineCounter.finish_feedAll, cut, h.linesOf_body, ofLines_eventLines]

/-! ### What the verifier makes of it -/

/-- A stream of one event per second is opened, and read by a reader who always waits; the signal comes after
any `delay`. The stream ends with the sentinel just when its grace period is over. In whatever pieces its
octets come, a line counter sees the sentinel and counts two lines for each event, no fewer than are expected
of the grace period. That much time passes for a drain with the connection in flight if it is a second at
least. -/
theorem drained_stream_passes_checks (grace : Duration) (opened delay : Nat) (ties : Nat → Ties) :
    let stream : EventStream := { interval := .ofSecs 1, grace, dropOnSignal := false, opened }
    let signal := opened + delay
    let chunk := stream.chunk ties (some signal) opened
    let stop := signal + grace.nanos
    ∃ events, Drains chunk 1 events stop ∧
      (∀ chunks, chunks.flatten = body chunk (events + 1) →
        (LineCounter.feedAll {} chunks).finish = { lines := 2 * events, sawSentinel := true }) ∧
      grace.expectedLines ≤ 2 * events ∧
      ((DrainWindow.of true grace).check (.between signal stop) = .ok () ↔ .ofSecs 1 ≤ grace) := by
  intro stream signal chunk stop
  have waiting : stream.Waiting signal opened :=
    ⟨rfl, rfl, (by decide : 0 < (Duration.ofSecs 1).nanos), Nat.le_add_right _ _, .inl ⟨rfl, Nat.le_add_right _ _⟩⟩
  obtain ⟨events, drains, enough⟩ := waiting.drains_chunk ties
  have enough : opened + delay + grace.nanos ≤ opened + 1_000_000_000 * (0 + events) := enough
  refine ⟨events, drains, fun chunks cut => drains.finish_feedAll cut, Duration.expectedLines_le (by omega), ?_⟩
  rw [Duration.between_add_nanos, DrainWindow.check_grace_iff]

/-- Events at 0 s and 1 s, a signal at 0.3 s, and the sentinel after a grace period of 1.5 s. -/
theorem drained_stream_of_two_events :
    let stream : EventStream := { interval := .ofSecs 1, grace := .ofMillis 1500, dropOnSignal := false }
    let chunk := stream.chunk (fun _ => ⟨true, false⟩) (some 300_000_000) 0
    Drains chunk 1 2 (1_800_000_000) ∧
      (LineCounter.feedAll {} [body chunk 3]).finish = { lines := 4, sawSentinel := true } := by
  intro stream chunk
  obtain ⟨events, drains, report, -⟩ :=
    drained_stream_passes_checks (.ofMillis 1500) 0 300_000_000 (fun _ => ⟨true, false⟩)
  have third : chunk 2 = (some sentinelText, 1_800_000_000) := by decide
  have two : events = 2 := by
    rcases Nat.lt_trichotomy events 2 with few | two | many
    · have nothing : (chunk 2).1 = none := congrArg Prod.fst (drains.silence 2 few)
      rw [third] at nothing
      cases nothing
    · exact two
    · exact absurd ((congrArg Prod.fst third).symm.trans (drains.events 2 many)) (by decide)
  subst two
  exact ⟨drains, report [_] (List.append_nil _)⟩

end EventStream

end GracefulDrain
