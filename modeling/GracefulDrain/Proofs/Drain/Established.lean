import GracefulDrain.Proofs.Drain.Objections

/-! # What the notice of an eyeball tells

`Eyeball.deeds` lists what an eyeball does, in order. It gives notice once, as soon as the head of a successful
answer has come, and only then does it read. If it gives no notice it fails, so a supervisor that is told so finds a
failure when it waits for the result, and has nothing to say of its own (`DrainVerifier.exercise_failsOnly`). -/

namespace GracefulDrain

namespace Eyeball

inductive Deed
  | notify
  | take (octets : Bytes)
  | finish (result : Except Failure LineReport)

def Deed.isNotify : Deed → Bool
  | notify => true
  | _ => false

def Deed.octets? : Deed → Option Bytes
  | take octets => some octets
  | _ => none

/-- What an eyeball does with a body that it reads from `now` on, and when. -/
def bodyDeeds (e : Eyeball) (ending : Ending) (now : Nat) (counter : LineCounter) : List Chunk → List (Nat × Deed)
  | chunk :: rest =>
    if chunk.gap ≤ e.readTimeout.nanos then
      (now + chunk.gap, .take chunk.octets) ::
        match counter.feed chunk.octets with
        | (counter, .stop) => [(now + chunk.gap, .finish (.ok counter.finish))]
        | (counter, .more) => bodyDeeds e ending (now + chunk.gap) counter rest
    else [(now + e.readTimeout.nanos, .finish (.error e.starved))]
  | [] =>
    match ending with
    | .over gap _ =>
      if gap ≤ e.readTimeout.nanos then [(now + gap, .finish (.ok counter.finish))]
      else [(now + e.readTimeout.nanos, .finish (.error e.starved))]
    | .stall => [(now + e.readTimeout.nanos, .finish (.error e.starved))]

/-- What an eyeball that makes its request at `start` does from then on, and when. -/
def deeds (e : Eyeball) (start : Nat) : Response → List (Nat × Deed)
  | .failed after reason => [(start + after, .finish (.error (e.requestFailed reason)))]
  | .silent => []
  | .answered after status chunks ending =>
    if isSuccessStatus status then
      (start + after, .notify) :: e.bodyDeeds ending (start + after) { earlyStop := e.earlyStop } chunks
    else [(start + after, .finish (.error (e.refused status)))]

variable {e : Eyeball} {ending : Ending} {c : LineCounter} {chunk : Chunk} {rest chunks : List Chunk}
  {taken : List (Nat × Deed)} {result : Except Failure LineReport} {now ended k : Nat}

/-- The first `k` chunks are taken, from `now` on. -/
structure Takes (chunks : List Chunk) (now k : Nat) (taken : List (Nat × Deed)) : Prop where
  le : k ≤ chunks.length
  deeds : taken.map Prod.snd = (chunks.take k).map fun chunk => .take chunk.octets
  since : ∀ deed ∈ taken, now ≤ deed.1

theorem Takes.nil : Takes chunks now 0 [] := ⟨Nat.zero_le _, rfl, nofun⟩

theorem Takes.cons (h : Takes rest (now + chunk.gap) k taken) :
    Takes (chunk :: rest) now (k + 1) ((now + chunk.gap, .take chunk.octets) :: taken) where
  le := Nat.succ_le_succ h.le
  deeds := by rw [List.map_cons, h.deeds, List.take_succ_cons, List.map_cons]
  since deed mem := by
    rcases List.mem_cons.1 mem with rfl | mem
    · exact Nat.le_add_right _ _
    · exact Nat.le_of_add_right_le (h.since deed mem)

theorem Takes.not_mem (h : Takes chunks now k taken) (time : Nat) (deed : Deed) (other : deed.octets? = none) :
    (time, deed) ∉ taken := by
  intro mem
  have mem : deed ∈ taken.map Prod.snd := List.mem_map_of_mem mem
  rw [h.deeds] at mem
  obtain ⟨chunk, -, rfl⟩ := List.mem_map.1 mem
  cases other

theorem Takes.octets (h : Takes chunks now k taken) :
    taken.filterMap (·.2.octets?) = (chunks.take k).map Chunk.octets := by
  have same := congrArg (List.filterMap Deed.octets?) h.deeds
  rw [List.filterMap_map, List.filterMap_map] at same
  exact same.trans (congrFun List.filterMap_eq_map' _)

/-- An eyeball takes the chunks that its report counts, and then it is done. -/
theorem bodyDeeds_eq (fresh : c.report.isDone = false) (read : e.readBody ending now c chunks = (ended, result)) :
    ∃ taken k, e.bodyDeeds ending now c chunks = taken ++ [(ended, .finish result)] ∧ Takes chunks now k taken ∧
      now ≤ ended ∧ ∀ report, result = .ok report → report = (countAfter c chunks k).finish := by
  -- along the recursion of the reader
  induction chunks generalizing c now with
  | nil =>
    cases ending with
    | stall =>
      cases read
      exact ⟨[], 0, rfl, .nil, Nat.le_add_right _ _, nofun⟩
    | «over» gap isCut =>
      rw [readBody] at read
      rw [bodyDeeds]
      split at read
      · cases read
        rw [if_pos ‹_›]
        refine ⟨[], 0, rfl, .nil, Nat.le_add_right _ _, ?_⟩
        rintro _ ⟨⟩
        rfl
      · cases read
        rw [if_neg ‹_›]
        exact ⟨[], 0, rfl, .nil, Nat.le_add_right _ _, nofun⟩
  | cons chunk rest ih =>
    rw [readBody] at read
    rw [bodyDeeds]
    split at read
    · rw [if_pos ‹_›]
      have flag := c.isDone_feed chunk.octets fresh
      rcases fed : c.feed chunk.octets with ⟨c', _ | _⟩ <;> rw [fed] at flag read
      · obtain ⟨taken, k, split, takes, since, counted⟩ := ih flag read
        refine ⟨(now + chunk.gap, .take chunk.octets) :: taken, k + 1, ?_, takes.cons, by omega, ?_⟩
        · exact congrArg ((now + chunk.gap, Deed.take chunk.octets) :: ·) split
        · rw [countAfter_of_more fed]
          exact counted
      · cases read
        refine ⟨[(now + chunk.gap, .take chunk.octets)], 1, rfl, Takes.nil.cons, Nat.le_add_right _ _, ?_⟩
        rintro _ ⟨⟩
        rw [countAfter_of_stop fed]
    · cases read
      rw [if_neg ‹_›]
      exact ⟨[], 0, rfl, .nil, Nat.le_add_right _ _, nofun⟩

/-- A body is not read to its end if and only if something in it is late before a stop rule applies. -/
theorem Reads.fails_iff (reads : e.Reads ending c chunks result) :
    (∃ failure, result = .error failure) ↔
      ∃ k ≤ chunks.length, (∀ j ≤ k, ¬ Stopped c chunks j) ∧ ¬ e.InTime ending chunks k := by
  constructor
  · rintro ⟨failure, rfl⟩
    cases reads with
    | starved le _ going late => exact ⟨_, le, going, late⟩
  · rintro ⟨k, le, going, late⟩
    cases reads with
    | stopped le' inTime _ stopped =>
      refine absurd (inTime k ?_) late
      exact Nat.not_le.1 fun before => going _ before stopped
    | ended inTime => exact absurd (inTime k le) late
    | starved => exact ⟨_, rfl⟩

theorem Reads.error_eq {failure : Failure} (reads : e.Reads ending c chunks (.error failure)) :
    failure = e.starved := by
  cases reads
  rfl

end Eyeball

theorem Eyeball.FailsWith.reason {e : Eyeball} {failure : Failure} (h : e.FailsWith failure) :
    ∃ reason, failure = .eyeball reason := by
  cases h <;> exact ⟨_, rfl⟩

/-! ### With a connection and without -/

theorem isSuccessStatus_iff {status : Nat} : isSuccessStatus status = true ↔ 200 ≤ status ∧ status < 300 := by
  simp [isSuccessStatus]

/-- The head of a successful answer comes, after so long. -/
inductive Response.Connects : Response → Nat → Prop
  | intro {after status : Nat} {chunks : List Chunk} {ending : Ending} (success : 200 ≤ status ∧ status < 300) :
    Connects (.answered after status chunks ending) after

theorem Response.success_or_never (response : Response) :
    (∃ after status chunks ending, response = .answered after status chunks ending ∧ 200 ≤ status ∧ status < 300) ∨
      ∀ after, ¬ response.Connects after := by
  refine Classical.or_iff_not_imp_left.2 fun none after connects => ?_
  obtain ⟨success⟩ := connects
  exact none ⟨_, _, _, _, rfl, success⟩

namespace Eyeball
variable {e : Eyeball} {start after status : Nat} {response : Response} {chunks : List Chunk} {ending : Ending}

theorem course_of_success (e : Eyeball) (start after : Nat) (chunks : List Chunk) (ending : Ending)
    (success : 200 ≤ status ∧ status < 300) :
    let response := Response.answered after status chunks ending
    let counter : LineCounter := { earlyStop := e.earlyStop }
    ∃ taken ended result k, e.watch start response = ⟨.given (start + after), some (ended, result)⟩ ∧
      e.deeds start response = (start + after, .notify) :: (taken ++ [(ended, .finish result)]) ∧
      Takes chunks (start + after) k taken ∧ start + after ≤ ended ∧ e.Reads ending counter chunks result ∧
      ∀ report, result = .ok report → report = (countAfter counter chunks k).finish := by
  intro response counter
  rcases read : e.readBody ending (start + after) counter chunks with ⟨ended, result⟩
  obtain ⟨taken, k, split, takes, since, counted⟩ := bodyDeeds_eq rfl read
  refine ⟨taken, ended, result, k, ?_, ?_, takes, since, (reads_iff rfl).2 (congrArg Prod.snd read), counted⟩
  · simp only [response, watch, isSuccessStatus_iff.2 success, if_true]
    exact congrArg (Watch.mk (.given (start + after)) ∘ some) read
  · simp only [response, deeds, isSuccessStatus_iff.2 success, if_true]
    exact congrArg ((start + after, Deed.notify) :: ·) split

theorem course_of_not_connects (e : Eyeball) (start : Nat) (never : ∀ after, ¬ response.Connects after) :
    (response = .silent ∧ e.watch start response = ⟨.silent, none⟩ ∧ e.deeds start response = []) ∨
      ∃ ended failure, response ≠ .silent ∧ e.FailsWith failure ∧
        e.watch start response = ⟨.withdrawn ended, some (ended, .error failure)⟩ ∧
        e.deeds start response = [(ended, .finish (.error failure))] := by
  rcases response with ⟨after, reason⟩ | _ | ⟨after, status, chunks, ending⟩
  · exact .inr ⟨_, _, nofun, .request reason, rfl, rfl⟩
  · exact .inl ⟨rfl, rfl, rfl⟩
  · have refused : ¬ isSuccessStatus status = true := fun success => never after ⟨isSuccessStatus_iff.1 success⟩
    refine .inr ⟨start + after, e.refused status, nofun, .refused status, ?_, ?_⟩
    · simp only [watch, if_neg refused]
    · simp only [deeds, if_neg refused]

/-! The deeds of an eyeball, one kind at a time. -/

theorem mem_notify_iff {time : Nat} :
    (time, .notify) ∈ e.deeds start response ↔ (e.watch start response).notice = .given time := by
  rcases response.success_or_never with ⟨after, status, chunks, ending, rfl, success⟩ | never
  · obtain ⟨taken, ended, result, k, watched, deeds, takes, -⟩ := course_of_success e start after chunks ending success
    rw [watched, deeds]
    simp [takes.not_mem time .notify rfl, eq_comm]
  · obtain ⟨-, watched, deeds⟩ | ⟨ended, failure, -, -, watched, deeds⟩ :=
      course_of_not_connects e start never <;> rw [watched, deeds] <;> simp

theorem mem_finish_iff {ended : Nat} {result : Except Failure LineReport} :
    (ended, .finish result) ∈ e.deeds start response ↔ (e.watch start response).finish = some (ended, result) := by
  rcases response.success_or_never with ⟨after, status, chunks, ending, rfl, success⟩ | never
  · obtain ⟨taken, _, _, k, watched, deeds, takes, -⟩ := course_of_success e start after chunks ending success
    rw [watched, deeds]
    simp [takes.not_mem ended (.finish result) rfl, eq_comm]
  · obtain ⟨-, watched, deeds⟩ | ⟨_, failure, -, -, watched, deeds⟩ :=
      course_of_not_connects e start never <;> rw [watched, deeds] <;> simp [eq_comm]

theorem notifies_of_connects (connects : response.Connects after) :
    (e.deeds start response).filter (·.2.isNotify) = [(start + after, .notify)] := by
  obtain ⟨success⟩ := connects
  rename_i status chunks ending
  obtain ⟨taken, ended, result, k, -, deeds, takes, -⟩ :=
    course_of_success e start after chunks ending success
  have silent : taken.filter (·.2.isNotify) = [] := by
    refine List.filter_eq_nil_iff.2 fun ⟨time, deed⟩ mem => ?_
    cases deed with
    | notify => exact absurd mem (takes.not_mem time .notify rfl)
    | _ => exact Bool.false_ne_true
  rw [deeds, List.filter_cons_of_pos rfl, List.filter_append, silent]
  rfl

theorem told_before_take {front rest : List (Nat × Deed)} {time : Nat} {octets : Bytes}
    (split : e.deeds start response = front ++ (time, .take octets) :: rest) :
    ∃ told ≤ time, (told, .notify) ∈ front := by
  rcases response.success_or_never with ⟨after, status, chunks, ending, rfl, success⟩ | never
  · obtain ⟨taken, ended, result, k, -, deeds, takes, -⟩ := course_of_success e start after chunks ending success
    rw [deeds] at split
    -- the first deed is the notice, so it stands in front of any other
    obtain ⟨rfl, same⟩ | ⟨front, rfl, later⟩ := List.cons_eq_append_iff.1 split
    · cases same
    · have mem : (time, Deed.take octets) ∈ taken := by
        have mem : (time, Deed.take octets) ∈ taken ++ [(ended, .finish result)] := by rw [later]; simp
        simpa using mem
      exact ⟨_, takes.since _ mem, List.mem_cons_self⟩
  · obtain ⟨-, -, deeds⟩ | ⟨_, failure, -, -, -, deeds⟩ :=
      course_of_not_connects e start never <;> rw [deeds] at split
    · simp at split
    · have mem : (time, Deed.take octets) ∈ front ++ (time, .take octets) :: rest := by simp
      rw [← split] at mem
      simp at mem

theorem fails_of_not_connects (never : ∀ after, ¬ response.Connects after) :
    (e.deeds start response).filter (·.2.isNotify) = [] ∧
      ((e.watch start response).finish = none ↔ response = .silent) ∧
      ∀ ended result, (e.watch start response).finish = some (ended, result) →
        (e.watch start response).notice = .withdrawn ended ∧ ∃ reason, result = .error (.eyeball reason) := by
  obtain ⟨rfl, watched, deeds⟩ | ⟨ended, failure, heard, fails, watched, deeds⟩ :=
    course_of_not_connects e start never <;> rw [watched, deeds]
  · exact ⟨rfl, by simp, nofun⟩
  · refine ⟨rfl, by simp [heard], ?_⟩
    rintro _ _ ⟨⟩
    obtain ⟨reason, rfl⟩ := fails.reason
    exact ⟨rfl, reason, rfl⟩

/-- A body is read alike whether it ends as it should or the connection is lost. -/
theorem readBody_over {c : LineCounter} {now : Nat} (gap : Nat) (isCut : Bool) :
    e.readBody (.over gap isCut) now c chunks = e.readBody (.over gap false) now c chunks := by
  induction chunks generalizing c now with
  | nil => rfl
  | cons chunk rest ih =>
    rw [readBody, readBody]
    split
    · split
      · rfl
      · exact ih
    · rfl

theorem watch_over (gap : Nat) (isCut : Bool) :
    e.watch start (.answered after status chunks (.over gap isCut)) =
      e.watch start (.answered after status chunks (.over gap false)) := by
  unfold watch
  simp only [readBody_over gap isCut]

end Eyeball

/-! ### What a scenario fails with -/

namespace DrainVerifier
open Supervised
variable {ω : Type} {v : DrainVerifier} {world : World ω} {scenario : Scenario} {watch : Option Watch}
  {P : Failure → Prop}

theorem checkInFlight_failsOnly (common : Failure.Common P)
    (objection : ∀ failure : Failure, failure.isObjection = true → P failure)
    (fails : ∀ stream, watch = some stream → stream.FailsOnly P) :
    FailsOnly P (v.checkInFlight world scenario watch) := by
  intro p
  cases watch with
  | none => trivial
  | some stream =>
    show wp (if scenario.expectsInFlight then v.refuseEnded world stream else pure ()) _ _ p
    split
    · simp only [refuseEnded, wp_bind, wp_now]
      split
      · rw [wp_bind]
        exact wp_mono (joinEyeball_failsOnly common (fails stream rfl) _ p) (fun _ _ _ => objection _ rfl)
          fun _ _ h => h
      · trivial
    · trivial

theorem drain_failsOnly (common : Failure.Common P) (accepting : ∀ signal, P (.stillAccepting signal))
    (fails : ∀ stream, watch = some stream → stream.FailsOnly P) (signal : TermSignal) :
    FailsOnly P (v.drain world scenario signal watch) := by
  intro p
  rw [drain, wp_bind, wp_get, wp_bind, wp_now, wp_bind]
  refine wp_mono (common.act (sendSignal_ofProcess signal) p) (fun _ sent _ => ?_) fun _ _ h => h
  rw [wp_bind, wp_callWorld]
  rcases world.awaitNotReady v.probeUrl notReadyTimeout sent.handle.world with ⟨_ | _, w⟩
  · exact accepting signal
  · rw [if_neg (by simp), wp_bind]
    refine wp_mono (common.act awaitTermination_ofProcess _) (fun outcome ended _ => ?_) fun _ _ h => h
    rw [wp_bind]
    exact wp_mono (joinOpened_failsOnly common fails ended) (fun _ _ _ => trivial) fun _ _ h => h

/-- A scenario fails for a reason of its process or its eyeball, because the connector goes on accepting, or because
it objects to what it has seen. -/
theorem exercise_failsOnly (common : Failure.Common P)
    (objection : ∀ failure : Failure, failure.isObjection = true → P failure)
    (accepting : ∀ signal, P (.stillAccepting signal)) (v : DrainVerifier) (world : World ω) (scenario : Scenario)
    (signal : TermSignal) : FailsOnly P (v.exercise world scenario signal) := by
  intro p
  rw [exercise, wp_bind]
  refine wp_mono (common.act (awaitReady_ofProcess _ _) p) (fun _ ready _ => ?_) fun _ _ h => h
  rw [wp_bind]
  refine wp_mono (openStream_fails common v world scenario ready) (fun watch opened fails => ?_) fun _ _ h => h
  rw [wp_bind]
  refine wp_mono (checkInFlight_failsOnly common objection fails opened) (fun _ checked _ => ?_) fun _ _ h => h
  rw [wp_bind]
  refine wp_mono (drain_failsOnly common accepting fails signal checked) (fun report _ _ => ?_) fun _ _ h => h
  unfold judge
  split
  · trivial
  · rename_i refused
    refine objection _ ?_
    obtain ⟨-, rfl⟩ | ⟨-, rfl⟩ | ⟨-, rfl⟩ := DrainReport.of_verdict_eq_error refused <;> rfl

end DrainVerifier

/-! ### The failure without a reason -/

/-- What is said of an eyeball that has given up and yet has not failed. -/
def Failure.unexplained : Failure := .eyeball "stream ended before headers arrived"

theorem Eyeball.FailsWith.ne_unexplained {e : Eyeball} {failure : Failure} (h : e.FailsWith failure) :
    failure ≠ .unexplained := by
  intro same
  cases h with
  | request reason =>
    have text := congrArg String.toList (Failure.eyeball.inj same)
    simp [toString, String.toList_append] at text
  | refused status =>
    -- the address may be any text, but behind it comes a letter that the other text does not have
    have text := congrArg ('w' ∈ String.toList ·) (Failure.eyeball.inj same)
    simp [toString, String.toList_append] at text
  | starved =>
    have text := congrArg String.toList (Failure.eyeball.inj same)
    simp [toString, String.toList_append] at text

theorem Failure.Common.explained : Common (· ≠ .unexplained) where
  ofProcess failure ofProcess := by
    rintro rfl
    cases ofProcess
  ofEyeball _ _ ofEyeball := ofEyeball.ne_unexplained

/-! ### The notice -/

namespace Eyeball
open Supervised

/-- An eyeball gives notice once if the status is one of success and never otherwise, and it has done so before it
takes a chunk. Without a notice it fails, if the request ever ends, and a scenario never has to make up a reason. With
a notice it fails if and only if something is late before a stop rule applies, and else reports what it has taken. That
the connection is cut makes no difference. -/
theorem notice_tells_of_connection (e : Eyeball) (start : Nat) (response : Response) :
    let watch := e.watch start response
    let deeds := e.deeds start response
    let counter : LineCounter := { earlyStop := e.earlyStop }
    (∀ time, (time, .notify) ∈ deeds ↔ watch.notice = .given time) ∧
    (∀ ended result, (ended, .finish result) ∈ deeds ↔ watch.finish = some (ended, result)) ∧
    (∀ after, response.Connects after → deeds.filter (·.2.isNotify) = [(start + after, .notify)]) ∧
    (∀ front time octets rest, deeds = front ++ (time, .take octets) :: rest →
      ∃ told ≤ time, (told, .notify) ∈ front) ∧
    ((∀ after, ¬ response.Connects after) →
      deeds.filter (·.2.isNotify) = [] ∧ (watch.finish = none ↔ response = .silent) ∧
      ∀ ended result, watch.finish = some (ended, result) →
        watch.notice = .withdrawn ended ∧ ∃ reason, result = .error (.eyeball reason)) ∧
    ((∀ time, watch.notice ≠ .given time) → ∀ (ω : Type) (world : World ω) timeout (p : Supervised ω) report,
      ((joinEyeball world watch timeout).run.run p).1 ≠ .ok report) ∧
    (∀ (ω : Type) (v : DrainVerifier) (world : World ω) scenario signal (p : Supervised ω),
      ((v.exercise world scenario signal).run.run p).1 ≠
        .error (.eyeball "stream ended before headers arrived")) ∧
    (∀ after status chunks ending, response = .answered after status chunks ending → 200 ≤ status → status < 300 →
      ∃ ended result, watch.finish = some (ended, result) ∧ start + after ≤ ended ∧
        (∀ r, result = r ↔ e.Reads ending counter chunks r) ∧
        ((∃ reason, result = .error (.eyeball reason)) ↔
          ∃ k ≤ chunks.length, (∀ j ≤ k, ¬ Stopped counter chunks j) ∧ ¬ e.InTime ending chunks k) ∧
        (∀ failure, result = .error failure → failure = e.starved) ∧
        ∃ k ≤ chunks.length, deeds.filterMap (·.2.octets?) = (chunks.take k).map Chunk.octets ∧
          ∀ report, result = .ok report → report = (countAfter counter chunks k).finish) ∧
    ∀ after status chunks gap, response = .answered after status chunks (.over gap true) →
      watch = e.watch start (.answered after status chunks (.over gap false)) := by
  intro watch deeds counter
  refine ⟨fun _ => mem_notify_iff, fun _ _ => mem_finish_iff, fun _ => notifies_of_connects,
    fun _ _ _ _ => told_before_take, fails_of_not_connects, fun never ω world timeout p report => ?_,
    fun ω v world scenario signal p => ?_, ?_, ?_⟩
  · intro joined
    exact ok_of_wp (joinEyeball_ends (Q := fun _ => False) (P := fun _ => True)
      (fun _ _ finish => failed_of_not_given never finish) (fun _ _ _ => trivial) (fun _ _ => trivial) timeout p) joined
  · intro failed
    have explained := DrainVerifier.exercise_failsOnly Failure.Common.explained
      (by rintro _ objection rfl; cases objection) (fun _ => nofun) v world scenario signal p
    exact error_of_wp explained failed rfl
  · rintro after status chunks ending rfl low high
    obtain ⟨taken, ended, result, k, watched, did, takes, since, reads, counted⟩ :=
      course_of_success e start after chunks ending ⟨low, high⟩
    refine ⟨ended, result, congrArg Watch.finish watched, since, ?_, ?_, ?_, k, takes.le, ?_, counted⟩
    · exact fun r => ⟨fun same => same ▸ reads, fun reads' => reads.unique reads'⟩
    · rw [← reads.fails_iff]
      constructor
      · rintro ⟨reason, rfl⟩
        exact ⟨_, rfl⟩
      · rintro ⟨failure, rfl⟩
        exact ⟨_, congrArg _ reads.error_eq⟩
    · rintro failure rfl
      exact reads.error_eq
    · simp only [deeds, did, List.filterMap_cons, List.filterMap_append, takes.octets]
      simp [Deed.octets?]
  · rintro after status chunks gap rfl
    exact watch_over gap true

/-- A connection that is lost after a line is reported like a stream that has ended. -/
theorem lost_connection_is_reported :
    let e : Eyeball := ⟨"http://tunnel/sse", .ofSecs 2, none⟩
    let response := Response.answered 3 200 [⟨1, [49, 10]⟩] (.over 4 true)
    (e.deeds 5 response).filter (·.2.isNotify) = [(8, .notify)] ∧
      (e.watch 5 response).finish = some (13, .ok ⟨1, false, false⟩) ∧
      e.watch 5 response = e.watch 5 (.answered 3 200 [⟨1, [49, 10]⟩] (.over 4 false)) := by
  intro e response
  obtain ⟨-, -, once, -, -, -, -, -, cut⟩ := notice_tells_of_connection e 5 response
  exact ⟨once 3 ⟨by decide⟩, rfl, cut _ _ _ _ rfl⟩

end Eyeball

end GracefulDrain
