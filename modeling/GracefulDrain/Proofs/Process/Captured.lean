import GracefulDrain.Proofs.Process.Shutdown
import Mathlib.Data.List.DropRight

/-! # A buffer keeps the beginning of a stream

Whatever has been done to a buffer, it holds the front of all that has been appended since it was last emptied, up
to its limit (`octets_after`). A handle works out what it has captured from the output of the host and from how much of
it has been handed over. That comes to what a buffer holds into which the output was read in whatever chunks
(`Handle.filled_of_untaken`, `Handle.captured_eq_after`) and which is emptied by each drain (`Handle.drain_takes`). -/

namespace GracefulDrain

theorem joined_append (pieces pieces' : List ByteArray) :
    joined (pieces ++ pieces') = joined pieces ++ joined pieces' := by
  induction pieces' using List.reverseRecOn with
  | nil => rw [List.append_nil, joined, joined, List.foldl_nil, ByteArray.append_empty]
  | append_singleton pieces' piece ih =>
    have last (pieces : List ByteArray) : joined (pieces ++ [piece]) = joined pieces ++ piece := List.foldl_concat ..
    rw [← List.append_assoc, last, last, ih, ByteArray.append_assoc]

namespace OutputBuffer

/-- What is done to a buffer. -/
inductive Access
  | append (chunk : ByteArray)
  | snapshot
  | take

namespace Access

/-- The text that is asked for, if one is, and the buffer that is left. -/
def perform (b : OutputBuffer) : Access → Option String × OutputBuffer
  | append chunk => (none, b.append chunk)
  | snapshot => (some b.snapshot, b)
  | take => (some b.take.1, b.take.2)

def chunk? : Access → Option ByteArray
  | append chunk => some chunk
  | _ => none

def isTake : Access → Bool
  | take => true
  | _ => false

end Access

/-- A buffer to which `past` have been done. -/
def after (past : List Access) : OutputBuffer := past.foldl (fun b access => (access.perform b).2) {}

/-- All that `past` append. -/
def appended (past : List Access) : ByteArray := joined (past.filterMap Access.chunk?)

/-- All that has been appended since the buffer was last emptied. -/
def pending (past : List Access) : ByteArray := appended (past.rtakeWhile fun access => !access.isTake)

/-- All that had been appended when the buffer was last emptied. -/
def handedOver (past : List Access) : ByteArray := appended (past.rdropWhile fun access => !access.isTake)

variable {past more : List Access} {access : Access}

theorem appended_append (past more : List Access) : appended (past ++ more) = appended past ++ appended more := by
  rw [appended, List.filterMap_append, joined_append]
  rfl

theorem appended_map_append (chunks : List ByteArray) : appended (chunks.map .append) = joined chunks := by
  rw [appended, List.filterMap_map]
  exact congrArg joined List.filterMap_some

theorem handedOver_append_pending (past : List Access) : handedOver past ++ pending past = appended past := by
  rw [handedOver, pending, ← appended_append, List.rdropWhile_append_rtakeWhile]

theorem pending_concat (kept : access.isTake = false) :
    pending (past ++ [access]) = pending past ++ appended [access] := by
  have goesOn : (!access.isTake) = true := by
    rw [kept]
    rfl
  rw [pending, List.rtakeWhile_concat_pos (fun access : Access => !access.isTake) _ _ goesOn, appended_append]
  rfl

theorem handedOver_take (past : List Access) : handedOver (past ++ [.take]) = appended past := by
  rw [handedOver, List.rdropWhile_concat_neg _ _ _ (by decide), appended_append]
  exact ByteArray.append_empty

theorem pending_take (past : List Access) : pending (past ++ [.take]) = .empty := by
  rw [pending, List.rtakeWhile_concat_neg _ _ _ (by decide)]
  rfl

/-- As long as a buffer is not emptied, there is only more to keep. -/
theorem pending_append (kept : ∀ access ∈ more, access.isTake = false) :
    pending (past ++ more) = pending past ++ appended more := by
  induction more using List.reverseRecOn with
  | nil => rw [List.append_nil, show appended [] = .empty from rfl, ByteArray.append_empty]
  | append_singleton more access ih =>
    obtain ⟨before, last⟩ := List.forall_mem_append.1 kept
    have kept : access.isTake = false := last access (List.mem_singleton_self access)
    rw [← List.append_assoc, pending_concat kept, ih before, appended_append, ByteArray.append_assoc]

theorem after_concat (past : List Access) (access : Access) :
    after (past ++ [access]) = (access.perform (after past)).2 := List.foldl_concat ..

/-- A buffer holds the front of what has been appended since it was last emptied. -/
theorem octets_after (past : List Access) : (after past).octets = (pending past).extract 0 limit := by
  -- by the last access, as an access adds to what the earlier ones have left or does away with it
  induction past using List.reverseRecOn with
  | nil => rfl
  | append_singleton past access ih =>
    rw [after_concat]
    cases access with
    | append chunk =>
      have added : appended [.append chunk] = chunk := ByteArray.empty_append
      rw [pending_concat rfl, added]
      exact octets_append ih chunk
    | snapshot =>
      have added : appended [.snapshot] = .empty := rfl
      rw [pending_concat rfl, added, ByteArray.append_empty]
      exact ih
    | take =>
      rw [pending_take]
      rfl

/-- How the stream was cut into chunks is forgotten. -/
theorem after_eq_append (past : List Access) : after past = ({} : OutputBuffer).append (pending past) := by
  have whole := @octets_append {} .empty rfl (pending past)
  rw [ByteArray.empty_append] at whole
  exact congrArg OutputBuffer.mk ((octets_after past).trans whole.symm)

theorem after_take (past more : List Access) : after (past ++ .take :: more) = after more := List.foldl_append ..

/-- Nothing is added to a buffer that is full. -/
theorem after_of_full (full : limit ≤ (pending past).size) (kept : ∀ access ∈ more, access.isTake = false) :
    after (past ++ more) = after past := by
  have same : (after (past ++ more)).octets = (after past).octets := by
    rw [octets_after, octets_after, pending_append kept, ByteArray.extract_append]
    have none : limit - (pending past).size = 0 := by omega
    rw [none, Nat.zero_sub, ByteArray.extract_same, ByteArray.append_empty]
  exact congrArg OutputBuffer.mk same

/-- Whatever is done to a buffer, it holds the front of all that has been appended since the last take, as if that had
been appended at once. Once something has been left out, nothing more is kept until the next take. A snapshot and a
take both hand over the text of what is held; a snapshot changes nothing, and after a take the buffer is as good as
new. -/
theorem holds_the_front (past : List Access) :
    let b := after past
    let held := (pending past).extract 0 limit
    b.octets = held ∧ b.size ≤ limit ∧ b = ({} : OutputBuffer).append (pending past) ∧
      (limit ≤ (pending past).size →
        ∀ more, (∀ access ∈ more, access.isTake = false) → after (past ++ more) = b) ∧
      Access.snapshot.perform b = (some (Utf8.lossy held), b) ∧
      Access.take.perform b = (some (Utf8.lossy held), {}) ∧
      ∀ more, after (past ++ .take :: more) = after more := by
  intro b held
  have octets : b.octets = held := octets_after past
  have text : b.snapshot = Utf8.lossy held := by rw [snapshot, octets]
  refine ⟨octets, ?_, after_eq_append past, fun full more kept => after_of_full full kept, ?_, ?_, after_take past⟩
  · rw [size, octets, ByteArray.size_extract]
    omega
  · rw [Access.perform, text]
  · rw [Access.perform, take, text]

/-- Of the last chunk one octet fits, and nothing that comes behind it is kept until the buffer is emptied. -/
theorem holds_the_front_of_overlong_stream :
    let filling : ByteArray := ⟨.replicate (limit - 1) 97⟩
    let past : List Access := [.append filling, .snapshot, .append "bc".toUTF8]
    limit ≤ (pending past).size ∧ (after past).octets = filling ++ "b".toUTF8 ∧
      after (past ++ [.append "d".toUTF8, .snapshot]) = after past ∧
      (Access.take.perform (after (past ++ [.take, .append "d".toUTF8]))).1 = some "d" := by
  intro filling past
  have size : filling.size = limit - 1 := Array.size_replicate
  have room : limit - (limit - 1) = 1 := by decide
  have whole : pending past = filling ++ "bc".toUTF8 := by
    have joined (filling : ByteArray) : pending [.append filling, .snapshot, .append "bc".toUTF8] =
        .empty ++ filling ++ "bc".toUTF8 := rfl
    rw [joined, ByteArray.empty_append]
  have full : limit ≤ (pending past).size := by
    rw [whole, ByteArray.size_append, size, show "bc".toUTF8.size = 2 from rfl]
    omega
  obtain ⟨octets, -, -, stays, -, -, again⟩ := holds_the_front past
  refine ⟨full, ?_, stays full _ (by decide), ?_⟩
  · have cut : "bc".toUTF8.extract 0 1 = "b".toUTF8 := rfl
    have uncut : filling.extract 0 limit = filling := extract_of_fits (by omega)
    rw [octets, whole, ByteArray.extract_append, uncut, size, room, Nat.zero_sub, cut]
  · rw [again]
    rfl

end OutputBuffer

namespace Handle
open OutputBuffer
variable {σ : Type} {host : Host σ} {h : Handle σ} {stream : Stream} {past : List Access}

/-- A stream of the child has been read, and what had been read was handed over, as `past` tell. -/
structure Filled (host : Host σ) (h : Handle σ) (stream : Stream) (past : List Access) : Prop where
  read : host.output stream h.world = appended past
  taken : h.taken stream = (handedOver past).size

/-- Whatever chunks a stream is read in, it is all there until it is handed over. -/
theorem filled_of_untaken {chunks : List ByteArray} (untaken : h.taken stream = 0)
    (read : host.output stream h.world = joined chunks) : h.Filled host stream (chunks.map .append) where
  read := by rw [read, appended_map_append]
  taken := by
    have none : (chunks.map Access.append).rdropWhile (fun access => !access.isTake) = [] :=
      List.rdropWhile_eq_nil_iff.2 (List.forall_mem_map.2 fun _ _ => rfl)
    rw [untaken, handedOver, none]
    rfl

theorem captured_eq_after (filled : h.Filled host stream past) : h.captured host stream = after past := by
  have rest : (host.output stream h.world).extract (h.taken stream) (host.output stream h.world).size =
      pending past := by
    rw [filled.read, filled.taken, ← handedOver_append_pending]
    exact ByteArray.extract_append_eq_right rfl ByteArray.size_append
  rw [captured, rest, after_eq_append]

/-- A drain takes from both buffers what has been read when the child has nothing more to say. -/
theorem drain_takes {past : Stream → List Access}
    (filled : ∀ stream, Filled host { h with world := host.settle h.world } stream (past stream)) :
    (h.drain host).1 = ⟨(after (past .stdout)).take.1, (after (past .stderr)).take.1⟩ ∧
      ∀ stream, (h.drain host).2.Filled host stream (past stream ++ [.take]) := by
  have text (stream : Stream) :
      Handle.snapshot host { h with world := host.settle h.world } stream = (after (past stream)).take.1 := by
    rw [Handle.snapshot, captured_eq_after (filled stream), OutputBuffer.take]
  refine ⟨congr (congrArg CapturedOutput.mk (text .stdout)) (text .stderr), fun stream => ⟨?_, ?_⟩⟩
  · rw [appended_append, show appended [.take] = .empty from rfl, ByteArray.append_empty]
    exact (filled stream).read
  · have all : (h.drain host).2.taken stream = (host.output stream (host.settle h.world)).size := by
      cases stream <;> rfl
    rw [all, handedOver_take, ← (filled stream).read]

end Handle

end GracefulDrain
