import GracefulDrain.Proofs.Drain.Mirror
import GracefulDrain.Proofs.Process.Frame
import GracefulDrain.Rehearsal.World
import Mathlib.Data.Nat.Find
import Mathlib.Data.PFun

/-! # Waits by their rounds

A wait for readiness repeats a round until one is decisive, so its result is that of the first decisive round
(`mem_repeated_iff`). `Polling` is such a wait with a pause of any length, even of none, so it is a partial function: it
goes on for as long as the clock stands. It ends if the clock advances by a fixed amount from round to round
(`repeated_ends`). With the pause of `probeInterval` it is the wait that is run. -/

namespace GracefulDrain

section
variable {σ α : Type} {round : σ → Option α × σ} {rest : σ → σ} {s t : σ} {a : α} {k : Nat}

/-- Repeats a round, with a rest behind each, until one decides something. -/
def repeated (round : σ → Option α × σ) (rest : σ → σ) : σ →. α × σ :=
  PFun.fix fun s => Part.some <|
    match round s with
    | (some verdict, t) => .inl (verdict, t)
    | (none, t) => .inr (rest t)

/-- Where the `k`-th round begins, if the rounds go on for so long. -/
def roundStart (round : σ → Option α × σ) (rest : σ → σ) (s : σ) : Nat → σ
  | 0 => s
  | k + 1 => roundStart round rest (rest (round s).2) k

theorem roundStart_succ : roundStart round rest s (k + 1) = rest (round (roundStart round rest s k)).2 := by
  induction k generalizing s with
  | zero => rfl
  | succ k ih => exact ih (s := rest (round s).2)

theorem roundStart_of_undecided (first : round s = (none, t)) :
    roundStart round rest s (k + 1) = roundStart round rest (rest t) k := by
  rw [roundStart, first]

theorem repeated_of_decided (decided : round s = (some a, t)) : repeated round rest s = Part.some (a, t) := by
  refine Part.eq_some_iff.2 (PFun.fix_stop ?_)
  rw [decided]
  exact Part.mem_some _

theorem repeated_of_undecided (undecided : round s = (none, t)) :
    repeated round rest s = repeated round rest (rest t) := by
  refine PFun.fix_fwd_eq ?_
  rw [undecided]
  exact Part.mem_some _

/-- The first round that decides something gives the result. -/
theorem mem_repeated_iff : (a, t) ∈ repeated round rest s ↔
    ∃ k, (∀ j < k, (round (roundStart round rest s j)).1 = none) ∧
      round (roundStart round rest s k) = (some a, t) := by
  constructor
  · intro ends
    -- induction on the rounds up to the one that ends it
    refine PFun.fixInduction ends fun s (ends : (a, t) ∈ repeated round rest s) ih => ?_
    rcases first : round s with ⟨_ | verdict, q⟩
    · obtain ⟨k, before, decisive⟩ := ih (rest q) (by rw [first]; exact Part.mem_some _)
      refine ⟨k + 1, Nat.forall_lt_succ_left.2 ⟨congrArg Prod.fst first, fun j lt => ?_⟩, ?_⟩
      · rw [roundStart_of_undecided first]
        exact before j lt
      · rw [roundStart_of_undecided first]
        exact decisive
    · rw [repeated_of_decided first] at ends
      cases Part.mem_some_iff.1 ends
      exact ⟨0, nofun, first⟩
  · rintro ⟨k, before, decisive⟩
    induction k generalizing s with
    | zero =>
      rw [repeated_of_decided (show round s = _ from decisive)]
      exact Part.mem_some _
    | succ k ih =>
      have first : round s = (none, (round s).2) := Prod.ext (before 0 (Nat.succ_pos k)) rfl
      rw [repeated_of_undecided first]
      exact ih (fun j lt => before (j + 1) (Nat.succ_lt_succ lt)) decisive

theorem undecided_of_endless (endless : ¬ (repeated round rest s).Dom) (k : Nat) :
    (round (roundStart round rest s k)).1 = none := by
  -- no round before has decided anything either, or the wait would have ended there
  induction k using Nat.strongRecOn with
  | ind k before =>
    rcases decided : round (roundStart round rest s k) with ⟨_ | verdict, q⟩
    · rfl
    · exact absurd (Part.dom_iff_mem.2 ⟨_, mem_repeated_iff.2 ⟨k, before, decided⟩⟩) endless

/-- Rounds come to an end if something that only grows up to a limit while they are undecided grows by a fixed amount
from each to the next. -/
theorem repeated_ends (elapsed : Nat → Nat) (limit : Nat) {δ : Nat} (pos : 0 < δ)
    (below : ∀ k, (∀ j ≤ k, (round (roundStart round rest s j)).1 = none) → elapsed k < limit)
    (grows : ∀ k, (∀ j ≤ k, (round (roundStart round rest s j)).1 = none) → elapsed k + δ ≤ elapsed (k + 1)) :
    (repeated round rest s).Dom := by
  refine Classical.byContradiction fun endless => ?_
  have never := undecided_of_endless endless
  have far (k : Nat) : k * δ ≤ elapsed k := by
    induction k with
    | zero => rw [Nat.zero_mul]; exact Nat.zero_le _
    | succ k ih =>
      rw [Nat.succ_mul]
      exact Nat.le_trans (Nat.add_le_add_right ih δ) (grows k fun j _ => never j)
  have late := far limit
  have early := below limit fun j _ => never j
  have long : limit ≤ limit * δ := Nat.le_mul_of_pos_right limit pos
  omega

end

/-- How a wait looks for a change: where, with which pauses, and for how long. -/
structure Polling (ω : Type) where
  world : World ω
  url : String
  interval : Duration
  timeout : Duration

namespace Polling
open Supervised
variable {ω : Type}

/-! ### The wait for readiness -/

section
variable (c : Polling ω) (p : Supervised ω) (k : Nat)

def round : Supervised ω → Option (Except Failure Unit) × Supervised ω :=
  readyRound c.world c.url (c.world.clock p.handle.world) c.timeout

def rest (q : Supervised ω) : Supervised ω := q.inWorld (c.world.pause .readiness c.interval q.handle.world)

def awaitReady : Part (Except Failure Unit × Supervised ω) := repeated (c.round p) c.rest p

/-- The process as the `k`-th round finds it. -/
def found : Supervised ω := roundStart (c.round p) c.rest p k

/-- What the probe of the round says, and the world after it. -/
def probe : Bool × ω := c.world.isReady c.url (c.found p k).handle.world

/-- What the round learns about the process behind its probe, and the process then. -/
def poll : Except Failure (Option (Option Int)) × Supervised ω :=
  (Supervised.poll c.world.toHost).run.run ((c.found p k).inWorld (c.probe p k).2)

/-- The time since the wait began, behind probe and poll. -/
def elapsed : Nat := c.world.clock (c.poll p k).2.handle.world - c.world.clock p.handle.world

/-- The connector is not ready, the process is alive, and there is time left. -/
def Undecided : Prop :=
  (c.probe p k).1 = false ∧ (c.poll p k).1 = .ok none ∧ c.elapsed p k < c.timeout.nanos

/-- What the round decides, and how it leaves the process. -/
inductive Decides : Except Failure Unit → Supervised ω → Prop
  | ready (ready : (c.probe p k).1 = true) : Decides (.ok ()) ((c.found p k).inWorld (c.probe p k).2)
  | ended {code : Option Int} (unready : (c.probe p k).1 = false) (ended : (c.poll p k).1 = .ok (some code)) :
    Decides (.error (.commandFailed (p.argv.headD "") (code.getD (-1))
      (Text.trim ((c.poll p k).2.handle.snapshot c.world.toHost .stderr)))) (c.poll p k).2
  | late (unready : (c.probe p k).1 = false) (alive : (c.poll p k).1 = .ok none)
      (late : c.timeout.nanos ≤ c.elapsed p k) :
    Decides (.error (.timedOut .readiness (.saturate (c.elapsed p k))
      ((c.poll p k).2.handle.snapshot c.world.toHost .stderr))) (c.poll p k).2
  /-- The host does not say whether the process is alive. -/
  | failed {failure : Failure} (unready : (c.probe p k).1 = false) (failed : (c.poll p k).1 = .error failure) :
    Decides (.error failure) (c.poll p k).2

end

variable {c : Polling ω} {p q : Supervised ω} {k : Nat} {r : Except Failure Unit}

theorem inWorld_keeps (w : ω) : q.Keeps (q.inWorld w) := .of_handle rfl

theorem round_keeps (q : Supervised ω) : q.Keeps (c.round p q).2 := by
  have probed : q.Keeps (q.inWorld (c.world.isReady c.url q.handle.world).2) := inWorld_keeps _
  have polled := probed.trans (Supervised.keeps_poll c.world.toHost _)
  unfold round readyRound
  dsimp only
  split
  · exact probed
  · split <;> rename_i ran <;> rw [ran] at polled
    · exact polled
    · exact polled
    · split <;> exact polled

theorem found_keeps (k : Nat) : p.Keeps (c.found p k) := by
  induction k with
  | zero => exact .refl p
  | succ k ih =>
    rw [found, roundStart_succ]
    exact (ih.trans (round_keeps _)).trans (inWorld_keeps _)

theorem argv_poll (k : Nat) : (c.poll p k).2.argv = p.argv :=
  (((found_keeps k).trans (inWorld_keeps _)).trans (Supervised.keeps_poll _ _)).argv

theorem round_eq (k : Nat) : c.round p (c.found p k) =
    if (c.probe p k).1 then (some (.ok ()), (c.found p k).inWorld (c.probe p k).2)
    else
      (match (c.poll p k).1 with
      | .error failure => some (.error failure)
      | .ok (some code) => some (.error ((c.poll p k).2.endedWith c.world.toHost code))
      | .ok none =>
        if c.timeout.nanos ≤ c.elapsed p k then
          some (.error (.timedOut .readiness (.saturate (c.elapsed p k))
            ((c.poll p k).2.handle.snapshot c.world.toHost .stderr)))
        else none, (c.poll p k).2) := by
  have polled : (Supervised.poll c.world.toHost).run.run ((c.found p k).inWorld (c.probe p k).2) =
      ((c.poll p k).1, (c.poll p k).2) := rfl
  unfold round readyRound
  rw [show c.world.isReady c.url (c.found p k).handle.world = c.probe p k from rfl]
  dsimp only
  rw [polled]
  congr 1
  rcases (c.poll p k).1 with failure | _ | code
  · rfl
  · exact (apply_ite (·, (c.poll p k).2) ..).symm
  · rfl

theorem round_of_undecided (undecided : c.Undecided p k) : c.round p (c.found p k) = (none, (c.poll p k).2) := by
  obtain ⟨unready, alive, early⟩ := undecided
  rw [round_eq, unready, alive]
  simp only [if_neg (Nat.not_le.2 early), Bool.false_eq_true, if_false]

theorem found_succ (undecided : c.Undecided p k) : c.found p (k + 1) = c.rest (c.poll p k).2 := by
  rw [found, roundStart_succ]
  exact congrArg (fun round => c.rest round.2) (round_of_undecided undecided)

theorem round_of_decides (decides : c.Decides p k r q) : c.round p (c.found p k) = (some r, q) := by
  rw [round_eq]
  cases decides with
  | ready ready => rw [if_pos ready]
  | ended unready ended =>
    rw [unready, ended, if_neg Bool.false_ne_true]
    simp only [endedWith, argv_poll]
  | late unready alive late =>
    rw [unready, alive, if_neg Bool.false_ne_true]
    simp only [if_pos late]
  | failed unready failed => rw [unready, failed, if_neg Bool.false_ne_true]

theorem undecided_or_decides (c : Polling ω) (p : Supervised ω) (k : Nat) :
    c.Undecided p k ∨ ∃ r q, c.Decides p k r q := by
  cases unready : (c.probe p k).1 with
  | true => exact .inr ⟨_, _, .ready unready⟩
  | false =>
    rcases polled : (c.poll p k).1 with failure | _ | code
    · exact .inr ⟨_, _, .failed unready polled⟩
    · by_cases late : c.timeout.nanos ≤ c.elapsed p k
      · exact .inr ⟨_, _, .late unready polled late⟩
      · exact .inl ⟨unready, polled, Nat.lt_of_not_le late⟩
    · exact .inr ⟨_, _, .ended unready polled⟩

theorem undecided_iff : (c.round p (c.found p k)).1 = none ↔ c.Undecided p k := by
  refine ⟨fun none => ?_, fun undecided => by rw [round_of_undecided undecided]⟩
  obtain undecided | ⟨r, q, decides⟩ := c.undecided_or_decides p k
  · exact undecided
  · rw [round_of_decides decides] at none
    cases none

theorem decides_iff : c.round p (c.found p k) = (some r, q) ↔ c.Decides p k r q := by
  refine ⟨fun some => ?_, round_of_decides⟩
  obtain undecided | ⟨r, q, decides⟩ := c.undecided_or_decides p k
  · cases some.symm.trans (round_of_undecided undecided)
  · cases some.symm.trans (round_of_decides decides)
    exact decides

theorem mem_awaitReady_iff :
    (r, q) ∈ c.awaitReady p ↔ ∃ k, (∀ j < k, c.Undecided p j) ∧ c.Decides p k r q := by
  rw [awaitReady, mem_repeated_iff]
  exact exists_congr fun k => and_congr (forall₂_congr fun j _ => undecided_iff) decides_iff

theorem state_poll (q : Supervised ω) : wp (Supervised.poll c.world.toHost)
    (fun code q' => q'.state = if code.isSome then q.state.raise .terminated else q.state) (fun _ _ => True) q := by
  rw [wp_poll]
  refine wp_of_forall (fun exit h => ?_) fun _ _ => trivial
  cases exit <;> rfl

theorem state_found (undecided : ∀ j < k, c.Undecided p j) : (c.found p k).state = p.state := by
  induction k with
  | zero => rfl
  | succ k ih =>
    have last := undecided k (Nat.lt_succ_self k)
    have same : (c.poll p k).2.state = (c.found p k).state :=
      ok_of_wp (state_poll ((c.found p k).inWorld (c.probe p k).2)) last.2.1
    rw [found_succ last]
    exact same.trans (ih fun j lt => undecided j (Nat.lt_succ_of_lt lt))

/-- A process that has ended in the round is terminated, unless it was in the end of its life before the wait. -/
theorem state_of_ended {code : Option Int} (undecided : ∀ j < k, c.Undecided p j)
    (ended : (c.poll p k).1 = .ok (some code)) :
    (c.poll p k).2.state = if p.state.isTerminal then p.state else .terminated := by
  have raised : (c.poll p k).2.state = (c.found p k).state.raise .terminated :=
    ok_of_wp (state_poll ((c.found p k).inWorld (c.probe p k).2)) ended
  rw [raised, state_found undecided]
  split
  · exact Lifecycle.raise_of_isTerminal ‹_›
  · exact Lifecycle.raise_terminated (Bool.eq_false_iff.2 ‹_›)

theorem awaitReady_ends {δ : Nat} (pos : 0 < δ)
    (grows : ∀ k, (∀ j ≤ k, c.Undecided p j) → c.elapsed p k + δ ≤ c.elapsed p (k + 1)) :
    (c.awaitReady p).Dom := by
  refine repeated_ends (c.elapsed p) c.timeout.nanos pos (fun k undecided => ?_) fun k undecided => ?_
  · exact (undecided_iff.1 (undecided k (Nat.le_refl k))).2.2
  · exact grows k fun j le => undecided_iff.1 (undecided j le)

theorem clock_found_le_poll (k : Nat) :
    c.world.clock (c.found p k).handle.world ≤ c.world.clock (c.poll p k).2.handle.world :=
  Nat.le_trans (c.world.le_clock_isReady c.url _)
    (clock_le_run_poll c.world ((c.found p k).inWorld (c.probe p k).2))

theorem clock_rest (q : Supervised ω) :
    c.world.clock q.handle.world + c.interval.nanos ≤ c.world.clock (c.rest q).handle.world :=
  c.world.le_clock_pause .readiness c.interval q.handle.world

theorem clock_le_found (undecided : ∀ j < k, c.Undecided p j) :
    c.world.clock p.handle.world ≤ c.world.clock (c.found p k).handle.world := by
  induction k with
  | zero => exact Nat.le_refl _
  | succ k ih =>
    have before := ih fun j lt => undecided j (Nat.lt_succ_of_lt lt)
    have polled := clock_found_le_poll (c := c) (p := p) k
    have rested := c.clock_rest (c.poll p k).2
    rw [found_succ (undecided k (Nat.lt_succ_self k))]
    omega

/-- From one round to the next the clock advances by the pause at least. -/
theorem elapsed_add_interval_le (undecided : ∀ j ≤ k, c.Undecided p j) :
    c.elapsed p k + c.interval.nanos ≤ c.elapsed p (k + 1) := by
  have begun := clock_le_found fun j (lt : j < k) => undecided j (Nat.le_of_lt lt)
  have polled := clock_found_le_poll (c := c) (p := p) k
  have rested := c.clock_rest (c.poll p k).2
  have polled' := clock_found_le_poll (c := c) (p := p) (k + 1)
  rw [found_succ (undecided k (Nat.le_refl k))] at polled'
  unfold elapsed
  omega

theorem awaitReady_probeInterval (c : Polling ω) (p : Supervised ω) :
    awaitReady { c with interval := probeInterval } p =
      Part.some ((Supervised.awaitReady c.world c.url c.timeout).run.run p) := by
  have same (start : Nat) (q : Supervised ω) :
      repeated (readyRound c.world c.url start c.timeout) (rest { c with interval := probeInterval }) q =
        Part.some (awaitReadySince c.world c.url start c.timeout q) := by
    induction q using awaitReadySince.induct c.world c.url start c.timeout with
    | case1 q verdict q' round => rw [repeated_of_decided round, run_awaitReadySince, round]
    | case2 q q' round ih =>
      rw [repeated_of_undecided round, run_awaitReadySince, round]
      exact ih
  exact same (c.world.clock p.handle.world) p

/-! ### The wait for the end of readiness -/

section
variable (c : Polling ω) (w : ω) (k : Nat)

def deadline : Nat := c.world.clock w + c.timeout.nanos

def notReadyRound (v : ω) : Option Bool × ω :=
  let (ready, after) := c.world.isReady c.url v
  (if !ready then some true else if c.deadline w ≤ c.world.clock after then some false else none, after)

def awaitNotReady : Part (Bool × ω) := repeated (c.notReadyRound w) (c.world.pause .readiness c.interval) w

/-- What the probe of the `k`-th round says, and the world after it. -/
def check : Bool × ω :=
  c.world.isReady c.url (roundStart (c.notReadyRound w) (c.world.pause .readiness c.interval) w k)

/-- The probe of the round has found the connector ready, with time left. -/
def GoesOn : Prop := (c.check w k).1 = true ∧ c.world.clock (c.check w k).2 < c.deadline w

end

variable {w after : ω} {gone : Bool}

theorem notReadyRound_eq (k : Nat) :
    c.notReadyRound w (roundStart (c.notReadyRound w) (c.world.pause .readiness c.interval) w k) =
      (if !(c.check w k).1 then some true
        else if c.deadline w ≤ c.world.clock (c.check w k).2 then some false else none, (c.check w k).2) := rfl

theorem goesOn_iff :
    (c.notReadyRound w (roundStart (c.notReadyRound w) (c.world.pause .readiness c.interval) w k)).1 = none ↔
      c.GoesOn w k := by
  rw [notReadyRound_eq, GoesOn]
  cases (c.check w k).1 <;> simp

/-- The wait ends with the first probe that finds the connector no longer ready, or ends too late. -/
theorem mem_awaitNotReady_iff : (gone, after) ∈ c.awaitNotReady w ↔
    ∃ k, (∀ j < k, c.GoesOn w j) ∧ (c.check w k).2 = after ∧ (c.check w k).1 = !gone ∧
      (gone = false → c.deadline w ≤ c.world.clock (c.check w k).2) := by
  rw [awaitNotReady, mem_repeated_iff]
  refine exists_congr fun k => and_congr (forall₂_congr fun j _ => goesOn_iff) ?_
  rw [notReadyRound_eq]
  cases (c.check w k).1 <;> cases gone <;> by_cases late : c.deadline w ≤ c.world.clock (c.check w k).2 <;>
    simp [late]

theorem awaitNotReady_ends {δ : Nat} (pos : 0 < δ)
    (grows : ∀ k, (∀ j ≤ k, c.GoesOn w j) →
      c.world.clock (c.check w k).2 + δ ≤ c.world.clock (c.check w (k + 1)).2) :
    (c.awaitNotReady w).Dom := by
  refine repeated_ends (fun k => c.world.clock (c.check w k).2) (c.deadline w) pos (fun k going => ?_) fun k going => ?_
  · exact (goesOn_iff.1 (going k (Nat.le_refl k))).2
  · exact grows k fun j le => goesOn_iff.1 (going j le)

theorem clock_check_add_interval_le (k : Nat) :
    c.world.clock (c.check w k).2 + c.interval.nanos ≤ c.world.clock (c.check w (k + 1)).2 := by
  have rested := c.world.le_clock_pause .readiness c.interval (c.check w k).2
  have probed := c.world.le_clock_isReady c.url
    (roundStart (c.notReadyRound w) (c.world.pause .readiness c.interval) w (k + 1))
  rw [roundStart_succ, notReadyRound_eq] at probed
  unfold check at rested ⊢
  rw [roundStart_succ, notReadyRound_eq]
  exact Nat.le_trans rested probed

/-- The connector is found no longer ready if and only if one of the probes says so, up to the first that ends at the
deadline or later. -/
theorem awaitNotReady_true_iff : (∃ after, (true, after) ∈ c.awaitNotReady w) ↔
    ∃ k, (∀ j < k, c.world.clock (c.check w j).2 < c.deadline w) ∧ (c.check w k).1 = false := by
  simp only [mem_awaitNotReady_iff]
  constructor
  · rintro ⟨after, k, going, -, unready, -⟩
    exact ⟨k, fun j lt => (going j lt).2, unready⟩
  · rintro ⟨k, early, unready⟩
    -- the wait ends with the first of the probes that say so
    have some_unready : ∃ k, (c.check w k).1 = false := ⟨k, unready⟩
    classical
    refine ⟨_, Nat.find some_unready, fun j lt => ⟨?_, ?_⟩, rfl, Nat.find_spec some_unready, nofun⟩
    · exact Bool.not_eq_false _ ▸ Nat.find_min some_unready lt
    · exact early j (Nat.lt_of_lt_of_le lt (Nat.find_min' some_unready unready))

theorem awaitNotReady_false_iff : (∃ after, (false, after) ∈ c.awaitNotReady w) ↔
    ∃ k, c.deadline w ≤ c.world.clock (c.check w k).2 ∧ (∀ j < k, c.world.clock (c.check w j).2 < c.deadline w) ∧
      ∀ j ≤ k, (c.check w j).1 = true := by
  simp only [mem_awaitNotReady_iff]
  constructor
  · rintro ⟨after, k, going, -, ready, late⟩
    refine ⟨k, late trivial, fun j lt => (going j lt).2, fun j le => ?_⟩
    rcases Nat.lt_or_eq_of_le le with lt | rfl
    · exact (going j lt).1
    · exact ready
  · rintro ⟨k, late, early, ready⟩
    exact ⟨_, k, fun j lt => ⟨ready j (Nat.le_of_lt lt), early j lt⟩, rfl, ready k (Nat.le_refl k), fun _ => late⟩

theorem awaitNotReady_probeInterval (c : Polling ω) (w : ω) :
    awaitNotReady { c with interval := probeInterval } w = Part.some (c.world.awaitNotReady c.url c.timeout w) := by
  have same (v : ω) :
      repeated (c.notReadyRound w) (c.world.pause .readiness probeInterval) v =
        Part.some (c.world.awaitNotReadyUntil c.url (c.deadline w) v) := by
    induction v using World.awaitNotReadyUntil.induct c.world c.url (c.deadline w) with
    | case1 v after probed =>
      have round : c.notReadyRound w v = (some true, after) := by simp [notReadyRound, probed]
      rw [repeated_of_decided round, World.run_awaitNotReadyUntil, probed]
    | case2 v after probed late =>
      have round : c.notReadyRound w v = (some false, after) := by simp [notReadyRound, probed, late]
      rw [repeated_of_decided round, World.run_awaitNotReadyUntil, probed]
      simp [late]
    | case3 v after probed early ih =>
      have round : c.notReadyRound w v = (none, after) := by simp [notReadyRound, probed, early]
      rw [repeated_of_undecided round, World.run_awaitNotReadyUntil, probed]
      simpa [early] using ih
  exact same w

/-! ### Both waits -/

/-- A connector on a stage without a network, which ends so, if at all. -/
def stranded (ending : Option (Nat × Exit)) : Supervised Stage :=
  { handle :=
      { program := "c", pid := Stage.pid, world := ⟨0, fun _ => .error .notFound, ⟨{}, .empty, .empty, ending⟩⟩ }
    state := .running, argv := ["c", "tunnel"], budget := {} }

end Polling

end GracefulDrain
