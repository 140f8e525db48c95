import GracefulDrain.Proofs.Stream.Lines
import GracefulDrain.Stream.Eyeball

/-! # How an eyeball reads a body

An eyeball reads chunks until a stop rule applies or the body ends, unless something that it waits for is late.
`Eyeball.Reads` lists the three ways in which this can go, each with its result. A body is read in just one of them
(`Eyeball.reads_iff`). -/

namespace GracefulDrain

/-- A chunk stops the count if and only if a stop rule has applied then. -/
theorem LineCounter.isDone_feed (c : LineCounter) (chunk : Bytes) (fresh : c.report.isDone = false) :
    (c.feed chunk).1.report.isDone = ((c.feed chunk).2 == .stop) := by
  induction chunk generalizing c with
  | nil => exact fresh
  | cons b rest ih =>
    rw [feed]
    split
    · have flag := c.report.isDone_line c.earlyStop c.piece.reverse fresh
      rcases counted : c.report.line c.earlyStop c.piece.reverse with ⟨report, _ | _⟩ <;> rw [counted] at flag
      · exact ih { c with piece := [], report } flag
      · exact flag
    · exact ih { c with piece := b :: c.piece } fresh

namespace Eyeball

/-- How long what comes behind the first `k` chunks keeps a reader waiting, if it ever comes: a chunk or the end. -/
def gapAfter (ending : Ending) (chunks : List Chunk) (k : Nat) : Option Nat :=
  match chunks[k]?, ending with
  | some chunk, _ => some chunk.gap
  | none, .over gap _ => some gap
  | none, .stall => none

section
variable (e : Eyeball) (ending : Ending) (c : LineCounter) (chunks : List Chunk)

/-- What comes behind the first `k` chunks does not keep the eyeball waiting for too long. -/
def InTime (k : Nat) : Prop := ∃ gap, gapAfter ending chunks k = some gap ∧ gap ≤ e.readTimeout.nanos

/-- The counter after the first `k` chunks. -/
def countAfter (k : Nat) : LineCounter := c.feedAll ((chunks.take k).map Chunk.octets)

/-- A stop rule has applied within the first `k` chunks. -/
def Stopped (k : Nat) : Prop := (countAfter c chunks k).report.isDone = true

/-- How a body is read. -/
inductive Reads : Except Failure LineReport → Prop
  /-- A stop rule applies with the last of `k` chunks, and whatever comes behind them is not awaited. -/
  | stopped {k : Nat} (le : k ≤ chunks.length) (inTime : ∀ j < k, e.InTime ending chunks j)
    (going : ∀ j < k, ¬ Stopped c chunks j) (stopped : Stopped c chunks k) : Reads (.ok (countAfter c chunks k).finish)
  | ended (inTime : ∀ j ≤ chunks.length, e.InTime ending chunks j) (going : ∀ j ≤ chunks.length, ¬ Stopped c chunks j) :
    Reads (.ok (countAfter c chunks chunks.length).finish)
  /-- What should come behind `k` chunks is late. -/
  | starved {k : Nat} (le : k ≤ chunks.length) (inTime : ∀ j < k, e.InTime ending chunks j)
    (going : ∀ j ≤ k, ¬ Stopped c chunks j) (late : ¬ e.InTime ending chunks k) : Reads (.error e.starved)

end

variable {e : Eyeball} {ending : Ending} {c c' : LineCounter} {chunk : Chunk} {rest chunks : List Chunk}
  {r r' : Except Failure LineReport} {k now : Nat}

/-! ### A body by its first chunk -/

theorem not_stopped_zero (fresh : c.report.isDone = false) : ¬ Stopped c chunks 0 := by
  intro stopped
  exact absurd (fresh.symm.trans stopped) Bool.false_ne_true

theorem countAfter_of_more (fed : c.feed chunk.octets = (c', .more)) :
    countAfter c (chunk :: rest) (k + 1) = countAfter c' rest k := by
  simp only [countAfter, List.take_succ_cons, List.map_cons, LineCounter.feedAll, fed]

theorem countAfter_of_stop (fed : c.feed chunk.octets = (c', .stop)) :
    countAfter c (chunk :: rest) (k + 1) = c' := by
  simp only [countAfter, List.take_succ_cons, List.map_cons, LineCounter.feedAll, fed]

theorem stopped_of_more (fed : c.feed chunk.octets = (c', .more)) :
    Stopped c (chunk :: rest) (k + 1) ↔ Stopped c' rest k := by
  rw [Stopped, countAfter_of_more fed, Stopped]

theorem inTime_cons : e.InTime ending (chunk :: rest) (k + 1) ↔ e.InTime ending rest k := by
  simp only [InTime, gapAfter, List.getElem?_cons_succ]

theorem inTime_zero : e.InTime ending (chunk :: rest) 0 ↔ chunk.gap ≤ e.readTimeout.nanos := by
  simp [InTime, gapAfter]

theorem forall_le_succ {P : Nat → Prop} (zero : P 0) (succ : ∀ j ≤ k, P (j + 1)) : ∀ j ≤ k + 1, P j :=
  fun j le => Nat.forall_lt_succ_left.2 ⟨zero, fun j lt => succ j (Nat.le_of_lt_succ lt)⟩ j (Nat.lt_succ_of_le le)

theorem Reads.cons (fresh : c.report.isDone = false) (inTime : chunk.gap ≤ e.readTimeout.nanos)
    (fed : c.feed chunk.octets = (c', .more)) (reads : e.Reads ending c' rest r) :
    e.Reads ending c (chunk :: rest) r := by
  have first : e.InTime ending (chunk :: rest) 0 := inTime_zero.2 inTime
  have unstopped : ¬ Stopped c (chunk :: rest) 0 := not_stopped_zero fresh
  have later {j : Nat} (going : ¬ Stopped c' rest j) : ¬ Stopped c (chunk :: rest) (j + 1) :=
    fun stopped => going ((stopped_of_more fed).1 stopped)
  cases reads with
  | stopped le inTimes going stopped =>
    rw [← countAfter_of_more fed]
    refine .stopped (Nat.succ_le_succ le) ?_ ?_ ((stopped_of_more fed).2 stopped)
    · exact Nat.forall_lt_succ_left.2 ⟨first, fun j lt => inTime_cons.2 (inTimes j lt)⟩
    · exact Nat.forall_lt_succ_left.2 ⟨unstopped, fun j lt => later (going j lt)⟩
  | ended inTimes going =>
    rw [← countAfter_of_more fed]
    refine .ended ?_ ?_
    · exact forall_le_succ first fun j le => inTime_cons.2 (inTimes j le)
    · exact forall_le_succ unstopped fun j le => later (going j le)
  | starved le inTimes going late =>
    refine .starved (Nat.succ_le_succ le) ?_ ?_ fun inTime => late (inTime_cons.1 inTime)
    · exact Nat.forall_lt_succ_left.2 ⟨first, fun j lt => inTime_cons.2 (inTimes j lt)⟩
    · exact forall_le_succ unstopped fun j le => later (going j le)

/-! ### Each body is read in one of the ways -/

theorem reads_readBody (fresh : c.report.isDone = false) :
    e.Reads ending c chunks (e.readBody ending now c chunks).2 := by
  have nothing {P : Nat → Prop} : ∀ j < 0, P j := fun _ lt => absurd lt (Nat.not_lt_zero _)
  have unstopped {chunks : List Chunk} : ∀ j ≤ 0, ¬ Stopped c chunks j := fun j le => by
    rw [Nat.le_zero.1 le]
    exact not_stopped_zero fresh
  induction chunks generalizing c now with
  | nil =>
    cases ending with
    | stall => exact .starved (Nat.le_refl _) nothing unstopped nofun
    | «over» gap isCut =>
      rw [readBody]
      split
      · rename_i inTime
        refine .ended (fun j le => ?_) unstopped
        exact ⟨gap, by rw [Nat.le_zero.1 le]; rfl, inTime⟩
      · rename_i late
        refine .starved (Nat.le_refl _) nothing unstopped ?_
        rintro ⟨_, ⟨⟩, inTime⟩
        exact late inTime
  | cons chunk rest ih =>
    rw [readBody]
    split
    · rename_i inTime
      have flag := c.isDone_feed chunk.octets fresh
      rcases fed : c.feed chunk.octets with ⟨c', _ | _⟩ <;> rw [fed] at flag
      · have fresh' : c'.report.isDone = false := flag
        exact (ih fresh' fun j le => by rw [Nat.le_zero.1 le]; exact not_stopped_zero fresh').cons fresh inTime fed
      · have stops : Stopped c (chunk :: rest) 1 := by
          rw [Stopped, countAfter_of_stop fed]
          exact flag
        have reads : e.Reads ending c (chunk :: rest) _ := .stopped (Nat.succ_le_succ (Nat.zero_le rest.length))
          (Nat.forall_lt_succ_left.2 ⟨inTime_zero.2 inTime, nothing⟩)
          (Nat.forall_lt_succ_left.2 ⟨not_stopped_zero fresh, nothing⟩) stops
        rw [countAfter_of_stop fed] at reads
        exact reads
    · rename_i late
      exact .starved (Nat.zero_le _) nothing unstopped fun inTime => late (inTime_zero.1 inTime)

theorem Reads.unique (h : e.Reads ending c chunks r) (h' : e.Reads ending c chunks r') : r = r' := by
  have meets {k k' : Nat} (going : ∀ j < k', ¬ Stopped c chunks j) (stopped : Stopped c chunks k) : k' ≤ k :=
    Nat.not_lt.1 fun before => going k before stopped
  have clash {k k' : Nat} (stopped : Stopped c chunks k) (inTime : ∀ j < k, e.InTime ending chunks j)
      (going : ∀ j ≤ k', ¬ Stopped c chunks j) (late : ¬ e.InTime ending chunks k') : False :=
    late (inTime k' (Nat.not_le.1 fun le => going k le stopped))
  cases h with
  | stopped le inTime going stopped =>
    cases h' with
    | stopped le' inTime' going' stopped' => rw [Nat.le_antisymm (meets going stopped') (meets going' stopped)]
    | ended inTime' going' => exact absurd stopped (going' _ le)
    | starved le' inTime' going' late => exact (clash stopped inTime going' late).elim
  | ended inTime going =>
    cases h' with
    | stopped le' inTime' going' stopped => exact absurd stopped (going _ le')
    | ended => rfl
    | starved le' inTime' going' late => exact absurd (inTime _ le') late
  | starved le inTime going late =>
    cases h' with
    | stopped le' inTime' going' stopped => exact (clash stopped inTime' going late).elim
    | ended inTime' going' => exact absurd (inTime' _ le) late
    | starved => rfl

theorem reads_iff (fresh : c.report.isDone = false) :
    e.Reads ending c chunks r ↔ (e.readBody ending now c chunks).2 = r :=
  ⟨fun reads => (reads_readBody fresh).unique reads, fun same => same ▸ reads_readBody fresh⟩

end Eyeball

end GracefulDrain
