import GracefulDrain.Drain.Window
import GracefulDrain.Proofs.Duration.Parts

/-! # How long an overrun a window tolerates

Both the time of a drain and its grace period count in whole seconds, each cut off by itself. So what is
tolerated beyond the grace period is a second less whatever fraction of a second the grace period has
(`DrainWindow.tolerates_a_second_less_the_fraction`), and a whole second only if it has none. -/

namespace GracefulDrain

namespace DrainWindow
variable {inFlight : Bool} {grace elapsed : Duration}

theorem check_eq_ok_iff {w : DrainWindow} :
    w.check elapsed = .ok () ↔ w.minimumSecs ≤ elapsed.secs ∧ elapsed.secs ≤ w.gracePeriodSecs := by
  unfold check contains
  split
  · rename_i within
    simpa using within
  · rename_i outside
    simpa using outside

/-- The least time that a drain may take. -/
def floor (w : DrainWindow) : Duration := .ofSecs w.minimumSecs

theorem floor_le_iff : (of inFlight grace).floor ≤ elapsed ↔ (of inFlight grace).minimumSecs ≤ elapsed.secs := by
  have fits : inFlight.toNat < UInt64.size := Nat.lt_of_le_of_lt (Bool.toNat_le inFlight) (by decide)
  show (Duration.ofSecs inFlight.toNat).nanos ≤ elapsed.nanos ↔ inFlight.toNat ≤ elapsed.nanos / 1_000_000_000
  rw [Duration.ofSecs_nanos fits, Nat.le_div_iff_mul_le (by decide)]

/-- Beyond the floor, a drain passes just if its overrun and the fraction of the grace period are less than a
second together. -/
theorem check_of_floor_le (late : (of inFlight grace).floor ≤ elapsed) :
    (of inFlight grace).check elapsed = .ok () ↔
      elapsed.nanos + grace.subsecNanos < grace.nanos + 1_000_000_000 := by
  have whole := grace.secs_add_subsecNanos
  have inTime : elapsed.secs ≤ grace.secs ↔ elapsed.nanos < (grace.secs + 1) * 1_000_000_000 := Duration.secs_le_iff
  rw [check_eq_ok_iff, ← floor_le_iff]
  constructor
  · rintro ⟨-, early⟩
    have := inTime.1 early
    omega
  · intro early
    exact ⟨late, inTime.2 (by omega)⟩

/-- If the grace period has a fraction, a drain of the next whole second overruns it by less than a second and
is refused all the same. -/
theorem exists_refused (inFlight : Bool) (fraction : grace.subsecNanos ≠ 0) (more : grace.secs + 1 < UInt64.size) :
    ∃ elapsed, (of inFlight grace).floor ≤ elapsed ∧ elapsed.nanos < grace.nanos + 1_000_000_000 ∧
      (of inFlight grace).check elapsed ≠ .ok () := by
  have whole := grace.secs_add_subsecNanos
  have next := Duration.ofSecs_nanos more
  have late : (of inFlight grace).floor ≤ .ofSecs (grace.secs + 1) := by
    have once : inFlight.toNat ≤ grace.secs + 1 := Nat.le_trans (Bool.toNat_le inFlight) (Nat.le_add_left _ _)
    rw [floor_le_iff]
    show inFlight.toNat ≤ (Duration.ofSecs (grace.secs + 1)).secs
    rwa [Duration.secs, next, Nat.mul_div_cancel _ (by decide)]
  refine ⟨.ofSecs (grace.secs + 1), late, by omega, fun passes => ?_⟩
  have := (check_of_floor_le late).1 passes
  omega

/-- A drain that has reached the floor passes just if its overrun is less than a second without the fraction of
the grace period. That it passes just if it overruns by less than a second holds only if there is no fraction, or
no longer whole second to overrun by. -/
theorem tolerates_a_second_less_the_fraction (inFlight : Bool) (grace : Duration) :
    let window := of inFlight grace
    (∀ elapsed, window.floor ≤ elapsed →
      (window.check elapsed = .ok () ↔ elapsed.nanos + grace.subsecNanos < grace.nanos + 1_000_000_000)) ∧
      ((∀ elapsed, window.floor ≤ elapsed →
          (window.check elapsed = .ok () ↔ elapsed.nanos < grace.nanos + 1_000_000_000)) ↔
        grace.subsecNanos = 0 ∨ grace.secs + 1 = UInt64.size) := by
  intro window
  refine ⟨fun _ => check_of_floor_le, ?_, ?_⟩
  · intro tolerant
    by_cases fraction : grace.subsecNanos = 0
    · exact .inl fraction
    by_cases last : grace.secs + 1 = UInt64.size
    · exact .inr last
    have fits : grace.secs < UInt64.size := (Nat.div_lt_iff_lt_mul (by decide)).2 grace.nanos_lt
    obtain ⟨elapsed, late, overrun, refused⟩ := exists_refused inFlight fraction (Nat.lt_of_le_of_ne fits last)
    exact absurd ((tolerant elapsed late).2 overrun) refused
  · rintro exact elapsed late
    rw [check_of_floor_le late]
    rcases exact with whole | last
    · rw [whole, Nat.add_zero]
    · -- no span is as long as the next whole second would be
      have fits : elapsed.nanos < UInt64.size * 1_000_000_000 := elapsed.nanos_lt
      have whole := grace.secs_add_subsecNanos
      omega

/-- A grace period of 1.5 s tolerates an overrun of 0.4 s. -/
theorem tolerates_less_than_half_a_second :
    (of true (.ofMillis 1500)).floor ≤ .ofMillis 1900 ∧
      (of true (.ofMillis 1500)).check (.ofMillis 1900) = .ok () := by
  have late : (of true (.ofMillis 1500)).floor ≤ .ofMillis 1900 := by decide
  exact ⟨late, ((tolerates_a_second_less_the_fraction true (.ofMillis 1500)).1 _ late).2 (by decide)⟩

/-- It refuses an overrun of 0.7 s. -/
theorem refuses_less_than_a_second :
    (of true (.ofMillis 1500)).floor ≤ .ofMillis 2200 ∧
      (Duration.ofMillis 2200).nanos < (Duration.ofMillis 1500).nanos + (Duration.ofSecs 1).nanos ∧
      (of true (.ofMillis 1500)).check (.ofMillis 2200) = .error ⟨2, ⟨1, 1⟩⟩ :=
  ⟨by decide, by decide, rfl⟩

end DrainWindow

end GracefulDrain
