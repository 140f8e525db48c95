import GracefulDrain.Duration

/-! # The parts of a duration

Seconds, milliseconds and what lies below them are quotients and remainders of one number of nanoseconds. A number
of seconds or of milliseconds that fits into 64 bits is a duration, so none is cut short. `truncated` drops what is
less than a millisecond. -/

namespace GracefulDrain.Duration
variable {d e : Duration} {n : Nat}

theorem eq_iff_nanos : d = e ↔ d.nanos = e.nanos := by
  cases d
  cases e
  rw [mk.injEq]

theorem secs_le_iff : d.secs ≤ e.secs ↔ d.nanos < (e.secs + 1) * 1_000_000_000 := by
  rw [secs, ← Nat.lt_succ_iff, Nat.div_lt_iff_lt_mul (by decide)]

theorem secs_lt (d : Duration) : d.secs < UInt64.size := (Nat.div_lt_iff_lt_mul (by decide)).2 d.nanos_lt

/-- The whole seconds and the fraction make up the span. -/
theorem secs_add_subsecNanos (d : Duration) : d.secs * 1_000_000_000 + d.subsecNanos = d.nanos := by
  rw [secs, subsecNanos, Nat.mul_comm]
  exact Nat.div_add_mod _ _

theorem secs_eq (d : Duration) : d.secs = d.millis / 1_000 := by
  rw [secs, millis, Nat.div_div_eq_div_mul]

theorem subsecMillis_eq (d : Duration) : d.subsecMillis = d.millis % 1_000 := by
  rw [subsecMillis, subsecNanos, millis, ← Nat.mod_mul_right_div_self]

theorem ofSecs_nanos (h : n < UInt64.size) : (ofSecs n).nanos = n * 1_000_000_000 := by
  have fits : n * 1_000_000_000 < durationLimit := Nat.mul_lt_mul_of_pos_right h (by decide)
  rw [ofSecs, saturate, dif_pos fits]

theorem ofMillis_nanos (h : n < UInt64.size) : (ofMillis n).nanos = n * 1_000_000 := by
  have fits : n * 1_000_000 < durationLimit := Nat.mul_lt_mul_of_lt_of_le h (by decide) (by decide)
  rw [ofMillis, saturate, dif_pos fits]

/-- The whole milliseconds of a span. -/
def truncated (d : Duration) : Duration :=
  ⟨d.millis * 1_000_000, Nat.lt_of_le_of_lt (Nat.div_mul_le_self _ _) d.nanos_lt⟩

theorem truncated_eq_iff : d.truncated = e.truncated ↔ d.millis = e.millis := by
  rw [eq_iff_nanos]
  exact Nat.mul_left_inj (by decide)

end GracefulDrain.Duration
