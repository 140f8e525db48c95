import GracefulDrain.Proofs.Duration.Parts
import GracefulDrain.Proofs.Text.Numeral
import GracefulDrain.Proofs.Text.Trim

/-! # How durations are written

A text says a duration if it consists of digits and the symbol of a unit, and if neither the number nor what it
comes to in seconds exceeds 64 bits (`Means`). No symbol starts with a digit, so a text falls into number and unit in
just one way, and that is where the reader cuts it (`ofNotation?_eq_some_iff`).

A duration is written with as many whole seconds as it has, or else with its milliseconds. Nothing but the number of
milliseconds can be too large to be read again (`parse_format_eq_ok_iff`), and it is small enough for whatever has
been read before (`Means.truncated_eq`, `Means.count_lt`). -/

namespace GracefulDrain.Duration
variable {cs digits digits' : List Char} {d e : Duration} {n : Nat} {u u' : Unit} {raw : String}

namespace Unit

/-- The nanoseconds of what the unit counts, which is milliseconds or else seconds. -/
def grain : Unit → Nat
  | .millisecond => 1_000_000
  | _ => 1_000_000_000

/-- How many grains make up the unit. -/
def grains : Unit → Nat
  | .minute => 60
  | .hour => 3600
  | _ => 1

theorem ofSymbol?_eq_some_iff : ofSymbol? cs = some u ↔ cs = u.symbol := by
  constructor
  · intro h
    unfold ofSymbol? at h
    split at h <;> cases h <;> rfl
  · rintro rfl
    cases u <;> rfl

theorem span?_eq_some_iff (fits : n < UInt64.size) :
    u.span? n = some d ↔ n * u.grains < UInt64.size ∧ d.nanos = n * u.grains * u.grain := by
  -- minutes and hours are seconds, of which there must not be too many
  have inSecs (m : Nat) : (if n * m < UInt64.size then some (ofSecs (n * m)) else none) = some d ↔
      n * m < UInt64.size ∧ d.nanos = n * m * 1_000_000_000 := by
    by_cases h : n * m < UInt64.size
    · simp [h, eq_iff_nanos, ofSecs_nanos h, eq_comm]
    · simp [h]
  cases u with
  | millisecond => simp [span?, grain, grains, fits, eq_iff_nanos, ofMillis_nanos fits, eq_comm]
  | second => simp [span?, grain, grains, fits, eq_iff_nanos, ofSecs_nanos fits, eq_comm]
  | minute => exact inSecs 60
  | hour => exact inSecs 3600

end Unit

/-! ### Reading -/

/-- The text says `d`: a number, and the unit that it counts. -/
inductive Means : List Char → Duration → Prop
  | intro {digits : List Char} {n : Nat} {d : Duration} (u : Unit) (number : Numeral.Denotes digits n)
      (fits : n < UInt64.size) (grains : n * u.grains < UInt64.size) (span : d.nanos = n * u.grains * u.grain) :
      Means (digits ++ u.symbol) d

theorem isDigit_eq : isDigit = Char.isDigit := by
  funext c
  rw [isDigit, Bool.eq_iff_iff, Option.isSome_iff_exists]
  simp [Numeral.digit?_eq_some_iff]

theorem takeWhile_symbol (u : Unit) : u.symbol.takeWhile Char.isDigit = [] := by cases u <;> rfl

theorem dropWhile_symbol (u : Unit) : u.symbol.dropWhile Char.isDigit = u.symbol := by cases u <;> rfl

theorem symbol_inj (same : u.symbol = u'.symbol) : u = u' := by
  have read := Unit.ofSymbol?_eq_some_iff.2 same
  rwa [Unit.ofSymbol?_eq_some_iff.2 rfl, Option.some_inj] at read

theorem takeWhile_append_symbol (all : ∀ c ∈ digits, c.isDigit) :
    (digits ++ u.symbol).takeWhile Char.isDigit = digits := by
  rw [List.takeWhile_append_of_pos all, takeWhile_symbol, List.append_nil]

theorem dropWhile_append_symbol (all : ∀ c ∈ digits, c.isDigit) :
    (digits ++ u.symbol).dropWhile Char.isDigit = u.symbol := by
  rw [List.dropWhile_append_of_pos all, dropWhile_symbol]

theorem append_symbol_inj (all : ∀ c ∈ digits, c.isDigit) (all' : ∀ c ∈ digits', c.isDigit)
    (same : digits ++ u.symbol = digits' ++ u'.symbol) : digits = digits' ∧ u = u' := by
  have front := congrArg (List.takeWhile Char.isDigit) same
  have back := congrArg (List.dropWhile Char.isDigit) same
  rw [takeWhile_append_symbol all, takeWhile_append_symbol all'] at front
  rw [dropWhile_append_symbol all, dropWhile_append_symbol all'] at back
  exact ⟨front, symbol_inj back⟩

theorem means_append_symbol_iff (number : Numeral.Denotes digits n) :
    Means (digits ++ u.symbol) d ↔
      n < UInt64.size ∧ n * u.grains < UInt64.size ∧ d.nanos = n * u.grains * u.grain := by
  constructor
  · intro h
    generalize same : digits ++ u.symbol = text at h
    obtain ⟨u', number', fits, grains, span⟩ := h
    obtain ⟨rfl, rfl⟩ := append_symbol_inj number.isDigit number'.isDigit same
    rw [number.unique number']
    exact ⟨fits, grains, span⟩
  · rintro ⟨fits, grains, span⟩
    exact .intro u number fits grains span

theorem ofNotation?_eq_some_iff : ofNotation? cs = some d ↔ Means cs d := by
  rw [ofNotation?, isDigit_eq]
  constructor
  · intro h
    split at h
    · next n u read symbol =>
      have bound : n ≤ UInt64.size - 1 := (Numeral.parse_eq_ok_iff.1 read).le
      have fits : n < UInt64.size := Nat.lt_of_le_pred (by decide) bound
      obtain ⟨digits, signed, number⟩ := (Numeral.parse_eq_ok_iff.1 read).denotes
      obtain ⟨grains, span⟩ := (Unit.span?_eq_some_iff fits).1 h
      rw [← List.takeWhile_append_dropWhile (p := Char.isDigit) (l := cs), Unit.ofSymbol?_eq_some_iff.1 symbol]
      rcases signed with front | front
      · rw [front]
        exact .intro u number fits grains span
      · -- there is no sign among the digits in front
        have sign : ('+' : Char).isDigit := List.mem_takeWhile_imp (by rw [front]; simp)
        exact absurd sign (by decide)
    · cases h
  · rintro ⟨u, number, fits, grains, span⟩
    have read := Numeral.parse_eq_ok_iff.2 ⟨Nat.le_sub_one_of_lt fits, _, .inl rfl, number⟩
    rw [takeWhile_append_symbol number.isDigit, dropWhile_append_symbol number.isDigit, read,
      Unit.ofSymbol?_eq_some_iff.2 rfl]
    exact (Unit.span?_eq_some_iff fits).2 ⟨grains, span⟩

theorem parse_eq_ok_iff : parse raw = .ok d ↔ Means (Text.trim raw).toList d := by
  rw [← ofNotation?_eq_some_iff, Text.toList_trim, parse]
  split
  · next e read => simp [read]
  · next unread => simp [unread]

theorem parse_eq_error_iff {fault : Invalid} :
    parse raw = .error fault ↔ fault = ⟨Text.trim raw⟩ ∧ ¬ ∃ d, Means (Text.trim raw).toList d := by
  simp only [← ofNotation?_eq_some_iff, Text.toList_trim, parse]
  split
  · next e read => simp [read]
  · next unread =>
    rw [← Text.trim]
    simp [unread, eq_comm]

/-- Digits and a unit are read, between blanks, as far as 64 bits go, and nothing else is. A refusal shows the text
without the blanks. -/
theorem parse_accepts_digits_with_unit (raw : String) :
    Text.Trims raw.toList (Text.trim raw).toList ∧ (∀ d, parse raw = .ok d ↔ Means (Text.trim raw).toList d) ∧
      ∀ fault, parse raw = .error fault ↔ fault = ⟨Text.trim raw⟩ ∧ ¬ ∃ d, Means (Text.trim raw).toList d := by
  refine ⟨?_, fun d => parse_eq_ok_iff, fun fault => parse_eq_error_iff⟩
  rw [Text.toList_trim]
  exact Text.trims_trimBlanks _

example : parse "\t0090m\xa0" = .ok (.ofSecs 5400) := by rfl

example : parse " +5s " = .error ⟨"+5s"⟩ := by rfl

/-! ### Writing -/

/-- The unit in which a duration is written. -/
def unit (d : Duration) : Unit := if d.subsecMillis = 0 then .second else .millisecond

/-- The number of units that is written. -/
def count (d : Duration) : Nat := if d.subsecMillis = 0 then d.secs else d.millis

theorem toList_format (d : Duration) : d.format.toList = Nat.toDigits 10 d.count ++ d.unit.symbol := by
  unfold format count unit
  split <;> simp [Unit.symbol, Nat.toString_eq_repr, Nat.toList_repr, String.toList_append] <;> rfl

theorem grains_unit (d : Duration) : d.unit.grains = 1 := by
  unfold unit
  split <;> rfl

theorem count_mul_grain (d : Duration) : d.count * d.unit.grain = d.truncated.nanos := by
  have part := d.subsecMillis_eq
  have whole := d.secs_eq
  unfold count unit
  split
  · show d.secs * 1_000_000_000 = d.millis * 1_000_000
    omega
  · rfl

theorem count_lt_iff : d.count < UInt64.size ↔ d.subsecMillis = 0 ∨ d.millis < UInt64.size := by
  have fits := d.secs_lt
  unfold count
  split
  · next whole => simp [whole, fits]
  · next part => simp [part]

theorem isBlank_of_isDigit {c : Char} (digit : c.isDigit) : Text.isBlank c = false := by
  simp only [Char.isDigit, Bool.and_eq_true, decide_eq_true_eq, ge_iff_le, UInt32.le_iff_toNat_le] at digit
  obtain ⟨lo, hi⟩ := digit
  change 48 ≤ c.toNat at lo
  change c.toNat ≤ 57 at hi
  simp [Text.isBlank]
  omega

/-- No blank is written in front of the digits or behind the unit. -/
theorem trim_format (d : Duration) : Text.trim d.format = d.format := by
  have number := Numeral.denotes_toDigits d.count
  have trims : Text.Trims d.format.toList d.format.toList := by
    refine ⟨⟨[], [], by simp, by simp, by simp⟩, ?_, ?_⟩
    · intro c hc
      rw [toList_format, List.head?_append_of_ne_nil _ number.nonempty] at hc
      exact isBlank_of_isDigit (number.isDigit c (List.mem_of_head? hc))
    · intro c hc
      have last : d.unit.symbol.getLast? = some 's' := by
        unfold unit
        split <;> rfl
      rw [toList_format, List.getLast?_append, last] at hc
      cases hc
      rfl
  rw [Text.trim, trims.eq, String.ofList_toList]

theorem parse_format_eq_ok_iff : parse d.format = .ok e ↔ d.count < UInt64.size ∧ e = d.truncated := by
  rw [parse_eq_ok_iff, trim_format, toList_format, means_append_symbol_iff (Numeral.denotes_toDigits _), grains_unit,
    Nat.mul_one, count_mul_grain, eq_iff_nanos, and_self_left]

theorem parse_format (d : Duration) :
    parse d.format =
      if d.subsecMillis = 0 ∨ d.millis < UInt64.size then .ok d.truncated else .error ⟨d.format⟩ := by
  split
  · next fits => exact parse_format_eq_ok_iff.2 ⟨count_lt_iff.2 fits, rfl⟩
  · next large =>
    rw [← count_lt_iff] at large
    cases read : parse d.format with
    | ok e => exact absurd (parse_format_eq_ok_iff.1 read).1 large
    | error fault => rw [(parse_eq_error_iff.1 read).1, trim_format]

theorem format_eq_iff : d.format = e.format ↔ d.millis = e.millis := by
  constructor
  · intro same
    have isDigit (d : Duration) := (Numeral.denotes_toDigits d.count).isDigit
    have lists := congrArg String.toList same
    rw [toList_format, toList_format] at lists
    obtain ⟨front, unit⟩ := append_symbol_inj (isDigit d) (isDigit e) lists
    have count : d.count = e.count := by
      rw [← Nat.ofDigitChars_ten_toDigits (n := d.count), front, Nat.ofDigitChars_ten_toDigits]
    rw [← truncated_eq_iff, eq_iff_nanos, ← count_mul_grain, ← count_mul_grain, count, unit]
  · intro same
    simp only [format, subsecMillis_eq, secs_eq, same]

theorem Means.truncated_eq (h : Means cs d) : d.truncated = d := by
  obtain ⟨u, number, fits, grains, span⟩ := h
  rw [eq_iff_nanos]
  show d.nanos / 1_000_000 * 1_000_000 = d.nanos
  rw [span]
  cases u <;> simp only [Unit.grain] <;> omega

theorem Means.count_lt (h : Means cs d) : d.count < UInt64.size := by
  rw [count_lt_iff]
  obtain ⟨u, number, fits, grains, span⟩ := h
  have part := d.subsecMillis_eq
  unfold millis at part ⊢
  rw [span] at part ⊢
  cases u <;> simp only [Unit.grain, Unit.grains] at part grains ⊢ <;> omega

/-- What has been read comes back when it is written and read again. Any other duration comes back without what is
less than a millisecond, unless it has to be written in milliseconds and has too many of them; so durations are
written alike just if they agree to the millisecond. -/
theorem format_is_read_back :
    (∀ raw (d : Duration), parse raw = .ok d → parse d.format = .ok d) ∧
      (∀ d : Duration, parse d.format =
        if d.subsecMillis = 0 ∨ d.millis < UInt64.size then .ok d.truncated else .error ⟨d.format⟩) ∧
      ∀ d e : Duration, d.format = e.format ↔ d.millis = e.millis := by
  refine ⟨fun raw d read => ?_, parse_format, fun d e => format_eq_iff⟩
  have meant := parse_eq_ok_iff.1 read
  exact parse_format_eq_ok_iff.2 ⟨meant.count_lt, meant.truncated_eq.symm⟩

/-- Minutes come back, though in seconds. -/
theorem minutes_are_read_back :
    parse " 007m\n" = .ok (.ofSecs 420) ∧ (ofSecs 420).format = "420s" ∧
      parse (ofSecs 420).format = .ok (.ofSecs 420) :=
  ⟨by rfl, by rfl, format_is_read_back.1 " 007m\n" (ofSecs 420) (by rfl)⟩

end GracefulDrain.Duration
