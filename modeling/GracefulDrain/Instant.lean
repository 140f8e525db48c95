/-!
# Instants

Points on the calendar, to the nanosecond, and their RFC 3339 text. A second 59 may hold up to two
seconds' worth of nanoseconds: what exceeds one is its leap second.
-/

namespace GracefulDrain

/-- A day of the Gregorian calendar, extended to all years. -/
structure Date where
  year : Int
  month : Nat
  day : Nat
  deriving DecidableEq, Repr

/-- The date `days` days after 1970-01-01, by counting eras of 400 years from the first of March. -/
def Date.ofDays (days : Int) : Date :=
  let z := days + 719468
  let era := z / 146097
  let doe := (z % 146097).toNat
  let yoe := (doe - doe / 1460 + doe / 36524 - doe / 146096) / 365
  let doy := doe - (365 * yoe + yoe / 4 - yoe / 100)
  let mp := (5 * doy + 2) / 153
  let day := doy - (153 * mp + 2) / 5 + 1
  let month := if mp < 10 then mp + 3 else mp - 9
  let year := (yoe : Int) + era * 400 + (if month ≤ 2 then 1 else 0)
  ⟨year, month, day⟩

/-- Seconds since 1970-01-01T00:00:00Z, and the nanoseconds beyond them. -/
structure Instant where
  secs : Int
  nanos : Nat
  deriving DecidableEq, Repr

namespace Instant

/-- The first and the last second of the calendar. -/
def minSecs : Int := -8334601228800
def maxSecs : Int := 8210266876799

/-- The instant at the given count, if the calendar reaches it. -/
def ofUnix? (secs : Int) (nanos : Nat) : Option Instant :=
  if minSecs ≤ secs ∧ secs ≤ maxSecs ∧ nanos < 2 * 1_000_000_000 ∧ (nanos < 1_000_000_000 ∨ secs % 60 = 59) then
    some ⟨secs, nanos⟩
  else none

/-- `n` with at least `width` digits. -/
def padded (width n : Nat) : String :=
  let digits := toString n
  String.ofList (List.replicate (width - digits.length) '0') ++ digits

/-- Four digits for the years 0 to 9999; the others carry a sign. -/
def yearText (y : Int) : String :=
  if 0 ≤ y ∧ y ≤ 9999 then padded 4 y.toNat
  else (if y < 0 then "-" else "+") ++ padded 4 y.natAbs

/-- The fraction of a second in none, three, six or nine digits. -/
def fractionText (nanos : Nat) : String :=
  if nanos = 0 then ""
  else if nanos % 1_000_000 = 0 then "." ++ padded 3 (nanos / 1_000_000)
  else if nanos % 1_000 = 0 then "." ++ padded 6 (nanos / 1_000)
  else "." ++ padded 9 nanos

/-- Date and time in UTC. A leap second is second 60. -/
def dateTime (t : Instant) : String :=
  let date := Date.ofDays (t.secs / 86400)
  let inDay := (t.secs % 86400).toNat
  let second := inDay % 60 + t.nanos / 1_000_000_000
  s!"{yearText date.year}-{padded 2 date.month}-{padded 2 date.day}T{padded 2 (inDay / 3600)}" ++
    s!":{padded 2 (inDay / 60 % 60)}:{padded 2 second}{fractionText (t.nanos % 1_000_000_000)}"

/-- The RFC 3339 text with the letter for UTC. -/
def rfc3339 (t : Instant) : String := t.dateTime ++ "Z"

/-- The RFC 3339 text with the offset of UTC. -/
def rfc3339Offset (t : Instant) : String := t.dateTime ++ "+00:00"

end Instant

end GracefulDrain
