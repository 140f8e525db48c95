import GracefulDrain.Text.Trim
import GracefulDrain.Text.Numeral
/-!
# Durations

Spans of time to the nanosecond, up to 2^64 seconds, and their notation in configuration files: an
integer with one of the units `ms`, `s`, `m` and `h`. `parse` and `format` are the two directions of the
notation; `spelled` is the longer form that messages use.
-/

namespace GracefulDrain

def ceilMillis (nanos : Nat) : Nat := (nanos + (1_000_000 - 1)) / 1_000_000

/-- The first number of nanoseconds that is too large for a duration. -/
def durationLimit : Nat := UInt64.size * 1_000_000_000

structure Duration where
  nanos : Nat
  nanos_lt : nanos < durationLimit
  deriving DecidableEq

namespace Duration

def zero : Duration := ⟨0, by decide⟩

def max : Duration := ⟨durationLimit - 1, by decide⟩

instance : Inhabited Duration := ⟨zero⟩
instance : LE Duration := ⟨fun d e => d.nanos ≤ e.nanos⟩
instance : LT Duration := ⟨fun d e => d.nanos < e.nanos⟩
instance (d e : Duration) : Decidable (d ≤ e) := inferInstanceAs (Decidable (d.nanos ≤ e.nanos))
instance (d e : Duration) : Decidable (d < e) := inferInstanceAs (Decidable (d.nanos < e.nanos))

/-- The span of `n` nanoseconds, or the longest span if that is less. -/
def saturate (n : Nat) : Duration :=
  if h : n < durationLimit then ⟨n, h⟩ else max

def ofSecs (n : Nat) : Duration := saturate (n * 1_000_000_000)

def ofMillis (n : Nat) : Duration := saturate (n * 1_000_000)

def secs (d : Duration) : Nat := d.nanos / 1_000_000_000

/-- Nanoseconds beyond the whole seconds. -/
def subsecNanos (d : Duration) : Nat := d.nanos % 1_000_000_000

/-- Whole milliseconds beyond the whole seconds. -/
def subsecMillis (d : Duration) : Nat := d.subsecNanos / 1_000_000

def millis (d : Duration) : Nat := d.nanos / 1_000_000

/-- Whole milliseconds as a 64-bit counter holds them. -/
def millis64 (d : Duration) : Nat := d.millis % UInt64.size

def add (d e : Duration) : Duration := saturate (d.nanos + e.nanos)

/-- `n` times the span, or the longest span if that is less. -/
def times (d : Duration) (n : Nat) : Duration := saturate (d.nanos * n)

inductive Unit
  | millisecond
  | second
  | minute
  | hour
  deriving DecidableEq, Repr

namespace Unit

def symbol : Unit → List Char
  | .millisecond => ['m', 's']
  | .second => ['s']
  | .minute => ['m']
  | .hour => ['h']

def ofSymbol? : List Char → Option Unit
  | ['m', 's'] => some .millisecond
  | ['s'] => some .second
  | ['m'] => some .minute
  | ['h'] => some .hour
  | _ => none

/-- The span of `n` units, if its count of whole seconds still fits into 64 bits. -/
def span? (n : Nat) : Unit → Option Duration
  | .millisecond => some (ofMillis n)
  | .second => some (ofSecs n)
  | .minute => if n * 60 < UInt64.size then some (ofSecs (n * 60)) else none
  | .hour => if n * 3600 < UInt64.size then some (ofSecs (n * 3600)) else none

end Unit

structure Invalid where
  text : String
  deriving DecidableEq, Repr

def Invalid.message (e : Invalid) : String :=
  s!"Invalid duration '{e.text}': expected an integer followed by ms, s, m or h"

def isDigit (c : Char) : Bool := (Numeral.digit? c).isSome

/-- Reads digits followed by a unit. The digits denote a 64-bit number. -/
def ofNotation? (cs : List Char) : Option Duration :=
  match Numeral.parse (UInt64.size - 1) (cs.takeWhile isDigit), Unit.ofSymbol? (cs.dropWhile isDigit) with
  | .ok n, some u => u.span? n
  | _, _ => none

/-- Reads a duration with blanks around it. A refusal shows the text without them. -/
def parse (raw : String) : Except Invalid Duration :=
  let cs := Text.trimBlanks raw.toList
  match ofNotation? cs with
  | some d => .ok d
  | none => .error ⟨String.ofList cs⟩

/-- Writes a duration in seconds if it has no millisecond part, else in milliseconds. What is less than a
millisecond is dropped. -/
def format (d : Duration) : String :=
  if d.subsecMillis = 0 then s!"{d.secs}s" else s!"{d.millis}ms"

/-- `n`, then the fraction `part / 10 ^ width` without trailing zeros, then a unit. -/
def decimal (n part width : Nat) (unit : String) : String :=
  let digits := (toString (Nat.pow 10 width + part)).toList.drop 1
  let fraction := Text.dropRight (· == '0') digits
  if fraction.isEmpty then s!"{n}{unit}" else s!"{n}.{String.ofList fraction}{unit}"

/-- Writes a duration exactly, in the largest unit of which it has at least one. -/
def spelled (d : Duration) : String :=
  if 0 < d.secs then decimal d.secs d.subsecNanos 9 "s"
  else if 1_000_000 ≤ d.nanos then decimal (d.nanos / 1_000_000) (d.nanos % 1_000_000) 6 "ms"
  else if 1_000 ≤ d.nanos then decimal (d.nanos / 1_000) (d.nanos % 1_000) 3 "µs"
  else s!"{d.nanos}ns"

end Duration

end GracefulDrain
