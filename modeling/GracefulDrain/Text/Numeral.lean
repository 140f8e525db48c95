/-!
# Numerals in settings

Unsigned decimal numerals with an upper bound and the two words for a truth value, as environment
variables and command-line flags spell them.
-/

namespace GracefulDrain

namespace Numeral

/-- Why a text is no numeral. -/
inductive Fault
  | empty
  | invalidDigit
  | tooLarge
  deriving DecidableEq, Repr

def Fault.message : Fault → String
  | .empty => "cannot parse integer from empty string"
  | .invalidDigit => "invalid digit found in string"
  | .tooLarge => "number too large to fit in target type"

def digit? (c : Char) : Option Nat := if '0' ≤ c ∧ c ≤ '9' then some (c.toNat - '0'.toNat) else none

/-- Appends the digit `c` to the number `n`, which must stay within `bound`. -/
def push (bound n : Nat) (c : Char) : Except Fault Nat :=
  match digit? c with
  | none => .error .invalidDigit
  | some d => if n * 10 + d ≤ bound then .ok (n * 10 + d) else .error .tooLarge

/-- Reads a numeral of at most `bound`, with at most one leading plus sign. The first character at
which the reading fails decides the fault. -/
def parse (bound : Nat) (cs : List Char) : Except Fault Nat :=
  match cs with
  | [] => .error .empty
  | ['+'] => .error .invalidDigit
  | '+' :: digits => digits.foldlM (push bound) 0
  | digits => digits.foldlM (push bound) 0

end Numeral

namespace Truth

/-- The text that reports a word other than `true` and `false`. -/
def faultMessage : String := "provided string was not `true` or `false`"

def parse? (s : String) : Option Bool :=
  if s = "true" then some true else if s = "false" then some false else none

end Truth

end GracefulDrain
