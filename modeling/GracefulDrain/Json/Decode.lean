import GracefulDrain.Json.Skip
/-!
# Decoding JSON

Readers for what a contract fixes: strings, truth values, bounded numbers, and records. A record is read
from an object, member by member, or from an array with its fields in order. A fault that concerns a record
as a whole is noted behind its closing bracket.
-/

namespace GracefulDrain.Json.Reader
variable {α σ : Type}

/-- Refuses the value that follows. What is no bracket is read first. -/
def mismatch (expected : String) : Reader α := do
  match ← peek with
  | some 'n' =>
    word ['n', 'u', 'l', 'l']
    here (.invalidType .null expected)
  | some 't' =>
    word ['t', 'r', 'u', 'e']
    here (.invalidType (.bool true) expected)
  | some 'f' =>
    word ['f', 'a', 'l', 's', 'e']
    here (.invalidType (.bool false) expected)
  | some '"' =>
    advance
    here (.invalidType (.str (← text)) expected)
  | some '[' => here (.invalidType .sequence expected)
  | some '\x7b' => here (.invalidType .map expected)
  | some '-' =>
    advance
    here (.invalidType (← number true).found expected)
  | some c =>
    if isDigit c then here (.invalidType (← number false).found expected) else ahead .expectedValue
  | none => ahead .expectedValue

/-- The mark at which the next value begins. -/
def peekValue : Reader Char := do
  match ← peekMark with
  | none => ahead .eofValue
  | some c => pure c

def string : Reader String := do
  if (← peekValue) = '"' then
    advance
    text
  else mismatch "a string"

/-- Reads `null` as nothing, or else a value. -/
def nullable (read : Reader α) : Reader (Option α) := do
  if (← peekMark) = some 'n' then
    word ['n', 'u', 'l', 'l']
    pure none
  else return some (← read)

def truth : Reader Bool := do
  match ← peekValue with
  | 't' =>
    word ['t', 'r', 'u', 'e']
    pure true
  | 'f' =>
    word ['f', 'a', 'l', 's', 'e']
    pure false
  | _ => mismatch "a boolean"

/-- Reads an integer from zero to `bound`. -/
def natural (bound : Nat) (expected : String) : Reader Nat := do
  let c ← peekValue
  if c = '-' ∨ isDigit c then
    if c = '-' then advance
    match ← number (c = '-') with
    | .int n =>
      if 0 ≤ n ∧ n ≤ bound then pure n.toNat else here (.invalidValue (.int n) expected)
    | .double bits => here (.invalidType (.double bits) expected)
  else mismatch expected

def list (item : Reader α) : Reader (List α) := do
  if (← peekValue) = '[' then
    advance
    items item
  else mismatch "a sequence"

/-! ## Records -/

/-- Refuses the member whose name has just been read, as its name stands there for the second time. -/
def duplicate (name : String) : Reader α := do
  if (← peekMark) = some '\x7d' then advance
  here (.duplicateField name)

/-- Reads the value of the field `name`, which must not have been read before. -/
def once (name : String) (seen : Option α) (read : Reader α) : Reader (Option α) := do
  if seen.isSome then duplicate name
  else
    colon
    return some (← read)

/-- The value of the field `name` of a record that has been read. -/
def required (name : String) : Option α → Reader α
  | some v => pure v
  | none => here (.missingField name)

/-- Reads the next item of an array, the first or a later one, if there is one. -/
def item? (first : Bool) (read : Reader α) : Reader (Option α) := do
  if ← anotherItem first then return some (← read) else pure none

/-- Reads the item number `n` of a record that cannot do without it. -/
def itemAt (n : Nat) (record : String) (read : Reader α) : Reader α := do
  match ← item? (n == 0) read with
  | some v => pure v
  | none =>
    advance
    here (.invalidLength n record)

/-- Reads a record from an object. -/
def fromObject (expected : String) (object : Reader α) : Reader α := do
  if (← peekValue) = '\x7b' then
    advance
    object
  else mismatch expected

/-- Reads a record from an object or from an array. The latter reads on to the closing bracket. -/
def fromEither (expected : String) (object array : Reader α) : Reader α := do
  match ← peekValue with
  | '\x7b' =>
    advance
    object
  | '[' =>
    advance
    let v ← array
    closeItems
    pure v
  | _ => mismatch expected

def document (read : Reader α) (text : Bytes) : Except Error α :=
  let whole : Reader α := do
    let v ← read
    match ← peekMark with
    | none => pure v
    | some _ => ahead .trailingCharacters
  match whole text with
  | .ok (v, _) => .ok v
  | .error stop => .error (Error.locate text stop)

end GracefulDrain.Json.Reader
