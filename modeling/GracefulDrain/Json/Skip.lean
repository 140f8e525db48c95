import GracefulDrain.Json.Reader
/-!
# Skipping JSON

Reads over a value that nobody asked for. Only its syntax is checked: a number may be of any size, an
escape may name any code, and arrays and objects may enclose one another to any depth.
-/

namespace GracefulDrain.Json.Reader

def skipOctets : Bytes → Except Stop Bytes
  | [] => .error ⟨.eofString, []⟩
  | b :: rest =>
    match Char.ofUInt8 b with
    | '"' => .ok rest
    | '\\' =>
      match rest with
      | [] => .error ⟨.eofString, []⟩
      | e :: rest =>
        match Char.ofUInt8 e with
        | 'u' =>
          match rest with
          | h₁ :: h₂ :: h₃ :: h₄ :: rest =>
            match hexUnit? h₁ h₂ h₃ h₄ with
            | none => .error ⟨.invalidEscape, rest⟩
            | some _ => skipOctets rest
          | _ => .error ⟨.eofString, []⟩
        | c =>
          match simpleEscape? c with
          | some _ => skipOctets rest
          | none => .error ⟨.invalidEscape, rest⟩
    | _ => if b < 0x20 then .error ⟨.controlCharacter, b :: rest⟩ else skipOctets rest

def skipText : Reader Unit := fun rest => (skipOctets rest).map ((), ·)

def skipExponent : Reader Unit := do
  advance
  let sign ← peek
  if sign = some '+' ∨ sign = some '-' then advance
  if ((← peek).any isDigit) then
    let _ ← skipDigits
  else
    advance
    here .invalidNumber

def skipDecimals : Reader Unit := do
  advance
  if (← skipDigits) = 0 then ahead .invalidNumber
  else
    match ← peek with
    | some 'e' | some 'E' => skipExponent
    | _ => pure ()

def skipNumber : Reader Unit := do
  match ← peek with
  | some '0' =>
    advance
    if ((← peek).any isDigit) then ahead .invalidNumber
  | c =>
    if (← skipDigits) = 0 then
      if c.isSome then advance
      here .invalidNumber
  match ← peek with
  | some '.' => skipDecimals
  | some 'e' | some 'E' => skipExponent
  | _ => pure ()

/-- What encloses the place of reading. -/
inductive Bracket
  | list
  | object
  deriving DecidableEq

def Bracket.close : Bracket → Char
  | .list => ']'
  | .object => '\x7d'

def Bracket.eof : Bracket → Fault
  | .list => .eofList
  | .object => .eofObject

def Bracket.expectedCommaOrEnd : Bracket → Fault
  | .list => .expectedListCommaOrEnd
  | .object => .expectedObjectCommaOrEnd

/-- Where in a nest of brackets the reading stands. -/
inductive Place
  /-- A value has to follow. -/
  | value
  /-- The innermost bracket has just opened. -/
  | opened
  /-- A value has just ended. -/
  | ended

/-- Reads over a value without brackets, or over an opening bracket, which it returns. -/
def skipScalar : Reader (Option Bracket) := do
  match ← peekMark with
  | none => ahead .eofValue
  | some 'n' =>
    word ['n', 'u', 'l', 'l']
    pure none
  | some 't' =>
    word ['t', 'r', 'u', 'e']
    pure none
  | some 'f' =>
    word ['f', 'a', 'l', 's', 'e']
    pure none
  | some '"' =>
    advance
    skipText
    pure none
  | some '[' =>
    advance
    pure (some .list)
  | some '\x7b' =>
    advance
    pure (some .object)
  | some '-' =>
    advance
    skipNumber
    pure none
  | some c =>
    if isDigit c then
      skipNumber
      pure none
    else ahead .expectedValue

/-- Reads over the name of a member and its colon, if the innermost bracket is that of an object. -/
def skipName : Bracket → Reader Unit
  | .list => pure ()
  | .object => do
    match ← peekMark with
    | none => ahead .eofObject
    | some '"' =>
      advance
      skipText
      colon
    | some _ => ahead .keyMustBeString

/-- Reads on inside the brackets `nest`, the innermost first, until all are closed. Each step but the last
takes an octet at least. -/
def skipWithin : Nat → Place → List Bracket → Reader Unit
  | 0, _, _ => pure ()
  | fuel + 1, .value, nest => do
    match ← skipScalar with
    | none => skipWithin fuel .ended nest
    | some b => skipWithin fuel .opened (b :: nest)
  | _ + 1, _, [] => pure ()
  | fuel + 1, .opened, b :: nest => do
    match ← peekMark with
    | none => ahead b.eof
    | some c =>
      if c = b.close then
        advance
        skipWithin fuel .ended nest
      else
        skipName b
        skipWithin fuel .value (b :: nest)
  | fuel + 1, .ended, b :: nest => do
    match ← peekMark with
    | none => ahead b.eof
    | some c =>
      if c = b.close then
        advance
        skipWithin fuel .ended nest
      else if c = ',' then
        advance
        skipName b
        skipWithin fuel .value (b :: nest)
      else ahead b.expectedCommaOrEnd

def skipValue : Reader Unit := fun rest => skipWithin (2 * rest.length + 2) .value [] rest

end GracefulDrain.Json.Reader
