import GracefulDrain.Json.Fault
import GracefulDrain.Json.Value
/-!
# Reading JSON

A reader takes octets from the front of a text. `value` reads a document into a tree, exactly as far as
the value goes; the readers of its parts (words, strings, numbers, items, members) serve the records that
are read field by field as well.
-/

namespace GracefulDrain.Json

abbrev Reader := StateT Bytes (Except Stop)

namespace Reader
variable {α σ : Type}

/-- Refuses at the octet that was read last. -/
def here (f : Fault) : Reader α := fun rest => .error ⟨f, rest⟩

/-- Refuses at the octet that would be read next. -/
def ahead (f : Fault) : Reader α := fun rest => .error ⟨f, rest.tail⟩

/-- The next octet as a character, unread. -/
def peek : Reader (Option Char) := fun rest => .ok (rest.head?.map Char.ofUInt8, rest)

def advance : Reader Unit := fun rest => .ok ((), rest.tail)

/-- The four blanks of JSON. -/
def isBlank (b : UInt8) : Bool := b == 0x20 || b == 0x0A || b == 0x09 || b == 0x0D

def skipBlanks : Reader Unit := fun rest => .ok ((), rest.dropWhile isBlank)

/-- The next octet that is no blank. -/
def peekMark : Reader (Option Char) := do
  skipBlanks
  peek

def word : List Char → Reader Unit
  | [] => pure ()
  | c :: cs => do
    match ← peek with
    | none => here .eofValue
    | some d =>
      advance
      if d = c then word cs else here .expectedWord

/-! ## Strings -/

/-- The octet for a character after a backslash, the letter `u` apart. -/
def simpleEscape? (c : Char) : Option UInt8 :=
  match c with
  | '"' => some 0x22
  | '\\' => some 0x5C
  | '/' => some 0x2F
  | 'b' => some 0x08
  | 'f' => some 0x0C
  | 'n' => some 0x0A
  | 'r' => some 0x0D
  | 't' => some 0x09
  | _ => none

def hexDigit? (b : UInt8) : Option Nat :=
  let n := b.toNat
  if 48 ≤ n ∧ n ≤ 57 then some (n - 48)
  else if 97 ≤ n ∧ n ≤ 102 then some (n - 87)
  else if 65 ≤ n ∧ n ≤ 70 then some (n - 55)
  else none

/-- The number that four hexadecimal digits spell. -/
def hexUnit? (a b c d : UInt8) : Option Nat := do
  return (((← hexDigit? a) * 16 + (← hexDigit? b)) * 16 + (← hexDigit? c)) * 16 + (← hexDigit? d)

/-- Whether `unit` is the first half of a pair. -/
def isLeading (unit : Nat) : Bool := 0xD800 ≤ unit && unit ≤ 0xDBFF

/-- Whether `unit` is the second half of a pair. -/
def isTrailing (unit : Nat) : Bool := 0xDC00 ≤ unit && unit ≤ 0xDFFF

/-- The character of a pair of halves. -/
def paired (lead trail : Nat) : Char := Char.ofNat (0x10000 + (lead - 0xD800) * 0x400 + (trail - 0xDC00))

/-- The octets of `c`, reversed, in front of `acc`. -/
def pushChar (acc : Bytes) (c : Char) : Bytes := (String.utf8EncodeChar c).reverse ++ acc

/-- The octets of a string up to its closing quote, with escapes resolved. `acc` holds those that were
read, reversed, and `lead` the first half of a pair whose second half is owed. -/
def textOctets (lead : Option Nat) (acc : Bytes) : Bytes → Except Stop (Bytes × Bytes)
  | [] => .error ⟨.eofString, []⟩
  | b :: rest =>
    match lead, Char.ofUInt8 b with
    | none, '"' => .ok (acc.reverse, rest)
    | _, '\\' =>
      match rest with
      | [] => .error ⟨.eofString, []⟩
      | e :: rest =>
        match lead, Char.ofUInt8 e with
        | _, 'u' =>
          match rest with
          | h₁ :: h₂ :: h₃ :: h₄ :: rest =>
            match lead, hexUnit? h₁ h₂ h₃ h₄ with
            | _, none => .error ⟨.invalidEscape, rest⟩
            | none, some unit =>
              if isTrailing unit then .error ⟨.loneSurrogate, rest⟩
              else if isLeading unit then textOctets (some unit) acc rest
              else textOctets none (pushChar acc (Char.ofNat unit)) rest
            | some first, some unit =>
              if isTrailing unit then textOctets none (pushChar acc (paired first unit)) rest
              else .error ⟨.loneSurrogate, rest⟩
          | _ => .error ⟨.eofString, []⟩
        | some _, _ => .error ⟨.endOfHexEscape, rest⟩
        | none, c =>
          match simpleEscape? c with
          | some x => textOctets none (x :: acc) rest
          | none => .error ⟨.invalidEscape, rest⟩
    | some _, _ => .error ⟨.endOfHexEscape, rest⟩
    | none, _ =>
      if b < 0x20 then .error ⟨.controlCharacter, rest⟩ else textOctets none (b :: acc) rest

def text : Reader String := fun rest =>
  match textOctets none [] rest with
  | .error e => .error e
  | .ok (octets, rest) =>
    match Utf8.decode? octets with
    | some s => .ok (s, rest)
    | none => .error ⟨.invalidUnicode, rest⟩

/-! ## Numbers -/

/-- A number as it is kept. -/
inductive Number
  | int (n : Int)
  | double (bits : UInt64)

def Number.toJson : Number → Json
  | .int n => .int n
  | .double bits => .double bits

def Number.found : Number → Found
  | .int n => .int n
  | .double bits => .double bits

def isDigit (c : Char) : Bool := '0' ≤ c && c ≤ '9'

/-- Appends digits to `n` as long as the result stays within `bound`; also counts them. -/
def appendDigits (bound n count : Nat) : Bytes → (Nat × Nat) × Bytes
  | [] => ((n, count), [])
  | b :: rest =>
    let c := Char.ofUInt8 b
    if isDigit c && n * 10 + (c.toNat - 48) ≤ bound then
      appendDigits bound (n * 10 + (c.toNat - 48)) (count + 1) rest
    else ((n, count), b :: rest)

/-- Reads the digits that fit below `bound`, after those of `n`; returns the number and how many there were. -/
def digitsWithin (bound n : Nat) : Reader (Nat × Nat) := fun rest => .ok (appendDigits bound n 0 rest)

def skipDigits : Reader Nat := fun rest =>
  let after := rest.dropWhile fun b => isDigit (Char.ofUInt8 b)
  .ok (rest.length - after.length, after)

/-- The largest number kept exactly. -/
def maxSignificand : Nat := UInt64.size - 1

/-- The largest exponent that is read. -/
def maxExponent : Nat := 2_147_483_647

/-- The integer `±n`. Zero with a sign and what is below 64 bits are doubles. -/
def Number.ofInteger (negative : Bool) (n : Nat) : Number :=
  if !negative then .int n
  else if 0 < n ∧ n ≤ 9_223_372_036_854_775_808 then .int (-(n : Int))
  else .double ((Double.ofParts true n 0).getD 0)

/-- The double `±significand * 10 ^ exp`. -/
def scaled (negative : Bool) (significand : Nat) (exp : Int) : Reader Number :=
  match Double.ofParts negative significand exp with
  | some bits => pure (.double bits)
  | none => here .numberOutOfRange

/-- Reads the exponent of a number, from its letter on. -/
def exponent (negative : Bool) (significand : Nat) (exp : Int) : Reader Number := do
  advance
  let sign ← peek
  if sign = some '+' ∨ sign = some '-' then advance
  match ← peek with
  | none => here .eofValue
  | some c =>
    if isDigit c then
      let (n, _) ← digitsWithin maxExponent 0
      match ← peek with
      | some c =>
        if isDigit c then
          advance
          if significand ≠ 0 ∧ sign ≠ some '-' then here .numberOutOfRange
          else
            let _ ← skipDigits
            scaled negative 0 0
        else scaled negative significand (if sign = some '-' then exp - n else exp + n)
      | none => scaled negative significand (if sign = some '-' then exp - n else exp + n)
    else
      advance
      here .invalidNumber

def decimals (negative : Bool) (significand : Nat) (exp : Int) : Reader Number := do
  advance
  match ← peek with
  | none => ahead .eofValue
  | some c =>
    if isDigit c then
      let (n, places) ← digitsWithin maxSignificand significand
      let _ ← skipDigits
      match ← peek with
      | some 'e' | some 'E' => exponent negative n (exp - places)
      | _ => scaled negative n (exp - places)
    else ahead .invalidNumber

/-- Reads a number whose sign has been read. Digits that no longer fit only count for the exponent. -/
def number (negative : Bool) : Reader Number := do
  match ← peek with
  | none => here .eofValue
  | some c =>
    if isDigit c then
      let (n, dropped) ←
        if c = '0' then do
          advance
          if ((← peek).any isDigit) then ahead .invalidNumber else pure (0, 0)
        else do
          let (n, _) ← digitsWithin maxSignificand 0
          pure (n, ← skipDigits)
      match ← peek with
      | some '.' => decimals negative n dropped
      | some 'e' | some 'E' => exponent negative n dropped
      | _ => if dropped = 0 then pure (Number.ofInteger negative n) else scaled negative n dropped
    else
      advance
      here .invalidNumber

/-! ## Items and members -/

/-- Whether another item follows; reads up to the item or to the closing bracket. -/
def anotherItem (first : Bool) : Reader Bool := do
  match ← peekMark with
  | none => ahead .eofList
  | some ']' => pure false
  | some c =>
    if first then pure true
    else if c = ',' then
      advance
      match ← peekMark with
      | none => ahead .eofValue
      | some ']' => ahead .trailingComma
      | some _ => pure true
    else ahead .expectedListCommaOrEnd

def closeItems : Reader Unit := do
  match ← peekMark with
  | none => ahead .eofList
  | some ']' => advance
  | some ',' =>
    advance
    match ← peekMark with
    | some ']' => ahead .trailingComma
    | _ => ahead .trailingCharacters
  | some _ => ahead .trailingCharacters

def itemsWithin (item : Reader α) : Nat → Bool → List α → Reader (List α)
  | 0, _, acc => pure acc.reverse
  | fuel + 1, first, acc => do
    if ← anotherItem first then
      let v ← item
      itemsWithin item fuel false (v :: acc)
    else
      advance
      pure acc.reverse

/-- Reads the items of an array and its closing bracket. Each item takes an octet at least. -/
def items (item : Reader α) : Reader (List α) := fun rest =>
  itemsWithin item (rest.length + 1) true [] rest

/-- Whether another member follows; reads up to its name or to the closing brace. -/
def anotherMember (first : Bool) : Reader Bool := do
  match ← peekMark with
  | none => ahead .eofObject
  | some '\x7d' => pure false
  | some c =>
    if first then
      if c = '"' then pure true else ahead .keyMustBeString
    else if c = ',' then
      advance
      match ← peekMark with
      | none => ahead .eofValue
      | some '"' => pure true
      | some '\x7d' => ahead .trailingComma
      | some _ => ahead .keyMustBeString
    else ahead .expectedObjectCommaOrEnd

def colon : Reader Unit := do
  match ← peekMark with
  | none => ahead .eofObject
  | some ':' => advance
  | some _ => ahead .expectedColon

/-- Reads at most `fuel` members and the closing brace. `member` reads on from the end of a name. -/
def membersWithin (member : String → σ → Reader σ) : Nat → Bool → σ → Reader σ
  | 0, _, acc => pure acc
  | fuel + 1, first, acc => do
    if ← anotherMember first then
      advance
      let name ← text
      let acc ← member name acc
      membersWithin member fuel false acc
    else
      advance
      pure acc

def members (member : String → σ → Reader σ) (start : σ) : Reader σ := fun rest =>
  membersWithin member (rest.length + 1) true start rest

/-! ## Values -/

def maxDepth : Nat := 127

/-- Reads a value, where `array` and `object` read on from the brackets. -/
def valueWith (array object : Reader Json) : Reader Json := do
  match ← peekMark with
  | none => ahead .eofValue
  | some 'n' =>
    word ['n', 'u', 'l', 'l']
    pure .null
  | some 't' =>
    word ['t', 'r', 'u', 'e']
    pure (.bool true)
  | some 'f' =>
    word ['f', 'a', 'l', 's', 'e']
    pure (.bool false)
  | some '"' =>
    advance
    return .str (← text)
  | some '[' => array
  | some '\x7b' => object
  | some '-' =>
    advance
    return (← number true).toJson
  | some c => if isDigit c then return (← number false).toJson else ahead .expectedValue

/-- Reads a value in which at most `room` arrays and objects enclose one another. -/
def value : Nat → Reader Json
  | 0 => valueWith (ahead .recursionLimit) (ahead .recursionLimit)
  | room + 1 =>
    let array := do
      advance
      return .arr (← items (value room))
    let object := do
      advance
      let pairs ← members (fun name acc => do
        colon
        return (name, ← value room) :: acc) []
      return .obj (Members.ofList pairs.reverse)
    valueWith array object

end Reader

end GracefulDrain.Json
