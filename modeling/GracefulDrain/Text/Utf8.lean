/-!
# UTF-8

Texts as octets. `encode` writes a text, `decode?` reads octets that are valid UTF-8, and `decodeLossy`
reads any octets: each maximal ill-formed piece becomes one U+FFFD. The lossy reader takes one octet at a
time and remembers only the sequence that is still open.
-/

namespace GracefulDrain

abbrev Bytes := List UInt8

namespace Utf8

def encode (s : String) : Bytes := s.toUTF8.data.toList

/-- The text that `bs` encodes, if they are valid UTF-8. -/
def decode? (bs : Bytes) : Option String := String.fromUTF8? ⟨bs.toArray⟩

/-- A sequence whose first octets have been read. -/
structure Opened where
  /-- Octets still owed. -/
  owed : Nat
  /-- The range of the octet owed next. -/
  lo : UInt8
  hi : UInt8
  /-- The value of the octets read so far. -/
  code : Nat

/-- What follows from reading `b` at the start of a sequence. -/
inductive Lead
  | char (c : Char)
  | opens (seq : Opened)
  | stray

def Lead.ofByte (b : UInt8) : Lead :=
  if b < 0x80 then .char (Char.ofUInt8 b)
  else if b < 0xC2 then .stray
  else if b < 0xE0 then .opens ⟨1, 0x80, 0xBF, b.toNat % 0x20⟩
  else if b = 0xE0 then .opens ⟨2, 0xA0, 0xBF, 0⟩
  else if b = 0xED then .opens ⟨2, 0x80, 0x9F, 0xD⟩
  else if b < 0xF0 then .opens ⟨2, 0x80, 0xBF, b.toNat % 0x10⟩
  else if b = 0xF0 then .opens ⟨3, 0x90, 0xBF, 0⟩
  else if b < 0xF4 then .opens ⟨3, 0x80, 0xBF, b.toNat % 0x08⟩
  else if b = 0xF4 then .opens ⟨3, 0x80, 0x8F, 4⟩
  else .stray

def replacement : Char := '\uFFFD'

/-- The state of the lossy reader: the text so far and the sequence that is open, if any. -/
structure Decoder where
  text : String := ""
  opened : Option Opened := none

namespace Decoder

/-- Reads `b` where a sequence may start. -/
def lead (text : String) (b : UInt8) : Decoder :=
  match Lead.ofByte b with
  | .char c => ⟨text.push c, none⟩
  | .opens seq => ⟨text, some seq⟩
  | .stray => ⟨text.push replacement, none⟩

/-- Reads one octet. An octet that cannot continue the open sequence ends it as one ill-formed piece and
is read again as the start of the next. -/
def step : Decoder → UInt8 → Decoder
  | ⟨text, none⟩, b => lead text b
  | ⟨text, some seq⟩, b =>
    if seq.lo ≤ b ∧ b ≤ seq.hi then
      let code := seq.code * 0x40 + b.toNat % 0x40
      if seq.owed ≤ 1 then ⟨text.push (Char.ofNat code), none⟩
      else ⟨text, some ⟨seq.owed - 1, 0x80, 0xBF, code⟩⟩
    else lead (text.push replacement) b

def finish : Decoder → String
  | ⟨text, none⟩ => text
  | ⟨text, some _⟩ => text.push replacement

end Decoder

/-- The text of `bs`, with U+FFFD for each maximal ill-formed piece. -/
def decodeLossy (bs : Bytes) : String := (bs.foldl Decoder.step {}).finish

/-- The text of a packed array of octets. -/
def lossy (bs : ByteArray) : String := (bs.data.foldl Decoder.step {}).finish

theorem lossy_eq_decodeLossy (bs : ByteArray) : lossy bs = decodeLossy bs.data.toList := by
  rw [lossy, decodeLossy, Array.foldl_toList]

end Utf8

end GracefulDrain
