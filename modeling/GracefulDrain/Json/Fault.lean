import GracefulDrain.Json.Double
import GracefulDrain.Text.Quoted
import GracefulDrain.Text.Utf8
/-!
# Faults in JSON texts

Why a text is refused, and where. A fault is first noted with the octets that were still unread; `Error`
turns that into a line and a column, which count octets.
-/

namespace GracefulDrain.Json

/-- The kind of value that stood where another was expected. -/
inductive Found
  | null
  | bool (b : Bool)
  | int (n : Int)
  | double (bits : UInt64)
  | str (s : String)
  | sequence
  | map
  deriving DecidableEq

def Found.text : Found → String
  | .null => "null"
  | .bool b => s!"boolean `{b}`"
  | .int n => s!"integer `{n}`"
  | .double bits => s!"floating point `{Double.text bits}`"
  | .str s => s!"string {Text.quote s}"
  | .sequence => "sequence"
  | .map => "map"

inductive Fault
  | eofList
  | eofObject
  | eofString
  | eofValue
  | expectedColon
  | expectedListCommaOrEnd
  | expectedObjectCommaOrEnd
  | expectedWord
  | expectedValue
  | invalidEscape
  | invalidNumber
  | numberOutOfRange
  | invalidUnicode
  | controlCharacter
  | keyMustBeString
  | loneSurrogate
  | trailingComma
  | trailingCharacters
  | endOfHexEscape
  | recursionLimit
  | invalidType (found : Found) (expected : String)
  | invalidValue (found : Found) (expected : String)
  | missingField (name : String)
  | duplicateField (name : String)
  | invalidLength (n : Nat) (expected : String)
  deriving DecidableEq

def Fault.text : Fault → String
  | .eofList => "EOF while parsing a list"
  | .eofObject => "EOF while parsing an object"
  | .eofString => "EOF while parsing a string"
  | .eofValue => "EOF while parsing a value"
  | .expectedColon => "expected `:`"
  | .expectedListCommaOrEnd => "expected `,` or `]`"
  | .expectedObjectCommaOrEnd => "expected `,` or `\x7d`"
  | .expectedWord => "expected ident"
  | .expectedValue => "expected value"
  | .invalidEscape => "invalid escape"
  | .invalidNumber => "invalid number"
  | .numberOutOfRange => "number out of range"
  | .invalidUnicode => "invalid unicode code point"
  | .controlCharacter => "control character (\\u0000-\\u001F) found while parsing a string"
  | .keyMustBeString => "key must be a string"
  | .loneSurrogate => "lone leading surrogate in hex escape"
  | .trailingComma => "trailing comma"
  | .trailingCharacters => "trailing characters"
  | .endOfHexEscape => "unexpected end of hex escape"
  | .recursionLimit => "recursion limit exceeded"
  | .invalidType found expected => s!"invalid type: {found.text}, expected {expected}"
  | .invalidValue found expected => s!"invalid value: {found.text}, expected {expected}"
  | .missingField name => s!"missing field `{name}`"
  | .duplicateField name => s!"duplicate field `{name}`"
  | .invalidLength n expected => s!"invalid length {n}, expected {expected}"

/-- A fault and what was unread when it was noted. -/
structure Stop where
  fault : Fault
  unread : Bytes
  deriving DecidableEq

structure Error where
  fault : Fault
  line : Nat
  column : Nat
  deriving DecidableEq

/-- Places a fault at the last octet that was read of `text`. Lines count from one; the column is zero
right after a line feed. -/
def Error.locate (text : Bytes) (stop : Stop) : Error :=
  let done := text.take (text.length - stop.unread.length)
  { fault := stop.fault
    line := 1 + done.count 10
    column := (done.reverse.takeWhile (· != 10)).length }

def Error.message (e : Error) : String := s!"{e.fault.text} at line {e.line} column {e.column}"

end GracefulDrain.Json
