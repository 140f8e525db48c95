import GracefulDrain.Text.Printable
/-!
# Quoted texts

The form in which messages quote a text they did not write themselves: between double quotes, with
everything escaped that a reader could not see.
-/

namespace GracefulDrain.Text

def hexDigits (n : Nat) : List Char := Nat.toDigits 16 n

/-- What stands for `c` between the quotes. -/
def escapeChar (c : Char) : List Char :=
  if c = '\x00' then ['\\', '0']
  else if c = '\t' then ['\\', 't']
  else if c = '\r' then ['\\', 'r']
  else if c = '\n' then ['\\', 'n']
  else if c = '"' then ['\\', '"']
  else if c = '\\' then ['\\', '\\']
  else if isGraphemeExtend c || !isPrintable c then
    ['\\', 'u', '\x7b'] ++ hexDigits c.toNat ++ ['\x7d']
  else [c]

def quote (s : String) : String :=
  String.ofList ('"' :: (s.toList.flatMap escapeChar ++ ['"']))

/-- Quoted texts between brackets, separated by commas. -/
def quoteList (ss : List String) : String := "[" ++ ", ".intercalate (ss.map quote) ++ "]"

end GracefulDrain.Text
