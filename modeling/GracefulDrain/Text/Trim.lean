/-!
# Trimming

Removal of characters at the ends of a text. `trim` removes the characters with the Unicode property
White_Space, of which ASCII space and the control characters 9 to 13 are only a part.
-/

namespace GracefulDrain.Text

/-- Characters with the Unicode property White_Space. -/
def isBlank (c : Char) : Bool :=
  let n := c.toNat
  (9 ≤ n && n ≤ 13) || n == 0x20 || n == 0x85 || n == 0xA0 || n == 0x1680 ||
    (0x2000 ≤ n && n ≤ 0x200A) || n == 0x2028 || n == 0x2029 || n == 0x202F || n == 0x205F ||
    n == 0x3000

/-- `cs` without the longest run of characters satisfying `p` at its end. -/
def dropRight (p : Char → Bool) (cs : List Char) : List Char := (cs.reverse.dropWhile p).reverse

/-- `cs` without blanks at either end. -/
def trimBlanks (cs : List Char) : List Char := dropRight isBlank (cs.dropWhile isBlank)

def trim (s : String) : String := String.ofList (trimBlanks s.toList)

/-- Whether `s` holds no character other than blanks. -/
def allBlank (s : String) : Bool := s.toList.all isBlank

end GracefulDrain.Text
