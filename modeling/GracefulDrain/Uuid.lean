/-!
# UUIDs

128-bit identifiers as thirty-two hexadecimal digits. They are written in groups of 8, 4, 4, 4 and 12
between hyphens, and read in that form, without hyphens, in braces or behind `urn:uuid:`.
-/

namespace GracefulDrain

structure Uuid where
  digits : List (Fin 16)
  length_digits : digits.length = 32
  deriving DecidableEq

namespace Uuid

def hexChar (d : Fin 16) : Char :=
  if d.val < 10 then Char.ofNat (48 + d.val) else Char.ofNat (87 + d.val)

/-- The digit that `c` spells, in either case. -/
def hexDigit? (c : Char) : Option (Fin 16) :=
  let n := c.toNat
  if 48 ≤ n ∧ n ≤ 57 then some (Fin.ofNat 16 (n - 48))
  else if 97 ≤ n ∧ n ≤ 102 then some (Fin.ofNat 16 (n - 87))
  else if 65 ≤ n ∧ n ≤ 70 then some (Fin.ofNat 16 (n - 55))
  else none

/-- Reads thirty-two digits and nothing else. -/
def ofSimple? (cs : List Char) : Option Uuid := do
  let digits ← cs.mapM hexDigit?
  if h : digits.length = 32 then some ⟨digits, h⟩ else none

/-- `cs` in groups of 8, 4, 4, 4 and the rest, with a hyphen between the groups. -/
def hyphenate (cs : List Char) : List Char :=
  cs.take 8 ++ '-' :: (cs.drop 8).take 4 ++ '-' :: (cs.drop 12).take 4 ++
    '-' :: (cs.drop 16).take 4 ++ '-' :: cs.drop 20

/-- The text without the four characters that stand at the places of the hyphens. -/
def dropHyphens (cs : List Char) : List Char :=
  cs.take 8 ++ (cs.drop 9).take 4 ++ (cs.drop 14).take 4 ++ (cs.drop 19).take 4 ++ cs.drop 24

def ofHyphenated? (cs : List Char) : Option Uuid :=
  let digits := dropHyphens cs
  if cs = hyphenate digits then ofSimple? digits else none

/-- What may stand in front of the form with hyphens, in any letter case. -/
def urnLead : List Char := "urn:uuid:".toList

/-- Reads any of the four forms; the length of the text says which. -/
def parse? (s : String) : Option Uuid :=
  let cs := s.toList
  match s.utf8ByteSize with
  | 32 => ofSimple? cs
  | 36 => ofHyphenated? cs
  | 38 =>
    if cs.head? = some '\x7b' ∧ cs.getLast? = some '\x7d' then ofHyphenated? (cs.drop 1).dropLast
    else none
  | 45 => if (cs.take 9).map Char.toLower = urnLead then ofHyphenated? (cs.drop 9) else none
  | _ => none

def toString (u : Uuid) : String := String.ofList (hyphenate (u.digits.map hexChar))

instance : ToString Uuid := ⟨toString⟩

end Uuid

end GracefulDrain
