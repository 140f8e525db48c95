/-!
# Doubles in JSON

Numbers outside the 64-bit integers are doubles. `ofParts` reads one from its decimal significand and
exponent, by a single multiplication or division with a power of ten; `text` writes the fewest digits that
read back, the nearest of those to the value.
-/

namespace GracefulDrain.Json.Double

/-- The largest exponent for which the power of ten is a finite double. -/
def maxPower : Nat := 308

def power (n : Nat) : Float := Float.ofScientific 1 false n

/-- `f * 10 ^ exp`, unless it is infinite. An exponent beyond the powers of ten is applied in steps, of
which three bring any 64-bit significand to zero. -/
def scale (steps : Nat) (f : Float) (exp : Int) : Option Float :=
  if exp.natAbs ≤ maxPower then
    if 0 ≤ exp then
      let g := f * power exp.natAbs
      if g.isInf then none else some g
    else some (f / power exp.natAbs)
  else if f == 0 then some f
  else if 0 ≤ exp then none
  else match steps with
    | 0 => some f
    | n + 1 => scale n (f / power maxPower) (exp + maxPower)

/-- The bits of the double `±significand * 10 ^ exp`, unless it is infinite. -/
def ofParts (negative : Bool) (significand : Nat) (exp : Int) : Option UInt64 :=
  (scale 4 significand.toUInt64.toFloat exp).map fun f => (if negative then -f else f).toBits

/-- A positive double as `mantissa * 2 ^ exp`, with the distance to its lower neighbour halved or not. -/
structure Parts where
  mantissa : Nat
  exp : Int
  /-- Whether the neighbour below is only half as far away as the one above. -/
  narrow : Bool

/-- The parts of the magnitude that `bits` encode. -/
def parts (bits : UInt64) : Parts :=
  let field : Nat := (bits.toNat / Nat.pow 2 52) % Nat.pow 2 11
  let fraction : Nat := bits.toNat % Nat.pow 2 52
  if field = 0 then ⟨fraction, -1074, false⟩
  else ⟨Nat.pow 2 52 + fraction, (field : Int) - 1075, fraction = 0 ∧ 1 < field⟩

structure Ratio where
  num : Nat
  den : Nat

/-- `n * 2 ^ e`. -/
def Ratio.scaled (n : Nat) (e : Int) : Ratio :=
  if 0 ≤ e then ⟨n * Nat.pow 2 e.toNat, 1⟩ else ⟨n, Nat.pow 2 (-e).toNat⟩

def Ratio.lt (a b : Ratio) : Bool := a.num * b.den < b.num * a.den
def Ratio.le (a b : Ratio) : Bool := a.num * b.den ≤ b.num * a.den

/-- `n * 10 ^ e`. -/
def Ratio.decimal (n : Nat) (e : Int) : Ratio :=
  if 0 ≤ e then ⟨n * Nat.pow 10 e.toNat, 1⟩ else ⟨n, Nat.pow 10 (-e).toNat⟩

/-- Whether `r` lies in the interval of numbers that round to the double: the ends belong to it if the
mantissa is even. -/
def Parts.rounds (p : Parts) (r : Ratio) : Bool :=
  let above := Ratio.scaled (4 * p.mantissa + 2) (p.exp - 2)
  let below := Ratio.scaled (4 * p.mantissa - (if p.narrow then 1 else 2)) (p.exp - 2)
  if p.mantissa % 2 = 0 then below.le r && r.le above else below.lt r && r.lt above

/-- The grid point `n * 10 ^ e` that stands for the double, if one of its two neighbours on the grid of
step `10 ^ e` reads back: the nearer one, the even one at a tie. -/
def Parts.onGrid? (p : Parts) (e : Int) : Option Nat :=
  let v := Ratio.scaled p.mantissa p.exp
  let step := Ratio.decimal 1 e
  let n := (v.num * step.den) / (v.den * step.num)
  let twice := Ratio.decimal (2 * n + 1) e
  let half : Ratio := ⟨twice.num, 2 * twice.den⟩
  let down := p.rounds (Ratio.decimal n e) && n != 0
  let up := p.rounds (Ratio.decimal (n + 1) e)
  match down, up with
  | false, false => none
  | true, false => some n
  | false, true => some (n + 1)
  | true, true =>
    if v.lt half then some n
    else if half.lt v then some (n + 1)
    else if n % 2 = 0 then some n else some (n + 1)

/-- The exponent of the leading decimal digit of a positive rational: the greatest `e` with
`10 ^ e ≤ r`, sought downwards from `start`. -/
def Ratio.magnitude (r : Ratio) : Nat → Int → Int
  | 0, start => start
  | fuel + 1, start =>
    if (Ratio.decimal 1 start).le r then start else r.magnitude fuel (start - 1)

/-- The digits of the shortest decimal that reads back and the exponent of its last digit, tried with one
digit first and with seventeen at last. -/
def Parts.shortest (p : Parts) : Nat × Int :=
  let top := (Ratio.scaled p.mantissa p.exp).magnitude 640 309
  match (List.range 17).findSome? fun (k : Nat) =>
      (p.onGrid? (top - (k : Int))).map fun n => (n, top - (k : Int)) with
  | some r => r
  | none => (0, 0)

/-- `n * 10 ^ e` without trailing zeros in `n`, of which there are at most `fuel`. -/
def stripZeros : Nat → Nat → Int → Nat × Int
  | 0, n, e => (n, e)
  | fuel + 1, n, e => if n % 10 = 0 ∧ n ≠ 0 then stripZeros fuel (n / 10) (e + 1) else (n, e)

/-- Digits and exponent in writing. Numbers whose leading digit stands at an exponent from -5 to 15 are
written positionally and with a point, the others with a signed exponent. -/
def layout (digits : List Char) (exp : Int) : List Char :=
  let lead := exp + digits.length - 1
  if 0 ≤ exp ∧ lead ≤ 15 then digits ++ List.replicate exp.toNat '0' ++ ['.', '0']
  else if 0 ≤ lead ∧ lead ≤ 15 then
    digits.take (lead.toNat + 1) ++ '.' :: digits.drop (lead.toNat + 1)
  else if -5 ≤ lead ∧ lead < 0 then
    ['0', '.'] ++ List.replicate (-lead - 1).toNat '0' ++ digits
  else
    let mantissa := match digits with
      | [] => []
      | [d] => [d]
      | d :: ds => d :: '.' :: ds
    mantissa ++ ['e', if lead < 0 then '-' else '+'] ++ (toString lead.natAbs).toList

def text (bits : UInt64) : String :=
  let sign := if bits.toNat / Nat.pow 2 63 = 1 then ['-'] else []
  if bits.toNat % Nat.pow 2 63 = 0 then String.ofList (sign ++ ['0', '.', '0'])
  else
    let (n, e) := (parts bits).shortest
    let (n, e) := stripZeros 20 n e
    String.ofList (sign ++ layout (toString n).toList e)

end GracefulDrain.Json.Double
