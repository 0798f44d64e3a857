import Patchbay.Number.Binary

/-!
# Decimal numbers

A decimal is `digits * 10 ^ exponent`. `Decimal.nearest` rounds one to a binary format;
`Binary.shortest` goes the other way, to the decimal with the fewest digits that rounds back to
the number, the closest of these.
-/

namespace Patchbay

/-- The number `digits * 10 ^ exponent`. -/
structure Decimal where
  digits : Nat
  exponent : Int
deriving DecidableEq, Repr

/-! ### Digits -/

/-- The value of an ASCII decimal digit. -/
def digitValue? (c : Char) : Option Nat :=
  if c.isDigit then some (c.toNat - '0'.toNat) else none

/-- The number written by a list of decimal digits, from the left. -/
def ofDigits (ds : List Char) : Nat :=
  ds.foldl (fun n c => 10 * n + (digitValue? c).getD 0) 0

def digitsOf (n : Nat) : List Char := Nat.toDigits 10 n

namespace Decimal

/-- The decimal written `whole.fraction` times a power of ten. -/
def ofParts (whole fraction : List Char) (exponent : Int) : Decimal :=
  ⟨ofDigits (whole ++ fraction), exponent - fraction.length⟩

/-- The code of the number of format `f` closest to `d`. Beyond `10 ^ 400` and below `10 ^ -400`
the answer is that of every format. -/
def nearest (d : Decimal) (f : BinaryFormat) : Nat :=
  let top := (digitsOf d.digits).length + d.exponent
  if d.digits = 0 ∨ top < -400 then 0
  else if 400 < top then f.infinity
  else f.nearest (d.digits * Nat.pow 10 d.exponent.toNat) (Nat.pow 10 (-d.exponent).toNat)

/-! ### Writing -/

/-- One more than the exponent of the first digit. -/
def pointPosition (d : Decimal) : Int := (digitsOf d.digits).length + d.exponent

/-- Positional notation with a point and at least one digit on each side of it. -/
def positional (d : Decimal) : List Char :=
  let ds := digitsOf d.digits
  let point := d.pointPosition
  if 0 ≤ d.exponent then ds ++ List.replicate d.exponent.toNat '0' ++ ['.', '0']
  else if 0 < point then ds.take point.toNat ++ '.' :: ds.drop point.toNat
  else '0' :: '.' :: (List.replicate (-point).toNat '0' ++ ds)

/-- One digit before the point, no point after a lone digit, and a signed exponent. -/
def scientific (d : Decimal) : List Char :=
  let exponent := d.pointPosition - 1
  let mark := if exponent < 0 then ['e', '-'] else ['e', '+']
  match digitsOf d.digits with
  | [] => []
  | [c] => c :: mark ++ digitsOf exponent.natAbs
  | c :: ds => c :: '.' :: ds ++ mark ++ digitsOf exponent.natAbs

end Decimal

/-! ### The shortest decimal -/

/-- The numbers that round to a given one: those between `low / den` and `high / den`, the ends
included if `closed`; `value / den` is the number itself. -/
structure RoundingInterval where
  low : Nat
  value : Nat
  high : Nat
  den : Nat
  closed : Bool

namespace RoundingInterval

def contains (i : RoundingInterval) (n : Nat) : Bool :=
  if i.closed then i.low ≤ n ∧ n ≤ i.high else i.low < n ∧ n < i.high

/-- The same interval in units of `10 ^ e`. -/
def inUnits (i : RoundingInterval) (e : Int) : RoundingInterval :=
  let up := Nat.pow 10 (-e).toNat
  { i with
    low := i.low * up
    value := i.value * up
    high := i.high * up
    den := i.den * Nat.pow 10 e.toNat }

/-- The positive integer in the interval that is closest to its value, a tie going to the even
one. If the interval holds an integer, it holds one of the value's two neighbours. -/
def integer? (i : RoundingInterval) : Option Nat :=
  let k := i.value / i.den
  let below := 0 < k ∧ i.contains (k * i.den)
  let above := i.contains ((k + 1) * i.den)
  if below ∧ above then some (roundDiv i.value i.den)
  else if below then some k
  else if above then some (k + 1)
  else none

/-- The decimal on the coarsest grid `10 ^ e`, `10 ^ (e - 1)`, … with a point in the interval. -/
def coarsest (i : RoundingInterval) (e : Int) : Nat → Option Decimal
  | 0 => none
  | fuel + 1 =>
    match (i.inUnits e).integer? with
    | some n => some ⟨n, e⟩
    | none => coarsest i (e - 1) fuel

end RoundingInterval

namespace Binary

variable {f : BinaryFormat}

/-- The numbers that round to `x`. The gap to the number below is half the gap above when the
fraction field is empty. -/
def interval (x : Binary f) : RoundingInterval :=
  let e := x.exponent - 2
  let up := Nat.pow 2 e.toNat
  let gap := if x.fraction = 0 ∧ 1 < x.exponentField then 1 else 2
  { low := (4 * x.mantissa - gap) * up
    value := 4 * x.mantissa * up
    high := (4 * x.mantissa + 2) * up
    den := Nat.pow 2 (-e).toNat
    closed := x.mantissa % 2 = 0 }

/-- The decimal with the fewest digits that rounds to `x`, for a finite `x`. No grid coarser than
`10 ^ 309` and none as fine as `10 ^ -400` has to be tried in a format of at most 64 bits. -/
def shortest (x : Binary f) : Decimal :=
  if x.mantissa = 0 then ⟨0, 0⟩
  else
    let whole := x.interval.value / x.interval.den
    let top : Int := if whole = 0 then 0 else (digitsOf whole).length
    (x.interval.coarsest top 800).getD ⟨0, 0⟩

end Binary

end Patchbay
