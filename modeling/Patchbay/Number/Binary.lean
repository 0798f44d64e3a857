/-!
# Binary floating-point numbers

A format fixes how many significant bits a number keeps and how fine its smallest place is. A
number of a format is a sign and a *magnitude code*: the exponent field and the fraction field
read as one natural number, so that codes are ordered as the magnitudes they stand for.

Rounding is done in exact arithmetic: `BinaryFormat.nearest` takes a fraction `num / den` to the
code of the closest number of the format, a tie going to the even code.
-/

namespace Patchbay

/-- A binary floating-point format. -/
structure BinaryFormat where
  /-- Number of significant bits. -/
  precision : Nat
  /-- Exponent of the smallest place, `2 ^ minExponent`. -/
  minExponent : Int
  /-- Code of infinity; greater codes are no numbers. -/
  infinity : Nat

namespace BinaryFormat

def double : BinaryFormat := ⟨53, -1074, 0x7ff0000000000000⟩

def single : BinaryFormat := ⟨24, -149, 0x7f800000⟩

end BinaryFormat

/-- A number of a binary format. -/
structure Binary (f : BinaryFormat) where
  negative : Bool
  code : Nat
deriving DecidableEq, Repr

abbrev Double := Binary .double

abbrev Single := Binary .single

/-! ### Rounding -/

/-- The natural number closest to `num / den`, a half going to the even neighbour. -/
def roundDiv (num den : Nat) : Nat :=
  let q := num / den
  let r := num % den
  if 2 * r < den then q else if den < 2 * r then q + 1 else q + q % 2

/-- The greatest `e` with `2 ^ e ≤ num / den`, for a positive fraction. -/
def floorLog2 (num den : Nat) : Int :=
  let e : Int := (num.log2 : Int) - den.log2
  if den * Nat.pow 2 e.toNat ≤ num * Nat.pow 2 (-e).toNat then e else e - 1

/-- The code of the number of format `f` closest to `num / den`. -/
def BinaryFormat.nearest (f : BinaryFormat) (num den : Nat) : Nat :=
  if num = 0 then 0 else
    let place : Int := max (floorLog2 num den - ((f.precision : Int) - 1)) f.minExponent
    let mantissa := roundDiv (num * Nat.pow 2 (-place).toNat) (den * Nat.pow 2 place.toNat)
    min f.infinity ((place - f.minExponent).toNat * Nat.pow 2 (f.precision - 1) + mantissa)

namespace Binary

variable {f : BinaryFormat}

def isNaN (x : Binary f) : Bool := f.infinity < x.code

def isFinite (x : Binary f) : Bool := x.code < f.infinity

/-- The exponent field of the code. -/
def exponentField (x : Binary f) : Nat := x.code / Nat.pow 2 (f.precision - 1)

/-- The fraction field of the code. -/
def fraction (x : Binary f) : Nat := x.code % Nat.pow 2 (f.precision - 1)

/-- The magnitude of a finite number is `mantissa * 2 ^ exponent`. -/
def mantissa (x : Binary f) : Nat :=
  if x.exponentField = 0 then x.fraction else Nat.pow 2 (f.precision - 1) + x.fraction

@[inherit_doc mantissa]
def exponent (x : Binary f) : Int := f.minExponent + (x.exponentField - 1 : Nat)

/-- The magnitude of a finite number is `numerator / denominator`. -/
def numerator (x : Binary f) : Nat := x.mantissa * Nat.pow 2 x.exponent.toNat

@[inherit_doc numerator]
def denominator (x : Binary f) : Nat := Nat.pow 2 (-x.exponent).toNat

/-- The number closest to the product of two finite numbers. -/
def times (x y : Binary f) : Binary f :=
  { negative := x.negative != y.negative
    code := f.nearest (x.numerator * y.numerator) (x.denominator * y.denominator) }

/-- The number closest to the quotient of two finite numbers, of which the second is not zero. -/
def divide (x y : Binary f) : Binary f :=
  { negative := x.negative != y.negative
    code := f.nearest (x.numerator * y.denominator) (x.denominator * y.numerator) }

/-- The closest number of another format; what is no finite number stays so. -/
def convert (x : Binary f) (g : BinaryFormat) : Binary g :=
  { negative := x.negative
    code :=
      if x.isNaN then g.infinity + 1
      else if x.isFinite then g.nearest x.numerator x.denominator
      else g.infinity }

end Binary

end Patchbay
