import Patchbay.Json.Basic

/-!
# Numbers as written

The digits of a number are taken into a word from the left, as many as fit. Digits before the point
that do not fit still raise the power of ten, digits after it are left out. What has been taken is
rounded to a number of 64 bits, and this is multiplied or divided by a power of ten that is rounded
itself. So the result can be a neighbour of the closest number.
-/

namespace Patchbay

/-- A decimal with one more digit at its end, if its digits still fit a word. -/
def Decimal.append? (d : Decimal) (c : Char) : Option Nat :=
  let n := 10 * d.digits + (digitValue? c).getD 0
  if n < wordBound then some n else none

/-- A decimal with the digits before the point. -/
def Decimal.takeWhole (d : Decimal) : List Char → Decimal
  | [] => d
  | c :: cs =>
    match d.append? c with
    | some n => takeWhole { d with digits := n } cs
    | none => { d with exponent := d.exponent + (c :: cs).length }

/-- A decimal with the digits after the point. -/
def Decimal.takeFraction (d : Decimal) : List Char → Decimal
  | [] => d
  | c :: cs =>
    match d.append? c with
    | some n => takeFraction ⟨n, d.exponent - 1⟩ cs
    | none => d

namespace Json

/-- What is taken of the digits before and after the point. -/
def taken (whole fraction : List Char) : Decimal :=
  ((⟨0, 0⟩ : Decimal).takeWhole whole).takeFraction fraction

/-- The greatest power of ten that is a number of 64 bits. -/
def maxPower : Nat := 308

/-- The number of 64 bits closest to a power of ten. -/
def powerOfTen (k : Nat) : Double := ⟨false, BinaryFormat.double.nearest (Nat.pow 10 k) 1⟩

/-- A number divided by a power of ten, the greatest at a time. -/
def lower (x : Double) (k : Nat) : Double :=
  if k ≤ maxPower then x.divide (powerOfTen k)
  else if x.code = 0 then x
  else lower (x.divide (powerOfTen maxPower)) (k - maxPower)
termination_by k
decreasing_by simp only [maxPower] at *; omega

/-- The number of 64 bits that is read for a decimal without its sign. Only zero can be raised by
more than the greatest power of ten. -/
def scaled (d : Decimal) : Double :=
  let x : Double := ⟨false, BinaryFormat.double.nearest d.digits 1⟩
  if d.exponent < 0 then lower x d.exponent.natAbs
  else if d.exponent.toNat ≤ maxPower then x.times (powerOfTen d.exponent.toNat)
  else if x.code = 0 then x
  else ⟨false, BinaryFormat.double.infinity⟩

def exponentBound : Nat := 0x80000000

/-- The number that is read for the digits before and after the point and an exponent. An exponent
out of bounds makes everything zero or infinite, zero itself staying zero. -/
def magnitude (whole fraction : List Char) (exponent : Int) : Double :=
  let d := taken whole fraction
  if exponent.natAbs < exponentBound then scaled { d with exponent := d.exponent + exponent }
  else if d.digits = 0 ∨ exponent < 0 then ⟨false, 0⟩
  else ⟨false, BinaryFormat.double.infinity⟩

end Json

end Patchbay
