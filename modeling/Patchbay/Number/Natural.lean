import Patchbay.Number.Decimal

/-!
# Natural numbers

Ports and counts are given as text in variables and arguments: decimal digits, with a plus sign
before them or none. Numbers of 64 bits, without a sign or with one, have bounds of their own.
-/

namespace Patchbay

/-! ### Words -/

def wordBound : Nat := 0x10000000000000000

/-- The bound of words with a sign; the least such word is its negative. -/
def signedWordBound : Nat := 0x8000000000000000

/-! ### Natural numbers written as text -/

/-- The natural number below a bound that a text stands for. -/
def naturalOfText? (bound : Nat) (text : String) : Option Nat :=
  let ds :=
    match text.toList with
    | '+' :: ds => ds
    | ds => ds
  if ds ≠ [] ∧ ds.all Char.isDigit ∧ ofDigits ds < bound then some (ofDigits ds) else none

end Patchbay
