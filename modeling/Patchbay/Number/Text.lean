import Patchbay.Number.Decimal

/-!
# Numbers written as text

A parameter may be written as text: an optional sign, then decimal digits with at most one point
and at least one digit around it, then an optional exponent; or a word for infinity or for no
number, in any case of letters. The decimal is rounded once, to the closest number. Space around
the text does not count; it is the white space of the Unicode character database.
-/

namespace Patchbay

namespace Text

def isBlank (c : Char) : Bool :=
  (0x09 ≤ c.toNat ∧ c.toNat ≤ 0x0d) ∨ (0x2000 ≤ c.toNat ∧ c.toNat ≤ 0x200a) ∨
    c.toNat ∈ [0x20, 0x85, 0xa0, 0x1680, 0x2028, 0x2029, 0x202f, 0x205f, 0x3000]

def trim (cs : List Char) : List Char :=
  ((cs.dropWhile isBlank).reverse.dropWhile isBlank).reverse

end Text

namespace Decimal

/-- The exponent of a power of ten after its mark, with an optional sign and at least one digit. -/
def exponentOfText? (s : List Char) : Option Int :=
  let (negative, ds) :=
    match s with
    | '-' :: r => (true, r)
    | '+' :: r => (false, r)
    | r => (false, r)
  if ds ≠ [] ∧ ds.all Char.isDigit then
    some (if negative then -(ofDigits ds : Int) else ofDigits ds)
  else none

def ofText? (s : List Char) : Option Decimal :=
  let whole := s.takeWhile Char.isDigit
  let rest := s.dropWhile Char.isDigit
  let (fraction, rest) :=
    match rest with
    | '.' :: r => (r.takeWhile Char.isDigit, r.dropWhile Char.isDigit)
    | r => ([], r)
  if whole = [] ∧ fraction = [] then none
  else
    match rest with
    | [] => some (ofParts whole fraction 0)
    | c :: r =>
      if c = 'e' ∨ c = 'E' then (exponentOfText? r).map (ofParts whole fraction) else none

end Decimal

/-- The number of a format that a text without its sign stands for, by its code. -/
def BinaryFormat.codeOfText? (f : BinaryFormat) (s : List Char) : Option Nat :=
  let word := String.ofList (s.map Char.toLower)
  if word = "inf" ∨ word = "infinity" then some f.infinity
  else if word = "nan" then some (f.infinity + 1)
  else (Decimal.ofText? s).map (·.nearest f)

/-- The number of a format that a text stands for, space around it aside. -/
def Binary.ofText? {f : BinaryFormat} (s : String) : Option (Binary f) :=
  match Text.trim s.toList with
  | '-' :: r => (f.codeOfText? r).map (Binary.mk true)
  | '+' :: r => (f.codeOfText? r).map (Binary.mk false)
  | r => (f.codeOfText? r).map (Binary.mk false)

end Patchbay
