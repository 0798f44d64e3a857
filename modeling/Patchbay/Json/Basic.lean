import Patchbay.Number.Decimal
import Patchbay.Number.Natural
import Patchbay.Text.Keyed

/-!
# JSON values

Whole numbers of 64 bits are kept apart from floating-point ones, since they are written
differently. The members of a free-form object are a keyed list; a record written as an object
keeps the order of its fields.
-/

namespace Patchbay

namespace Json

/-- A number in a JSON text: a whole number that fits 64 bits, signed or unsigned, or a finite
floating-point number. -/
inductive Number where
  | integer (n : Int)
  | float (x : Double)
deriving DecidableEq, Repr

namespace Number

def signed? : Number → Option Int
  | .integer n => if n < signedWordBound then some n else none
  | .float _ => none

/-- A number with a value of an unsigned word. -/
def unsigned? : Number → Option Nat
  | .integer n => if 0 ≤ n then some n.toNat else none
  | .float _ => none

/-- The closest number of 64 bits. -/
def toDouble : Number → Double
  | .integer n => ⟨n < 0, BinaryFormat.double.nearest n.natAbs 1⟩
  | .float x => x

/-- The closest number of 32 bits to the closest number of 64 bits. -/
def toSingle (n : Number) : Single := n.toDouble.convert .single

end Number

end Json

/-- A JSON value. -/
inductive Json where
  | null
  | bool (b : Bool)
  | number (n : Json.Number)
  | string (s : String)
  | array (items : List Json)
  | object (members : List (String × Json))
deriving Repr, Inhabited

namespace Json

/-- The members of a free-form object. -/
abbrev Members := List (String × Json)

def ofInt (n : Int) : Json := .number (.integer n)

def ofNat (n : Nat) : Json := .ofInt n

/-- The value of a record's field that may be absent. -/
def field (name : String) (value : Option Json) : Members :=
  (value.map (name, ·)).toList

def ofStrings (texts : List String) : Json := .array (texts.map .string)

end Json

end Patchbay
