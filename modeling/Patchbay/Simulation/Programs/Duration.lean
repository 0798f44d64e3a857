import Patchbay.Text.Hex

/-!
# Lengths of time

A length of time is a number with a letter after it for its unit: seconds, if there is none,
minutes, hours or days. The number has a point or not, and an exponent or not; it is decimal, or
hexadecimal with an exponent of two.
-/

namespace Patchbay.Duration

structure Numeral where
  base : Nat
  digit? : Char → Option Nat
  /-- The letter before the exponent, in lower case. -/
  mark : Char
  /-- What the exponent is an exponent of. -/
  radix : Nat
  /-- How many steps of the exponent a digit is worth. -/
  worth : Nat

def decimal : Numeral where
  base := 10
  digit? c := if c.isDigit then some (c.toNat - '0'.toNat) else none
  mark := 'e'
  radix := 10
  worth := 1

def hexadecimal : Numeral where
  base := 16
  digit? := Text.hexValue?
  mark := 'p'
  radix := 2
  worth := 4

/-- The exponent that a text begins with, and what follows it. -/
def exponent? (s : List Char) : Option (Int × List Char) :=
  let (isNegative, s) :=
    match s with
    | '-' :: s => (true, s)
    | '+' :: s => (false, s)
    | s => (false, s)
  let (ds, rest) := s.span Char.isDigit
  if ds.isEmpty then none
  else
    let n : Int := (ds.foldl (fun n c => 10 * n + (c.toNat - '0'.toNat)) 0 : Nat)
    some (if isNegative then -n else n, rest)

namespace Numeral

def value (f : Numeral) (ds : List Char) : Nat :=
  ds.foldl (fun n c => f.base * n + (f.digit? c).getD 0) 0

/-- So many units of the number that a text begins with, rounded down, and what follows it. -/
def scaled? (f : Numeral) (units : Nat) (s : List Char) : Option (Nat × List Char) :=
  let (whole, rest) := s.span fun c => (f.digit? c).isSome
  let (fraction, rest) :=
    match rest with
    | '.' :: rest => rest.span fun c => (f.digit? c).isSome
    | rest => ([], rest)
  if whole.isEmpty && fraction.isEmpty then none
  else
    let (e, rest) :=
      match rest with
      | c :: after => if c.toLower = f.mark then (exponent? after).getD (0, rest) else (0, rest)
      | [] => (0, [])
    let e := e - (f.worth * fraction.length : Nat)
    let n := f.value (whole ++ fraction) * units
    let scale (e : Int) : Nat := Nat.pow f.radix (min e.toNat 2000)
    some (if 0 ≤ e then n * scale e else n / scale (-e), rest)

end Numeral

/-- The number of seconds that a letter stands for. -/
def unit? : List Char → Option Nat
  | [] | ['s'] => some 1
  | ['m'] => some 60
  | ['h'] => some 3600
  | ['d'] => some 86400
  | _ => none

def endless : Nat := 0x10000000000000000

/-- The microseconds of a length of time. -/
def microseconds? (text : String) : Option Nat :=
  let s := text.toList.dropWhile fun c => c ∈ [' ', '\t', '\n']
  let s := if s.head? = some '+' then s.tail else s
  let number :=
    match s with
    | '0' :: x :: rest =>
      if x.toLower = 'x' then hexadecimal.scaled? 1000000 rest else decimal.scaled? 1000000 s
    | _ => decimal.scaled? 1000000 s
  match number with
  | some (n, rest) => (unit? rest).map fun unit => min (n * unit) endless
  | none =>
    let word := s.map Char.toLower
    ["infinity", "inf"].findSome? fun name =>
      if name.toList.isPrefixOf word then
        (unit? (s.drop name.length)).map fun _ => endless
      else none

end Patchbay.Duration
