import Patchbay.Number.Decimal

/-!
# Dates and times

A date, a time of day or both; after both the distance from universal time may follow. In the
written form the letter `T` stands between date and time, universal time is marked by `Z`, a
fraction of a second has at most nine digits and no zeros at its end, and no distance from universal
time has a plus sign.

In a settings file `Datetime.prefix?` reads as much as is a date or a time. A text that stands for a
date or a time as a whole is read by `Datetime.ofText?`. This allows any distance from universal
time up to a day.
-/

namespace Patchbay.Toml.Datetime

/-- A number of exactly so many digits, within bounds. -/
def fixedDigits? (count low high : Nat) (s : List Char) : Option (Nat × List Char) :=
  let ds := s.take count
  let n := ofDigits ds
  if ds.length = count ∧ ds.all Char.isDigit ∧ low ≤ n ∧ n ≤ high then some (n, s.drop count)
  else none

/-- The text after a character. -/
def mark? (c : Char) : List Char → Option (List Char)
  | d :: s => if c = d then some s else none
  | [] => none

def daysIn (year month : Nat) : Nat :=
  if month = 2 then
    if year % 4 = 0 ∧ (year % 100 ≠ 0 ∨ year % 400 = 0) then 29 else 28
  else if month ∈ [4, 6, 9, 11] then 30
  else 31

def date? (s : List Char) : Option (List Char × List Char) := do
  let (year, r) ← fixedDigits? 4 0 9999 s
  let (month, r) ← fixedDigits? 2 1 12 (← mark? '-' r)
  let (_, r) ← fixedDigits? 2 1 (daysIn year month) (← mark? '-' r)
  return (s.take 10, r)

/-- A fraction of a second with the digits that count: nine at most, and no zeros at the end. -/
def fractionText (digits : List Char) : List Char :=
  match (digits.take 9).reverse.dropWhile (· = '0') with
  | [] => []
  | counting => '.' :: counting.reverse

/-- A fraction of a second, if there is one, and the text after it. -/
def fraction (s : List Char) : List Char × List Char :=
  match s with
  | '.' :: r =>
    match r.takeWhile Char.isDigit with
    | [] => ([], s)
    | digits => (fractionText digits, r.dropWhile Char.isDigit)
  | _ => ([], s)

/-- A time of day, and the text after it. A minute may have a leap second. -/
def time? (s : List Char) : Option (List Char × List Char) := do
  let (_, r) ← fixedDigits? 2 0 23 s
  let (_, r) ← fixedDigits? 2 0 59 (← mark? ':' r)
  let (_, r) ← fixedDigits? 2 0 60 (← mark? ':' r)
  let (parts, r) := fraction r
  return (s.take 8 ++ parts, r)

/-- Whether a character may stand between a date and a time. -/
def isBetween (c : Char) : Bool := c = 'T' || c = 't' || c = ' '

def isUniversal (c : Char) : Bool := c = 'Z' || c = 'z'

def twoDigits (n : Nat) : List Char := if n < 10 then '0' :: digitsOf n else digitsOf n

/-- A distance of so many minutes from universal time with its sign. -/
def offsetText (sign : Char) (minutes : Nat) : List Char :=
  (if minutes = 0 then '+' else sign) :: twoDigits (minutes / 60) ++
    ':' :: twoDigits (minutes % 60)

/-! ### In a settings file -/

/-- A distance from universal time, and the text after it. -/
def offset? : List Char → Option (List Char × List Char)
  | c :: s =>
    if isUniversal c then some (['Z'], s)
    else if c = '+' ∨ c = '-' then do
      let (hours, r) ← fixedDigits? 2 0 23 s
      let (minutes, r) ← fixedDigits? 2 0 59 (← mark? ':' r)
      return (offsetText c (60 * hours + minutes), r)
    else none
  | [] => none

/-- A time of day that follows a date, if one does, and the text after it. -/
def timeAfterDate (s : List Char) : List Char × List Char :=
  match s with
  | c :: r =>
    if isBetween c then
      match time? r with
      | some (time, r) =>
        let (offset, r) := (offset? r).getD ([], r)
        ('T' :: time ++ offset, r)
      | none => ([], s)
    else ([], s)
  | [] => ([], s)

/-- A date, a time of day or both at the start of a text, and the text after it. -/
def prefix? (s : List Char) : Option (List Char × List Char) :=
  let dated := (date? s).map fun (date, r) =>
    let (time, r) := timeAfterDate r
    (date ++ time, r)
  dated <|> time? s

/-! ### In a text of its own -/

/-- The distance from universal time that a text is, or none. -/
def wholeOffset? : List Char → Option (List Char)
  | [] => some []
  | [c] => if isUniversal c then some ['Z'] else none
  | c :: s => do
    let (hours, r) ← fixedDigits? 2 0 99 s
    let (minutes, r) ← fixedDigits? 2 0 99 (← mark? ':' r)
    let total := 60 * hours + minutes
    if (c = '+' ∨ c = '-') ∧ total ≤ 24 * 60 ∧ r = [] then some (offsetText c total) else none

/-- The time of day after a date that a text is, or none. -/
def wholeTimeAfterDate? : List Char → Option (List Char)
  | [] => some []
  | c :: s => do
    let (time, r) ← time? s
    let offset ← wholeOffset? r
    if isBetween c then some ('T' :: time ++ offset) else none

/-- The written form of the date or time that a text is. -/
def ofText? (text : String) : Option String :=
  let s := text.toList
  let chars :=
    match date? s with
    | some (date, r) => (wholeTimeAfterDate? r).map (date ++ ·)
    | none =>
      match time? s with
      | some (time, []) => some time
      | _ => none
  chars.map String.ofList

end Patchbay.Toml.Datetime
