import Patchbay.Number.Text
import Patchbay.Simulation.Shell.Calculation
import Patchbay.Simulation.Text.Escaped

/-!
# Printing in a form

A form is a text with places for arguments. A place tells how an argument is written: as text or as
a number of a kind, how wide, and how exactly. The form is used again as long as arguments are left;
where they are missing, the text is empty and the number is zero.
-/

namespace Patchbay.Printf

/-- How the places of a form are understood. -/
structure Dialect where
  /-- The escapes in a form. -/
  escapes : Text.Escapes
  /-- The escapes in a text for the place `%b`. -/
  argumentEscapes : Text.Escapes
  /-- The format of fractional numbers. -/
  format : BinaryFormat := .double
  /-- The message about a place that is none. -/
  invalid : String → String
  missing : String → String
  /-- The messages about texts that are no numbers, or not all of them. -/
  notNumber : String → String := fun t => s!"{t}: expected numeric value"
  notWholly : String → String := fun t => s!"{t}: not completely converted"
  tooGreat : String → String := fun t => s!"{t}: Numerical result out of range"

structure Printed where
  text : String := ""
  complaints : List String := []
  arguments : List String
  /-- Whether an argument was used in this round. -/
  hasTaken : Bool := false
  /-- Whether the form has come to an end before its end, and the code then. -/
  stopped : Option Nat := none

structure Place where
  flags : List Char := []
  width : Nat := 0
  exactness : Option Nat := none

namespace Place

def has (p : Place) (c : Char) : Bool := p.flags.contains c

/-- A text filled up to the width, after a start that stays in front of zeros. -/
def fill (p : Place) (start body : String) (zeros : Bool) : String :=
  let missing := p.width - (start ++ body).length
  let pad (c : Char) : String := String.ofList (List.replicate missing c)
  if p.has '-' then start ++ body ++ pad ' '
  else if zeros then start ++ pad '0' ++ body
  else pad ' ' ++ start ++ body

def sign (p : Place) (negative : Bool) : String :=
  if negative then "-" else if p.has '+' then "+" else if p.has ' ' then " " else ""

def ofText (p : Place) (t : String) : String :=
  let shown := match p.exactness with
    | some n => String.ofList (t.toList.take n)
    | none => t
  p.fill "" shown false

def digits (p : Place) (ds : List Char) : String :=
  let ds := if p.exactness = some 0 ∧ ds = ['0'] then [] else ds
  String.ofList (List.replicate (p.exactness.getD 1 - ds.length) '0' ++ ds)

/-- A signed whole number in a place. -/
def ofInt (p : Place) (n : Int) : String :=
  p.fill (p.sign (n < 0)) (p.digits (digitsOf n.natAbs)) (p.has '0' && p.exactness.isNone)

/-- A whole number of a base in a place. -/
def ofNat (p : Place) (kind : Char) (n : Nat) : String :=
  let base := match kind with
    | 'o' => 8
    | 'u' => 10
    | _ => 16
  let ds := Nat.toDigits base n
  let ds := if kind = 'X' then ds.map Char.toUpper else ds
  let start :=
    if p.has '#' && n ≠ 0 then
      match kind with
      | 'o' => "0"
      | 'x' => "0x"
      | 'X' => "0X"
      | _ => ""
    else ""
  p.fill start (p.digits ds) (p.has '0' && p.exactness.isNone)

def fixed (p : Place) (num den places : Nat) : String :=
  let n := roundDiv (num * Nat.pow 10 places) den
  let ds := digitsOf n
  let ds := List.replicate (places + 1 - ds.length) '0' ++ ds
  let whole := ds.take (ds.length - places)
  let point := if places = 0 ∧ ¬ p.has '#' then [] else '.' :: ds.drop (ds.length - places)
  String.ofList (whole ++ point)

/-- The digits of a fraction, so many after the first, and the exponent of the first. -/
def scientificParts (num den places : Nat) : Nat × Int :=
  if num = 0 then (0, 0)
  else
    let scaled (e : Int) : Nat :=
      let shift : Int := places - e
      roundDiv (num * Nat.pow 10 shift.toNat) (den * Nat.pow 10 (-shift).toNat)
    let e : Int := ((digitsOf num).length : Int) - (digitsOf den).length
    let fits (e : Int) : Bool := scaled e < Nat.pow 10 (places + 1)
    let e := if fits (e - 1) then e - 1 else if fits e then e else e + 1
    (scaled e, e)

/-- A fraction with one digit before the point, so many after it, and an exponent. -/
def scientific (p : Place) (upper : Bool) (num den places : Nat) : String :=
  let (n, e) := scientificParts num den places
  let ds := digitsOf n
  let ds := List.replicate (places + 1 - ds.length) '0' ++ ds
  let point := if places = 0 ∧ ¬ p.has '#' then [] else '.' :: ds.drop 1
  let mark := if upper then 'E' else 'e'
  let exponent := digitsOf e.natAbs
  let exponent := if exponent.length < 2 then '0' :: exponent else exponent
  String.ofList (ds.take 1 ++ point ++ mark :: (if e < 0 then '-' else '+') :: exponent)

/-- A text without zeros at the end of its fraction. -/
def dropZeros (t : String) : String :=
  let (mantissa, rest) := t.toList.span fun c => c ≠ 'e' && c ≠ 'E'
  let shown :=
    if mantissa.contains '.' then
      ((mantissa.reverse.dropWhile (· = '0')).dropWhile (· = '.')).reverse
    else mantissa
  String.ofList (shown ++ rest)

/-- A fractional number in a place. -/
def ofFraction (p : Place) (kind : Char) (x : Binary f) : String :=
  let upper := kind.isUpper
  let start := p.sign x.negative
  let word (t : String) : String := p.fill start (if upper then t.toUpper else t) false
  if x.isNaN then word "nan"
  else if ¬ x.isFinite then word "inf"
  else
    let places := p.exactness.getD 6
    let (num, den) := (x.numerator, x.denominator)
    let body :=
      match kind.toLower with
      | 'f' => p.fixed num den places
      | 'e' => p.scientific upper num den places
      | _ =>
        let places := max places 1
        let (_, e) := scientificParts num den (places - 1)
        let t :=
          if -4 ≤ e ∧ e < places then p.fixed num den ((places : Int) - 1 - e).toNat
          else p.scientific upper num den (places - 1)
        if p.has '#' then t else dropZeros t
    p.fill start body (p.has '0')

end Place

/-! ### Arguments -/

namespace Printed

def take (r : Printed) : Option String × Printed :=
  match r.arguments with
  | [] => (none, r)
  | a :: rest => (some a, { r with arguments := rest, hasTaken := true })

def add (r : Printed) (t : String) : Printed := { r with text := r.text ++ t }

def complain (r : Printed) (t : String) : Printed :=
  { r with complaints := r.complaints ++ [t] }

/-- The number of the character after a quote. -/
def quotedChar? (t : String) : Option Nat :=
  match t.toList with
  | '\'' :: c :: _ | '"' :: c :: _ => some c.toNat
  | _ => none

/-- The next argument as a whole number. -/
def takeInt (d : Dialect) (r : Printed) : Int × Printed :=
  match r.take with
  | (none, r) => (0, r)
  | (some t, r) =>
    match quotedChar? t with
    | some n => (n, r)
    | none =>
      let s := t.toList.dropWhile fun c => c = ' ' || c = '\t' || c = '\n'
      let (minus, s) :=
        match s with
        | '-' :: s => (true, s)
        | '+' :: s => (false, s)
        | s => (false, s)
      if t = "" then (0, r)
      else if ¬ s.head?.any Char.isDigit then (0, r.complain (d.notNumber t))
      else
        let (n, rest) := Shell.Calculation.numeral s
        let n := if minus then -n else n
        let ds := (s.takeWhile Char.isDigit)
        let isGreat := s.head? ≠ some '0' ∧ signedWordBound ≤ ofDigits ds
        let r :=
          if ¬ rest.isEmpty then r.complain (d.notWholly t)
          else if isGreat then r.complain (d.tooGreat t)
          else r
        (n, r)

/-- The next argument as a fractional number. -/
def takeFraction (d : Dialect) (r : Printed) : Binary d.format × Printed :=
  match r.take with
  | (none, r) => (⟨false, 0⟩, r)
  | (some t, r) =>
    match quotedChar? t with
    | some n => (⟨false, d.format.nearest n 1⟩, r)
    | none =>
      if t = "" then (⟨false, 0⟩, r)
      else
        let fits (n : Nat) : Option (Binary d.format) :=
          Binary.ofText? (String.ofList (t.toList.take n))
        match (List.range (t.length + 1)).reverse.findSome? fun n => (fits n).map (n, ·) with
        | none => (⟨false, 0⟩, r.complain (d.notNumber t))
        | some (n, x) => (x, if n = t.length then r else r.complain (d.notWholly t))

end Printed

/-! ### Forms -/

def size (d : Dialect) (s : List Char) (r : Printed) : Option Int × List Char × Printed :=
  match s with
  | '*' :: s =>
    let (n, r) := r.takeInt d
    (some n, s, r)
  | s =>
    let ds := s.takeWhile Char.isDigit
    (if ds.isEmpty then none else some (ofDigits ds : Int), s.drop ds.length, r)

/-- The argument of a kind in a place. -/
def fill (d : Dialect) (p : Place) (kind : Char) (r : Printed) : Printed :=
  match kind with
  | 's' =>
    let (t, r) := r.take
    r.add (p.ofText (t.getD ""))
  | 'c' =>
    let (t, r) := r.take
    let c := (t.getD "").toList.head?.getD '\x00'
    r.add (p.fill "" (String.singleton c) false)
  | 'b' =>
    let (t, r) := r.take
    let (t, stopped) := d.argumentEscapes.text (t.getD "")
    let r := r.add (p.ofText t)
    if stopped then { r with stopped := some 0 } else r
  | 'd' | 'i' =>
    let (n, r) := r.takeInt d
    r.add (p.ofInt n)
  | 'o' | 'u' | 'x' | 'X' =>
    let (n, r) := r.takeInt d
    r.add (p.ofNat kind (if n < 0 then (wordBound + n).toNat else n.toNat))
  | _ =>
    let (x, r) := r.takeFraction d
    r.add (p.ofFraction kind x)

/-- A place of a form, after its percent sign, and the text after it. -/
def place (d : Dialect) (s : List Char) (r : Printed) : List Char × Printed :=
  let flags := s.takeWhile fun c => c ∈ ['-', '+', ' ', '0', '#']
  let (width, rest, r) := size d (s.drop flags.length) r
  let (exactness, rest, r) :=
    match rest with
    | '.' :: rest =>
      let (n, rest, r) := size d rest r
      ((some (n.getD 0) : Option Int), rest, r)
    | rest => (none, rest, r)
  let flags := if width.any (· < 0) then '-' :: flags else flags
  let p : Place :=
    { flags, width := (width.getD 0).natAbs
      exactness := exactness.bind fun n => if n < 0 then none else some n.toNat }
  let shown (n : Nat) : String := String.ofList ('%' :: s.take n)
  match rest with
  | [] => ([], { r.complain (d.missing (shown s.length)) with stopped := some 2 })
  | kind :: rest =>
    if kind ∈ ['s', 'c', 'b', 'd', 'i', 'o', 'u', 'x', 'X', 'e', 'E', 'f', 'F', 'g', 'G'] then
      (rest, fill d p kind r)
    else
      ([], { r.complain (d.invalid (shown (s.length - rest.length))) with stopped := some 2 })

def once (d : Dialect) : Nat → List Char → Printed → Printed
  | 0, _, r => r
  | _, [], r => r
  | fuel + 1, c :: s, r =>
    if r.stopped.isSome then r
    else
      match c, s with
      | '%', '%' :: s => once d fuel s (r.add "%")
      | '%', s =>
        let (rest, r) := place d s r
        once d fuel rest r
      | '\\', s =>
        if d.escapes.stops && s.head? = some 'c' then { r with stopped := some 0 }
        else
          match d.escapes.read? s with
          | some (c, length) => once d fuel (s.drop length) (r.add (String.singleton c))
          | none => once d fuel s (r.add "\\")
      | c, s => once d fuel s (r.add (String.singleton c))

/-- Prints a form until no arguments are left. -/
def rounds (d : Dialect) (form : List Char) : Nat → Printed → Printed
  | 0, r => r
  | fuel + 1, r =>
    let r := once d (form.length + 1) form { r with hasTaken := false }
    if r.stopped.isSome || r.arguments.isEmpty || !r.hasTaken then r else rounds d form fuel r

/-- What is printed of a form and arguments. -/
def print (d : Dialect) (form : String) (arguments : List String) : Printed :=
  rounds d form.toList (arguments.length + 1) { arguments }

/-- The answer of a program that has printed. -/
def Printed.code (r : Printed) : Nat :=
  match r.stopped with
  | some code => if code = 0 && !r.complaints.isEmpty then 1 else code
  | none => if r.complaints.isEmpty then 0 else 1

end Patchbay.Printf
