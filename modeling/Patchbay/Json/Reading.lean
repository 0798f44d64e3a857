import Patchbay.Json.Written
import Patchbay.Text.Hex

/-!
# Reading JSON text

Text is read from left to right and the first problem counts, also when the values it holds are
asked for in a certain shape: a misplaced value is reported before a syntax error further on. So
reading a text gives a `Reading`: the value as far as the text goes, and a fault at the place, if
any, where the text stops being JSON. Nothing stands to the right of a fault.

Arrays and objects may be nested 127 deep.
-/

namespace Patchbay.Json

/-- Why a text stops being JSON. -/
inductive Fault where
  /-- It ended too early. -/
  | ended
  /-- Something stands where it may not. -/
  | malformed
deriving DecidableEq, Repr

/-- What could be read of a JSON text. An array or object has the fault after its last part, if its
end is missing. -/
inductive Reading where
  | null
  | bool (b : Bool)
  | number (n : Number)
  | string (s : String)
  | array (items : List Reading) (stop : Option Fault)
  | object (members : List (String × Reading)) (stop : Option Fault)
  | fault (f : Fault)
deriving Repr, Inhabited

namespace Reading

def isSpace (c : Char) : Bool := c = ' ' || c = '\n' || c = '\t' || c = '\r'

def skipSpace (s : List Char) : List Char := s.dropWhile isSpace

/-! ### Words and numbers -/

def word : List Char → List Char → Except Fault (List Char)
  | [], s => .ok s
  | _ :: _, [] => .error .ended
  | c :: cs, d :: s => if c = d then word cs s else .error .malformed

/-- At least one digit, and the text after the digits. -/
def digits : List Char → Except Fault (List Char × List Char)
  | [] => .error .ended
  | c :: s =>
    if c.isDigit then .ok (c :: s.takeWhile Char.isDigit, s.dropWhile Char.isDigit)
    else .error .malformed

/-- The digits before the point: more than one only if the first is no zero. -/
def wholeDigits (s : List Char) : Except Fault (List Char × List Char) := do
  let (ds, r) ← digits s
  if ds.head? = some '0' ∧ ds ≠ ['0'] then throw .malformed
  return (ds, r)

/-- The digits after the point, if there is one. -/
def fractionDigits : List Char → Except Fault (List Char × List Char)
  | '.' :: s => digits s
  | s => .ok ([], s)

/-- The digits of the exponent after its sign. -/
def signedExponent : List Char → Except Fault (Int × List Char)
  | '-' :: s => do let (ds, r) ← digits s; return (-(ofDigits ds : Int), r)
  | '+' :: s => do let (ds, r) ← digits s; return (ofDigits ds, r)
  | s => do let (ds, r) ← digits s; return (ofDigits ds, r)

def exponent? : List Char → Except Fault (Option Int × List Char)
  | c :: s =>
    if c = 'e' ∨ c = 'E' then do
      let (e, r) ← signedExponent s
      return (some e, r)
    else .ok (none, c :: s)
  | [] => .ok (none, [])

/-- The number written by its parts. A whole number that fits no word, and zero with a minus sign,
are floating-point numbers; one beyond all finite numbers is not allowed. -/
def numberOfParts (negative : Bool) (whole fraction : List Char) (exponent : Option Int) :
    Except Fault Number :=
  let n := ofDigits whole
  if fraction = [] ∧ exponent = none ∧
      (if negative then 0 < n ∧ n ≤ signedWordBound else n < wordBound) then
    .ok (.integer (if negative then -n else n))
  else
    let x := { magnitude whole fraction (exponent.getD 0) with negative }
    if x.isFinite then .ok (.float x) else .error .malformed

/-- A number without its sign, and the text after it. -/
def unsignedNumber (negative : Bool) (s : List Char) : Except Fault (Number × List Char) := do
  let (whole, s) ← wholeDigits s
  let (fraction, s) ← fractionDigits s
  let (exponent, s) ← exponent? s
  return (← numberOfParts negative whole fraction exponent, s)

def number? : List Char → Except Fault (Number × List Char)
  | '-' :: s => unsignedNumber true s
  | s => unsignedNumber false s

/-! ### Strings -/

/-- The value of four hexadecimal digits. -/
def hexUnit? (a b c d : Char) : Option Nat := do
  let high := (← Text.hexValue? a) * 16 + (← Text.hexValue? b)
  return (high * 16 + (← Text.hexValue? c)) * 16 + (← Text.hexValue? d)

/-- What a fault it is when fewer than four characters are left for four hexadecimal digits: four
bytes that are no digits are malformed, fewer have ended too early. -/
def hexFault (s : List Char) : Fault :=
  if (String.ofList s).utf8ByteSize < 4 then .ended else .malformed

/-- The character that a letter after a backslash stands for. -/
def escaped? : Char → Option Char
  | '"' => some '"'
  | '\\' => some '\\'
  | '/' => some '/'
  | 'b' => some '\x08'
  | 'f' => some '\x0c'
  | 'n' => some '\n'
  | 'r' => some '\r'
  | 't' => some '\t'
  | _ => none

/-- Whether a code unit is the first of a pair. -/
def isLeading (u : Nat) : Bool := 0xd800 ≤ u ∧ u < 0xdc00

/-- Whether a code unit is the second of a pair. -/
def isTrailing (u : Nat) : Bool := 0xdc00 ≤ u ∧ u < 0xe000

/-- The character of a pair of code units. -/
def ofPair (u v : Nat) : Char := Char.ofNat (0x10000 + (u - 0xd800) * 0x400 + (v - 0xdc00))

/-- The rest of a string after its opening quote, and the text after its closing quote. A control
character may not stand in a string, and a code unit of a pair may not stand alone. -/
def stringTail (acc : List Char) : List Char → Except Fault (String × List Char)
  | [] => .error .ended
  | '"' :: s => .ok (String.ofList acc.reverse, s)
  | '\\' :: 'u' :: a :: b :: c :: d :: s =>
    match hexUnit? a b c d with
    | none => .error .malformed
    | some u =>
      if isTrailing u then .error .malformed
      else if isLeading u then
        match s with
        | '\\' :: 'u' :: e :: f :: g :: h :: t =>
          match hexUnit? e f g h with
          | none => .error .malformed
          | some v => if isTrailing v then stringTail (ofPair u v :: acc) t else .error .malformed
        | '\\' :: 'u' :: t => .error (hexFault t)
        | [] | ['\\'] => .error .ended
        | _ => .error .malformed
      else stringTail (Char.ofNat u :: acc) s
  | '\\' :: 'u' :: s => .error (hexFault s)
  | ['\\'] => .error .ended
  | '\\' :: c :: s =>
    match escaped? c with
    | none => .error .malformed
    | some d => stringTail (d :: acc) s
  | c :: s => if c.toNat < 0x20 then .error .malformed else stringTail (c :: acc) s

/-! ### Values -/

/-- A part of a text, and the text after it unless there was a fault. -/
abbrev Part (α : Type) := α × Option (List Char)

/-- A value that either is read to its end or is a fault. -/
def leaf {α : Type} (f : α → Reading) : Except Fault (α × List Char) → Part Reading
  | .ok (a, s) => (f a, some s)
  | .error e => (.fault e, none)

mutual

/-- A value, with `depth` levels of nesting left. Each step uses up a character or hands over to one
that does, so a multiple of the length of the text is fuel enough. -/
def value (fuel depth : Nat) (s : List Char) : Part Reading :=
  match fuel with
  | 0 => (.fault .ended, none)
  | fuel + 1 =>
    match skipSpace s with
    | [] => (.fault .ended, none)
    | '"' :: s => leaf .string (stringTail [] s)
    | '[' :: s =>
      if depth = 0 then (.array [] (some .malformed), none)
      else
        let (vs, stop, rest) := items fuel (depth - 1) true s
        (.array vs stop, rest)
    | '\x7b' :: s =>
      if depth = 0 then (.object [] (some .malformed), none)
      else
        let (ms, stop, rest) := members fuel (depth - 1) true s
        (.object ms stop, rest)
    | 'n' :: s => leaf (fun _ => .null) ((word ['u', 'l', 'l'] s).map ((), ·))
    | 't' :: s => leaf (fun _ => .bool true) ((word ['r', 'u', 'e'] s).map ((), ·))
    | 'f' :: s => leaf (fun _ => .bool false) ((word ['a', 'l', 's', 'e'] s).map ((), ·))
    | c :: s =>
      if c = '-' ∨ c.isDigit then leaf .number (number? (c :: s)) else (.fault .malformed, none)

/-- The items of an array up to its end, with the fault that stops them. -/
def items (fuel depth : Nat) (first : Bool) (s : List Char) :
    List Reading × Option Fault × Option (List Char) :=
  match fuel with
  | 0 => ([], some .ended, none)
  | fuel + 1 =>
    match skipSpace s with
    | [] => ([], some .ended, none)
    | ']' :: s => ([], none, some s)
    | c :: s =>
      if first then item fuel depth (c :: s)
      else if c = ',' then
        match skipSpace s with
        | [] => ([], some .ended, none)
        | ']' :: _ => ([], some .malformed, none)
        | s => item fuel depth s
      else ([], some .malformed, none)

def item (fuel depth : Nat) (s : List Char) : List Reading × Option Fault × Option (List Char) :=
  match fuel with
  | 0 => ([], some .ended, none)
  | fuel + 1 =>
    match value fuel depth s with
    | (v, none) => ([v], none, none)
    | (v, some s) =>
      let (vs, stop, rest) := items fuel depth false s
      (v :: vs, stop, rest)

/-- The members of an object up to its end, with the fault that stops them. -/
def members (fuel depth : Nat) (first : Bool) (s : List Char) :
    List (String × Reading) × Option Fault × Option (List Char) :=
  match fuel with
  | 0 => ([], some .ended, none)
  | fuel + 1 =>
    match skipSpace s with
    | [] => ([], some .ended, none)
    | '\x7d' :: s => ([], none, some s)
    | c :: s =>
      if first then member fuel depth (c :: s)
      else if c = ',' then
        match skipSpace s with
        | [] => ([], some .ended, none)
        | s => member fuel depth s
      else ([], some .malformed, none)

def member (fuel depth : Nat) (s : List Char) :
    List (String × Reading) × Option Fault × Option (List Char) :=
  match fuel with
  | 0 => ([], some .ended, none)
  | fuel + 1 =>
    match s with
    | '"' :: s =>
      match stringTail [] s with
      | .error e => ([], some e, none)
      | .ok (key, s) =>
        match skipSpace s with
        | [] => ([(key, .fault .ended)], none, none)
        | ':' :: s =>
          match value fuel depth s with
          | (v, none) => ([(key, v)], none, none)
          | (v, some s) =>
            let (ms, stop, rest) := members fuel depth false s
            ((key, v) :: ms, stop, rest)
        | _ => ([(key, .fault .malformed)], none, none)
    | _ => ([], some .malformed, none)

end

/-- How deep arrays and objects may be nested. -/
def maxDepth : Nat := 127

end Reading

/-- What can be read of a text, and the fault after the value if more than space follows it. -/
def read (text : String) : Reading × Option Fault :=
  let s := text.toList
  match Reading.value (3 * s.length + 3) Reading.maxDepth s with
  | (v, none) => (v, none)
  | (v, some s) => (v, if Reading.skipSpace s = [] then none else some .malformed)

end Patchbay.Json
