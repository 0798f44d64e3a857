import Patchbay.Number.Decimal
import Patchbay.Number.Natural
import Patchbay.Text.Hex

/-!
# Calculations

The shell calculates with signed words, which wrap around. A calculation is made of whole numbers
and names of variables with the operators of the C language, its assignments among them.
-/

namespace Patchbay.Shell

inductive Operator where
  | times | quotient | remainder | plus | minus | shiftLeft | shiftRight
  | less | greater | lessEqual | greaterEqual | equal | unequal
  | and | xor | or | both | either
deriving DecidableEq, Repr

inductive Calculation where
  | number (n : Int)
  | name (x : String)
  | negative (a : Calculation)
  | not (a : Calculation)
  | complement (a : Calculation)
  | binary (o : Operator) (a b : Calculation)
  | choice (condition yes no : Calculation)
  | assign (x : String) (o : Option Operator) (a : Calculation)

inductive CalculationFault where
  | expecting (what : String)
  | divisionByZero
  /-- The value of a variable is no number. -/
  | notNumber (text : String)

namespace Calculation

/-! ### Reading -/

/-- The signs of operators between two operands, with how strongly they bind. Longer signs come
before the shorter ones that they begin with. -/
def operators : List (String × Operator × Nat) :=
  [("<<", .shiftLeft, 8), (">>", .shiftRight, 8), ("<=", .lessEqual, 7),
    (">=", .greaterEqual, 7), ("==", .equal, 6), ("!=", .unequal, 6), ("&&", .both, 2),
    ("||", .either, 1), ("*", .times, 10), ("/", .quotient, 10), ("%", .remainder, 10),
    ("+", .plus, 9), ("-", .minus, 9), ("<", .less, 7), (">", .greater, 7), ("&", .and, 5),
    ("^", .xor, 4), ("|", .or, 3)]

/-- Assignments that calculate. -/
def assignments : List (String × Option Operator) :=
  [("=", none), ("*=", some .times), ("/=", some .quotient), ("%=", some .remainder),
    ("+=", some .plus), ("-=", some .minus), ("<<=", some .shiftLeft),
    (">>=", some .shiftRight), ("&=", some .and), ("^=", some .xor), ("|=", some .or)]

def skip (s : List Char) : List Char := s.dropWhile fun c => c = ' ' || c = '\t' || c = '\n'

def after? (sign : String) (s : List Char) : Option (List Char) :=
  if sign.toList.isPrefixOf s then some (s.drop sign.length) else none

def assignment? (s : List Char) : Option (Option Operator × List Char) :=
  assignments.findSome? fun (sign, o) =>
    (after? sign s).bind fun rest =>
      if sign = "=" ∧ rest.head? = some '=' then none else some (o, rest)

/-- The operator that a text begins with, unless it is part of an assignment. -/
def operator? (s : List Char) : Option (Operator × Nat × List Char) :=
  if (assignment? s).isSome ∧ (after? "==" s).isNone then none
  else operators.findSome? fun (sign, o, strength) => (after? sign s).map (o, strength, ·)

/-- A number of digits of a base, and the text after it. -/
def ofBase (base : Nat) (s : List Char) : Nat × List Char :=
  let isDigit (c : Char) : Bool := (Text.hexValue? c).any (· < base)
  let ds := s.takeWhile isDigit
  (ds.foldl (fun n c => base * n + (Text.hexValue? c).getD 0) 0, s.drop ds.length)

def clamp (n : Nat) : Int := min n (signedWordBound - 1)

/-- A whole number without a sign, and the text after it: of base 16 after `0x`, of base 8 after
`0`. -/
def numeral (s : List Char) : Int × List Char :=
  let (n, rest) :=
    match s with
    | '0' :: 'x' :: c :: s | '0' :: 'X' :: c :: s =>
      if (Text.hexValue? c).isSome then ofBase 16 (c :: s) else (0, s.drop 0)
    | '0' :: s => ofBase 8 s
    | s => ofBase 10 s
  (clamp n, rest)

def wrap (n : Int) : Int := Int.bmod n wordBound

def isSpace (c : Char) : Bool := c ∈ [' ', '\t', '\n', '\x0b', '\x0c', '\r']

/-- Whether a text begins with a minus after space, and what follows the sign. -/
def signed (text : String) : Bool × List Char :=
  match text.toList.dropWhile isSpace with
  | '-' :: s => (true, s)
  | '+' :: s => (false, s)
  | s => (false, s)

/-- The number that a text is, with space around it and a sign before it. -/
def ofText? (text : String) : Option Int :=
  let (minus, s) := signed text
  let (n, rest) := numeral s
  if (rest.dropWhile isSpace).isEmpty then some (if minus then -n else n) else none

/-- The word that decimal digits are, with space around them and a sign before them. -/
def whole? (text : String) : Option Int :=
  let (minus, s) := signed text
  let ds := s.takeWhile Char.isDigit
  let n : Int := if minus then -(ofDigits ds : Int) else ofDigits ds
  if ds.isEmpty ∨ ¬ ((s.drop ds.length).dropWhile isSpace).isEmpty then none
  else if -signedWordBound ≤ n ∧ n < signedWordBound then some n
  else none

mutual

def operand (fuel : Nat) (s : List Char) : Except CalculationFault (Calculation × List Char) :=
  match fuel with
  | 0 => throw (.expecting "primary")
  | fuel + 1 =>
    match skip s with
    | '(' :: s => do
      let (a, s) ← assignment fuel s
      match skip s with
      | ')' :: s => return (a, s)
      | _ => throw (.expecting "')'")
    | '-' :: s => return (← operand fuel s).map .negative id
    | '+' :: s => operand fuel s
    | '!' :: s => return (← operand fuel s).map .not id
    | '~' :: s => return (← operand fuel s).map .complement id
    | c :: s =>
      if c.isDigit then
        let (n, s) := numeral (c :: s)
        return (.number n, s)
      else if c.isAlpha ∨ c = '_' then
        let part (c : Char) : Bool := c.isAlphanum || c = '_'
        return (.name (String.ofList ((c :: s).takeWhile part)), (c :: s).dropWhile part)
      else throw (.expecting "primary")
    | [] => throw (.expecting "primary")

/-- Operators that bind at least so strongly, after their first operand. -/
def operations (fuel strength : Nat) (a : Calculation) (s : List Char) :
    Except CalculationFault (Calculation × List Char) :=
  match fuel with
  | 0 => throw (.expecting "primary")
  | fuel + 1 =>
    match operator? (skip s) with
    | none => return (a, s)
    | some (o, strength', rest) =>
      if strength' < strength then return (a, s)
      else do
        let (b, s) ← operand fuel rest
        let (b, s) ← operations fuel (strength' + 1) b s
        operations fuel strength (.binary o a b) s

/-- A choice, or what stands for its condition alone. -/
def choices (fuel : Nat) (a : Calculation) (s : List Char) :
    Except CalculationFault (Calculation × List Char) :=
  match fuel with
  | 0 => throw (.expecting "primary")
  | fuel + 1 => do
    let (a, s) ← operations fuel 0 a s
    match skip s with
    | '?' :: s =>
      let (yes, s) ← assignment fuel s
      match skip s with
      | ':' :: s =>
        let (no, s) ← operand fuel s
        let (no, s) ← choices fuel no s
        return (.choice a yes no, s)
      | _ => throw (.expecting "':'")
    | _ => return (a, s)

def assignment (fuel : Nat) (s : List Char) : Except CalculationFault (Calculation × List Char) :=
  match fuel with
  | 0 => throw (.expecting "primary")
  | fuel + 1 => do
    let (a, rest) ← operand fuel s
    match a, assignment? (skip rest) with
    | .name x, some (o, rest) =>
      let (b, rest) ← assignment fuel rest
      return (.assign x o b, rest)
    | _, _ => choices fuel a rest

end

def ofText (text : String) : Except CalculationFault Calculation := do
  let s := text.toList
  let (a, rest) ← assignment (4 * (s.length + 2)) s
  if (skip rest).isEmpty then return a else throw (.expecting "EOF")

/-! ### Calculating -/

def ofBool (b : Bool) : Int := if b then 1 else 0

def bits (n : Int) : BitVec 64 := BitVec.ofInt 64 n

def Operator.apply (o : Operator) (a b : Int) : Except CalculationFault Int :=
  match o with
  | .times => return wrap (a * b)
  | .quotient => if b = 0 then throw .divisionByZero else return wrap (Int.tdiv a b)
  | .remainder => if b = 0 then throw .divisionByZero else return wrap (Int.tmod a b)
  | .plus => return wrap (a + b)
  | .minus => return wrap (a - b)
  | .shiftLeft => return ((bits a) <<< (b % 64).toNat).toInt
  | .shiftRight => return ((bits a).sshiftRight (b % 64).toNat).toInt
  | .less => return ofBool (a < b)
  | .greater => return ofBool (b < a)
  | .lessEqual => return ofBool (a ≤ b)
  | .greaterEqual => return ofBool (b ≤ a)
  | .equal => return ofBool (a = b)
  | .unequal => return ofBool (a ≠ b)
  | .and => return (bits a &&& bits b).toInt
  | .xor => return (bits a ^^^ bits b).toInt
  | .or => return (bits a ||| bits b).toInt
  | .both => return ofBool (a ≠ 0 && b ≠ 0)
  | .either => return ofBool (a ≠ 0 || b ≠ 0)

/-- The values of variables, the latest first. -/
abbrev Values := List (String × Int)

/-- The value of a variable, of which the text is given. A variable without a text is zero. -/
def valueOf (text? : String → Option String) (x : String) (vs : Values) :
    Except CalculationFault Int :=
  match vs.lookup x, text? x with
  | some n, _ => return n
  | none, none => return 0
  | none, some text =>
    match Calculation.ofText? text with
    | some n => return n
    | none => throw (.notNumber text)

/-- The result of a calculation, and the variables that it has assigned to. -/
def result (text? : String → Option String) (vs : Values) :
    Calculation → Except CalculationFault (Int × Values)
  | number n => return (n, vs)
  | name x => return (← valueOf text? x vs, vs)
  | negative a => do
    let (n, vs) ← result text? vs a
    return (wrap (-n), vs)
  | not a => do
    let (n, vs) ← result text? vs a
    return (ofBool (n = 0), vs)
  | complement a => do
    let (n, vs) ← result text? vs a
    return (-n - 1, vs)
  | binary .both a b => do
    let (m, vs) ← result text? vs a
    if m = 0 then return (0, vs)
    let (n, vs) ← result text? vs b
    return (ofBool (n ≠ 0), vs)
  | binary .either a b => do
    let (m, vs) ← result text? vs a
    if m ≠ 0 then return (1, vs)
    let (n, vs) ← result text? vs b
    return (ofBool (n ≠ 0), vs)
  | binary o a b => do
    let (m, vs) ← result text? vs a
    let (n, vs) ← result text? vs b
    return (← Operator.apply o m n, vs)
  | choice a yes no => do
    let (n, vs) ← result text? vs a
    if n ≠ 0 then result text? vs yes else result text? vs no
  | assign x o a => do
    let (n, vs) ← result text? vs a
    let n ←
      match o with
      | none => pure n
      | some o => Operator.apply o (← valueOf text? x vs) n
    return (n, (x, n) :: vs)

end Calculation

def CalculationFault.message (text : String) : CalculationFault → String
  | .expecting what => s!"arithmetic expression: expecting {what}: \"{text}\""
  | .divisionByZero => s!"arithmetic expression: division by zero: \"{text}\""
  | .notNumber value => s!"Illegal number: {value}"

end Patchbay.Shell
