import Patchbay.Simulation.Programs.Duration
import Patchbay.Simulation.Programs.Options
import Patchbay.Simulation.Programs.Printf
import Patchbay.Simulation.Programs.Streams
import Patchbay.Simulation.Text.Escaped

/-!
# Printing arguments and waiting

Programs that print their arguments, as they are or in a form, or numbers in a row; and programs
that wait.
-/

namespace Patchbay.Programs

/-- Does nothing, and answers so. -/
def answering (code : Nat) : Work := fun _ => return code

def escapes : Text.Escapes := { bareOctal := false, hexadecimal := true }

/-- The flags that an argument is, if it is one. -/
def echoFlags? (w : String) : Option (List Char) :=
  match w.toList with
  | '-' :: c :: cs => if (c :: cs).all fun c => c ∈ ['n', 'e', 'E'] then some (c :: cs) else none
  | _ => none

def splitFlags : List String → List Char × List String
  | [] => ([], [])
  | w :: ws =>
    match echoFlags? w with
    | none => ([], w :: ws)
    | some cs =>
      let (flags, rest) := splitFlags ws
      (cs ++ flags, rest)

def echo : Work := fun c => do
  let (flags, ws) := splitFlags c.arguments
  let text := " ".intercalate ws
  let (text, stopped) :=
    if (flags.filter (· ≠ 'n')).getLast? = some 'e' then escapes.text text else (text, false)
  c.print (text ++ if stopped || flags.contains 'n' then "" else "\n")
  return 0

def sleep : Work := fun c =>
  c.withOptions {} 1 fun o => do
    if c.arguments.isEmpty then return ← c.missingOperand 1
    let bad := o.operands.filter fun w => (Duration.microseconds? w).isNone
    if ¬ bad.isEmpty then
      for w in bad do c.complain s!"invalid time interval '{w}'"
      return ← c.suggestHelp 1
    Act.pause ((o.operands.filterMap Duration.microseconds?).foldl (· + ·) 0)
    return 0

def yes : Work := fun c => do
  let ws := if c.arguments.head? = some "--" then c.arguments.tail else c.arguments
  let line := (if ws.isEmpty then "y" else " ".intercalate ws) ++ "\n"
  let block := String.join (List.replicate 64 line)
  let rec go : Nat → Act Nat
    | 0 => return 0
    | fuel + 1 => do
      if ← c.send 1 block then
        Act.pause 20
        go fuel
      else
        c.complain "standard output: Broken pipe"
        return 1
  go 0x40000000

def forms : Printf.Dialect where
  escapes := { hexadecimal := true, quote := true }
  argumentEscapes := { hexadecimal := true, quote := true }
  invalid := fun t => s!"{t}: invalid conversion specification"
  missing := fun t => s!"{t}: invalid conversion specification"
  notNumber := fun t => s!"'{t}': expected a numeric value"
  notWholly := fun t => s!"'{t}': value not completely converted"
  tooGreat := fun t => s!"'{t}': Numerical result out of range"

def printf : Work := fun c => do
  let ws := if c.arguments.head? = some "--" then c.arguments.tail else c.arguments
  match ws with
  | [] => c.missingOperand 1
  | form :: arguments =>
    let printed := Printf.print forms form arguments
    c.put printed.text
    for t in printed.complaints do c.complain t
    return if printed.code = 0 then 0 else 1

/-- A number in a row of numbers: its value in units, and how many decimal places it is written
with. -/
def decimal? (t : String) : Option (Int × Nat) :=
  let (minus, s) :=
    match t.toList with
    | '-' :: s => (true, s)
    | '+' :: s => (false, s)
    | s => (false, s)
  let (whole, rest) := s.span Char.isDigit
  let (fraction, rest) :=
    match rest with
    | '.' :: rest => rest.span Char.isDigit
    | rest => ([], rest)
  if (whole.isEmpty && fraction.isEmpty) || !rest.isEmpty then none
  else
    let n : Int := ofDigits (whole ++ fraction)
    some (if minus then -n else n, fraction.length)

/-- A number of units with decimal places, filled up with zeros. -/
def shownDecimal (places width : Nat) (n : Int) : String :=
  let ds := digitsOf n.natAbs
  let ds := List.replicate (places + 1 - ds.length) '0' ++ ds
  let whole := ds.take (ds.length - places)
  let body := if places = 0 then whole else whole ++ '.' :: ds.drop (ds.length - places)
  let sign := if n < 0 then ['-'] else []
  String.ofList (sign ++ List.replicate (width - body.length - sign.length) '0' ++ body)

def seq : Work := fun c => do
  let isNumber (w : String) : Bool := (decimal? w).isSome
  let rec separate : List String → List String × List String
    | [] => ([], [])
    | "-s" :: t :: ws => (fun (os, rest) => ("-s" :: t :: os, rest)) (separate ws)
    | w :: ws =>
      if isNumber w || !w.startsWith "-" then ([], w :: ws)
      else (fun (os, rest) => (w :: os, rest)) (separate ws)
  let (flags, operands) := separate c.arguments
  let table : OptionTable :=
    { plain := ['w'], withText := ['s', 'f']
      names := [("equal-width", 'w'), ("separator", 's'), ("format", 'f')] }
  { c with arguments := flags }.withOptions table 1 fun o => do
    let operands := o.operands ++ operands
    match operands.find? fun w => !isNumber w with
    | some w => c.misuse s!"invalid floating point argument: '{w}'" 1
    | none =>
      let numbers := operands.filterMap decimal?
      let go (first step last : Int × Nat) : Act Nat := do
        let places := max first.2 step.2
        let most := max places last.2
        let units (n : Int × Nat) : Int := n.1 * (Nat.pow 10 (most - n.2) : Nat)
        let (a, d, b) := (units first, units step, units last)
        if d = 0 then
          let shown := operands.getD 1 ""
          return ← c.misuse s!"invalid Zero increment value: '{shown}'" 1
        let count := if 0 < d then (b - a) / d + 1 else (a - b) / (-d) + 1
        let between := (o.text? 's').getD "\n"
        let back : Int := (Nat.pow 10 (most - places) : Nat)
        let rows := (List.range count.toNat).map fun (k : Nat) => (a + d * (k : Int)) / back
        let width :=
          if o.has 'w' then
            rows.foldl (fun n x => max n (shownDecimal places 0 x).length) 0
          else 0
        let shown := rows.map (shownDecimal places width)
        if ¬ shown.isEmpty then c.put (between.intercalate shown ++ "\n")
        return 0
      match numbers with
      | [] => c.missingOperand 1
      | [b] => go (1, 0) (1, 0) b
      | [a, b] => go a (1, 0) b
      | [a, d, b] => go a d b
      | _ => c.extraOperand (operands.getD 3 "") 1

end Patchbay.Programs
