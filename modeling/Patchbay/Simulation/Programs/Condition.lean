import Patchbay.Simulation.Programs.Context
import Patchbay.Simulation.Programs.Options
import Patchbay.Simulation.Programs.Test

/-!
# A program that tests words

How a row of words is read depends on how many there are: up to four words have meanings of their
own, and only longer rows are tests joined by `!`, `-a`, `-o` and brackets.
-/

namespace Patchbay.Programs.Condition

open Test (View)

structure Reader where
  view : View
  /-- The last word of the row. -/
  last : String

namespace Reader

/-- The row ends too early. -/
def isOver {α : Type} (r : Reader) : Except String α :=
  throw s!"missing argument after '{r.last}'"

/-- Whether a word looks like an operator before a word. -/
def looksUnary (w : String) : Bool :=
  match w.toList with
  | ['-', _] => true
  | _ => false

/-- An operator and its word, and the words after them. -/
def unary (r : Reader) : List String → Except String (Bool × List String)
  | o :: rest =>
    if Test.unary.contains o then
      match rest with
      | w :: rest => return (← r.view.holds o w, rest)
      | [] => r.isOver
    else throw s!"'{o}': unary operator expected"
  | [] => r.isOver

def one (r : Reader) : List String → Except String (Bool × List String)
  | w :: rest => return (w ≠ "", rest)
  | [] => r.isOver

def two (r : Reader) : List String → Except String (Bool × List String)
  | "!" :: rest => do
    let (a, rest) ← r.one rest
    return (!a, rest)
  | w :: rest => if looksUnary w then r.unary (w :: rest) else r.isOver
  | [] => r.isOver

mutual

def three (r : Reader) (fuel : Nat) (ws : List String) : Except String (Bool × List String) :=
  match fuel with
  | 0 => return (false, ws)
  | fuel + 1 =>
    match ws with
    | a :: o :: b :: rest =>
      if r.view.isBinary o then return (← r.view.compares o a b, rest)
      else if a = "!" then do
        let (x, rest) ← r.two (o :: b :: rest)
        return (!x, rest)
      else if a = "(" ∧ b = ")" then return (o ≠ "", rest)
      else if o = "-a" ∨ o = "-o" then r.anyOf fuel ws
      else throw s!"'{o}': binary operator expected"
    | _ => r.isOver

/-- So many words, and the words after them. -/
def row (r : Reader) (fuel count : Nat) (ws : List String) : Except String (Bool × List String) :=
  match fuel with
  | 0 => return (false, ws)
  | fuel + 1 =>
    match count, ws with
    | 1, ws => r.one ws
    | 2, ws => r.two ws
    | 3, ws => r.three fuel ws
    | 4, a :: rest =>
      if a = "!" then do
        let (x, rest) ← r.three fuel rest
        return (!x, rest)
      else if a = "(" ∧ rest[2]? = some ")" then do
        let (x, rest) ← r.two rest
        return (x, rest.tail)
      else r.anyOf fuel (a :: rest)
    | _, ws => r.anyOf fuel ws

/-- Tests joined by `-o`, and the words after them. -/
def anyOf (r : Reader) (fuel : Nat) (ws : List String) : Except String (Bool × List String) :=
  match fuel with
  | 0 => return (false, ws)
  | fuel + 1 => do
    let (a, rest) ← r.allOf fuel ws
    match rest with
    | "-o" :: rest =>
      let (b, rest) ← r.anyOf fuel rest
      return (a || b, rest)
    | rest => return (a, rest)

/-- Tests joined by `-a`, and the words after them. -/
def allOf (r : Reader) (fuel : Nat) (ws : List String) : Except String (Bool × List String) :=
  match fuel with
  | 0 => return (false, ws)
  | fuel + 1 => do
    let (a, rest) ← r.term fuel ws
    match rest with
    | "-a" :: rest =>
      let (b, rest) ← r.allOf fuel rest
      return (a && b, rest)
    | rest => return (a, rest)

/-- A test that is not joined, and the words after it. -/
def term (r : Reader) (fuel : Nat) (ws : List String) : Except String (Bool × List String) :=
  match fuel with
  | 0 => return (false, ws)
  | fuel + 1 =>
    match ws with
    | [] => r.isOver
    | "!" :: rest => do
      let (a, rest) ← r.term fuel rest
      return (!a, rest)
    | "(" :: rest => do
      if rest.isEmpty then r.isOver
      let inside := 1 + (rest.tail.takeWhile (· ≠ ")")).length
      let (a, rest) ← r.row fuel (if 4 < inside then rest.length else inside) rest
      match rest with
      | ")" :: rest => return (a, rest)
      | [] => throw "')' expected"
      | w :: _ => throw s!"')' expected, found '{w}'"
    | a :: o :: b :: rest =>
      if r.view.isBinary o then return (← r.view.compares o a b, rest)
      else if looksUnary a then r.unary ws
      else return (a ≠ "", o :: b :: rest)
    | a :: rest => if looksUnary a then r.unary ws else return (a ≠ "", rest)

end

end Reader

def isTrue (v : View) (ws : List String) : Except String Bool := do
  match ws.getLast? with
  | none => return false
  | some last =>
    let r : Reader := { view := v, last }
    match ← r.row (4 * (ws.length + 1)) ws.length ws with
    | (a, []) => return a
    | (_, w :: _) => throw s!"extra argument '{w}'"

/-- The whole number that a text is, with blanks around it. -/
def whole? (t : String) : Option Int :=
  let isBlank (c : Char) : Bool := c = ' ' || c = '\t' || c = '\n'
  let s := ((t.toList.dropWhile isBlank).reverse.dropWhile isBlank).reverse
  let value (ds : List Char) : Option Nat :=
    if ds.isEmpty || !ds.all Char.isDigit then none
    else some (ds.foldl (fun n c => 10 * n + (c.toNat - '0'.toNat)) 0)
  match s with
  | '-' :: ds => (value ds).map fun n => -(n : Int)
  | '+' :: ds => (value ds).map fun n => (n : Int)
  | ds => (value ds).map fun n => (n : Int)

end Condition

def test (bracketed : Bool) : Work := fun c => do
  if bracketed ∧ c.arguments.getLast? ≠ some "]" then
    c.complain "missing ']'"
    return 2
  let ws := if bracketed then c.arguments.dropLast else c.arguments
  let view ← Act.look fun w =>
    ({ tree := w.treeAt c.directory, canRun := w.canRun, isDevice := World.isDevice
       number? := Condition.whole?, notNumber := fun t => s!"invalid integer '{t}'"
       more := ["=="], missingIsOld := true } : Test.View)
  match Condition.isTrue view ws with
  | .ok true => return 0
  | .ok false => return 1
  | .error e =>
    c.complain e
    return 2

end Patchbay.Programs
