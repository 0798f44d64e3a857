import Patchbay.Simulation.Programs.Context
import Patchbay.Simulation.Programs.Printf
import Patchbay.Simulation.Programs.Test
import Patchbay.Simulation.Shell.Variables

/-!
# Printing and testing words

Commands of the shell that print their arguments, as they are or in a form, and one that tests them:
tests joined by `!`, `-a`, `-o` and brackets. A word that looks like an operator is taken as a text
where an operator cannot stand.
-/

namespace Patchbay.Shell

def escapes : Text.Escapes := {}

def echoing : Own := fun ws => do
  let (ws, ending) :=
    match ws with
    | "-n" :: ws => (ws, "")
    | ws => (ws, "\n")
  let (text, stopped) := escapes.text (" ".intercalate ws)
  Run.print (text ++ if stopped then "" else ending)
  return 0

def forms : Printf.Dialect where
  escapes := { leadingZero := false, stops := false }
  argumentEscapes := escapes
  invalid := fun t => s!"{t}: invalid directive"
  missing := fun _ => "missing format character"

def formPrinting : Own := fun ws => do
  let (_, ws) ← lettersOfOptions [] ws
  match ws with
  | [] => Run.fail "usage: printf format [arg ...]"
  | form :: arguments =>
    let printed := Printf.print forms form arguments
    Run.print printed.text
    for t in printed.complaints do
      if printed.stopped = some 2 ∧ printed.complaints.getLast? = some t then Run.fail t
      else Run.complain t
    return printed.code

open Test (View)

/-- Whether words begin with an operator before a word. It is a text when nothing follows, or when
an operator between words does and something follows that. -/
def beginsUnary (v : View) : List String → Bool
  | [w, _] => Test.unary.contains w
  | w :: next :: _ :: _ => Test.unary.contains w && !v.isBinary next
  | _ => false

mutual

/-- Tests joined by `-o`, and the words after them. -/
def anyOf (v : View) (fuel : Nat) (ws : List String) : Except String (Bool × List String) :=
  match fuel with
  | 0 => return (false, ws)
  | fuel + 1 => do
    let (a, rest) ← allOf v fuel ws
    match rest with
    | "-o" :: rest =>
      let (b, rest) ← anyOf v fuel rest
      return (a || b, rest)
    | rest => return (a, rest)

/-- Tests joined by `-a`, and the words after them. -/
def allOf (v : View) (fuel : Nat) (ws : List String) : Except String (Bool × List String) :=
  match fuel with
  | 0 => return (false, ws)
  | fuel + 1 => do
    let (a, rest) ← single v fuel ws
    match rest with
    | "-a" :: rest =>
      let (b, rest) ← allOf v fuel rest
      return (a && b, rest)
    | rest => return (a, rest)

def single (v : View) (fuel : Nat) (ws : List String) : Except String (Bool × List String) :=
  match fuel with
  | 0 => return (false, ws)
  | fuel + 1 =>
    match ws with
    | [] => return (false, [])
    | "!" :: rest => do
      let (a, rest) ← single v fuel rest
      return (!a, rest)
    | "(" :: next :: rest =>
      if next = ")" then return (false, rest)
      else do
        let (a, rest) ← anyOf v fuel (next :: rest)
        match rest with
        | ")" :: rest => return (a, rest)
        | _ => throw "closing paren expected"
    | w :: rest =>
      if beginsUnary v (w :: rest) then
        match rest with
        | word :: rest => return (← v.holds w word, rest)
        | [] => throw s!"{w}: argument expected"
      else
        match rest with
        | operator :: after =>
          if v.isBinary operator then
            match after with
            | b :: rest => return (← v.compares operator w b, rest)
            | [] => throw s!"{operator}: argument expected"
          else return (w ≠ "", rest)
        | [] => return (w ≠ "", [])

end

/-- Whether a row of words is true. Where the row ends too early, its last word is named; it comes
after another word that was read before. -/
def isRowTrue (v : View) (before ws : List String) : Except String Bool := do
  let (a, rest) ← anyOf v (4 * (ws.length + 1)) ws
  if rest.isEmpty then return a
  else
    let read := before ++ ws.take (ws.length - rest.length)
    throw (read.getLast?.getD "" ++ ": unexpected operator")

def isTrue (v : View) (isTurned : Bool) (ws : List String) : Except String Bool :=
  let turn (r : Except String Bool) : Except String Bool := r.map (· != isTurned)
  match ws with
  | [a, o, b] =>
    if v.isBinary o then turn (v.compares o a b)
    else if a = "(" ∧ b = ")" then turn (isRowTrue v ["("] [o])
    else if a = "!" then isTrue v true [o, b]
    else turn (isRowTrue v [] ws)
  | [a, b, c, d] =>
    if a = "(" ∧ d = ")" then turn (isRowTrue v ["("] [b, c])
    else if a = "!" then isTrue v true [b, c, d]
    else turn (isRowTrue v [] ws)
  | ws => turn (isRowTrue v [] ws)
termination_by ws.length

def testing (bracketed : Bool) : Own := fun ws => do
  if bracketed ∧ ws.getLast? ≠ some "]" then Run.fail "missing ]"
  let ws := if bracketed then ws.dropLast else ws
  let s ← get
  let view ← Run.act (Act.look fun w =>
    ({ tree := w.treeAt s.directory, canRun := w.canRun, isDevice := World.isDevice
       number? := Calculation.whole?, notNumber := fun t => s!"Illegal number: {t}"
       more := ["<", ">"] } : View))
  match isTrue view false ws with
  | .ok true => return 0
  | .ok false => return 1
  | .error e => Run.fail e

end Patchbay.Shell
