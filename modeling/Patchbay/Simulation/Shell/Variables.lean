import Patchbay.Simulation.Shell.Expansion
import Patchbay.Simulation.Shell.Options

/-!
# Commands about variables

Commands that show variables, hand them to programs, fix them, take them away, keep them to a
function, or give them values: from a line of text, or from options among arguments.
-/

namespace Patchbay.Shell

/-- A command of the shell, which is given arguments and has an answer. -/
abbrev Own := List String → Run Nat

/-- A text in single quotes, and the single quotes in it in double quotes. -/
def quoteParts : Nat → List Char → List Char
  | 0, _ => []
  | fuel + 1, s =>
    let plain := s.takeWhile (· ≠ '\'')
    let quotes := (s.drop plain.length).takeWhile (· = '\'')
    let rest := s.drop (plain.length + quotes.length)
    '\'' :: plain ++ '\'' ::
      if quotes.isEmpty then []
      else '"' :: quotes ++ '"' :: if rest.isEmpty then [] else quoteParts fuel rest

def inQuotes (t : String) : String := String.ofList (quoteParts (t.length + 1) t.toList)

def showVariables (start : String) (shows : Variable → Bool) (andEmpty : Bool) : Run Unit := do
  for (name, v) in (← get).store do
    if shows v then
      match v.value with
      | some value => Run.print s!"{start}{name}={inQuotes value}\n"
      | none => if andEmpty then Run.print s!"{start}{name}\n"

def splitAssignment (w : String) : String × Option String :=
  let (name, rest) := w.toList.span (· ≠ '=')
  (String.ofList name, if rest.isEmpty then none else some (String.ofList rest.tail))

/-- Changes variables, and gives them values if arguments say so, or shows them. -/
def marking (start : String) (shows : Variable → Bool) (mark : Variable → Variable) : Own :=
    fun ws => do
  let (letters, ws) ← lettersOfOptions ['p'] ws
  if ws.isEmpty ∨ ¬ letters.isEmpty then
    showVariables start shows true
  else
    for w in ws do
      let (name, value?) := splitAssignment w
      match value? with
      | some value => Run.assign name value
      | none => if !Parser.isName name.toList then Run.fail s!"{name}: bad variable name"
      let s ← get
      set (s.put name (mark ((s.store.lookup name).getD {})))
  return 0

def exporting : Own :=
  marking "export " (fun v => v.exported) fun v => { v with exported := true }

def fixing : Own :=
  marking "readonly " (fun v => v.fixed) fun v => { v with fixed := true }

def unsetting : Own := fun ws => do
  let (letters, ws) ← lettersOfOptions ['f', 'v'] ws
  for w in ws do
    if letters.getLast? = some 'f' then
      modify fun s => { s with functions := Keyed.erase w s.functions }
    else Run.unassign w
  return 0

/-- Keeps the value that a variable has for when the function is over. -/
def keepValue (name : String) : Run Unit :=
  modify fun s => { s with locals := (name, s.store.lookup name) :: s.locals }

/-- Gives back the values that were kept since a moment, the latest first. -/
def giveBack (older : List (String × Option Variable)) : Run Unit :=
  modify fun s =>
    let store := s.locals.foldl (fun vs (name, v) =>
      match v with
      | some v => Keyed.insert name v vs
      | none => Keyed.erase name vs) s.store
    { s with store, locals := older }

def localizing : Own := fun ws => do
  if (← get).functionDepth = 0 then Run.fail "not in a function"
  for w in ws do
    let (name, value?) := splitAssignment w
    if !Parser.isName name.toList then Run.fail s!"{name}: bad variable name"
    keepValue name
    match value? with
    | some value => Run.assign name value
    | none => pure ()
  return 0

def setting : Own := fun ws => do
  if ws.isEmpty then
    showVariables "" (fun _ => true) false
  else
    match (← setOptions false (ws.length + 1) ws false).2 with
    | some arguments => modify fun s => { s with arguments, optionPlace := (1, none) }
    | none => pure ()
  return 0

def shifting : Own := fun ws => do
  let n ← match ws with
    | [] => pure 1
    | w :: _ => Run.number w
  let s ← get
  if s.arguments.length < n then Run.fail "can't shift that many"
  set { s with arguments := s.arguments.drop n, optionPlace := (1, none) }
  return 0

/-! ### Reading a line -/

/-- A line that ends at the first line end without a backslash before it, each character with
whether a backslash was before it; and whether there was a line end. -/
def readLine (raw : Bool) : Nat → List (Char × Bool) → Run (List (Char × Bool) × Bool)
  | 0, line => return (line, false)
  | fuel + 1, line => do
    let text ←
      match (← get).channels.lookup 0 with
      | some c => Run.act (c.receive .line)
      | none => pure ""
    let rec take : List Char → List (Char × Bool) × Option Bool
      | [] => ([], none)
      | ['\n'] => ([], some true)
      | '\\' :: '\n' :: [] => if raw then ([('\\', false)], some true) else ([], some false)
      | ['\\'] => if raw then ([('\\', false)], none) else ([], none)
      | '\\' :: c :: s =>
        if raw then
          let (t, e) := take (c :: s)
          (('\\', false) :: t, e)
        else
          let (t, e) := take s
          ((c, true) :: t, e)
      | c :: s =>
        let (t, e) := take s
        if c = '\x00' then (t, e) else ((c, false) :: t, e)
    match take text.toList with
    | (t, none) => return (line ++ t, false)
    | (t, some true) => return (line ++ t, true)
    | (t, some false) => readLine raw fuel (line ++ t)

def separates (separators : List Char) (c : Char × Bool) : Bool :=
  !c.2 && separators.contains c.1

/-- Whether a character of a line is blank space that separates words. -/
def isBlankSeparator (separators : List Char) (c : Char × Bool) : Bool :=
  separates separators c && (c.1 = ' ' || c.1 = '\t' || c.1 = '\n')

/-- The rest of a line as the value of the last variable: a single word without what separates it
from nothing, or all that is left but for the blank space at the end. -/
def lastValue (separators : List Char) (line : List (Char × Bool)) : List (Char × Bool) :=
  let word := line.takeWhile (!separates separators ·)
  let after := (line.drop word.length).dropWhile (isBlankSeparator separators)
  let rest := (after.drop 1).dropWhile (isBlankSeparator separators)
  if rest.isEmpty ∧ after.all (separates separators) then word
  else (line.reverse.dropWhile (isBlankSeparator separators)).reverse

/-- The values of so many variables in a line. -/
def valuesOf (separators : List Char) : Nat → List (Char × Bool) → List (List (Char × Bool))
  | 0, _ => []
  | 1, line => [lastValue separators line]
  | n + 1, line =>
    let word := line.takeWhile (!separates separators ·)
    let after := (line.drop word.length).dropWhile (isBlankSeparator separators)
    let rest :=
      match after with
      | c :: s =>
        if separates separators c then s.dropWhile (isBlankSeparator separators) else after
      | [] => []
    word :: valuesOf separators n rest

/-- Gives variables the words of a line that is read. -/
def reading : Own := fun ws => do
  let (options, names) ← optionsOf ['r'] ['p'] (ws.length + 1) ws
  if names.isEmpty then Run.fail "arg count"
  let (line, isWhole) ← readLine (options.any (·.1 = 'r')) 0x100000 []
  let separators := (← get).separators
  let line := line.dropWhile (isBlankSeparator separators)
  for (name, value) in names.zip (valuesOf separators names.length line) do
    Run.assign name (String.ofList (value.map Prod.fst))
  return if isWhole then 0 else 1

/-! ### Options among arguments -/

/-- What was found where options are looked for. -/
structure FoundOption where
  /-- The letter, or a question mark, or a colon where a text is missing. -/
  letter : Char
  /-- The text, if it is to change. -/
  text : Option (Option String)
  complaint : Option String := none
  place : Nat × Option Nat
  isEnd : Bool := false

/-- Looks for the next option among arguments. -/
def findOption (letters : List Char) (place : Nat × Option Nat) (ws : List String) :
    FoundOption :=
  let (isQuiet, letters) :=
    match letters with
    | ':' :: cs => (true, cs)
    | cs => (false, cs)
  let index := place.1
  let inside : List Char :=
    match place.2 with
    | some n => if index ≤ 1 then [] else (ws.getD (index - 2) "").toList.drop n
    | none => []
  let start : Except Nat (Char × List Char × Nat) :=
    match inside, (ws.getD (index - 1) "").toList with
    | c :: cs, _ => .ok (c, cs, index)
    | [], ['-', '-'] => .error (index + 1)
    | [], '-' :: c :: cs => .ok (c, cs, index + 1)
    | _, _ => .error index
  match start with
  | .error index => { letter := '?', text := none, place := (index, none), isEnd := true }
  | .ok (c, cs, index) =>
    let word := (ws.getD (index - 2) "").toList
    let onward : Nat × Option Nat := (index, some (word.length - cs.length))
    let known := letters.zip (letters.tail ++ [' '])
    match known.find? fun (l, _) => l = c && c ≠ ':' with
    | none =>
      if isQuiet then { letter := '?', text := some (some (String.singleton c)), place := onward }
      else
        { letter := '?', text := some none, complaint := some s!"Illegal option -{c}"
          place := onward }
    | some (_, ':') =>
      match cs, ws[index - 1]? with
      | [], none =>
        if isQuiet then { letter := ':', text := some (some (String.singleton c)), place := onward }
        else
          { letter := '?', text := some none, complaint := some s!"No arg for -{c} option"
            place := onward }
      | [], some t => ⟨c, some (some t), none, (index + 1, none), false⟩
      | cs, _ => ⟨c, some (some (String.ofList cs)), none, (index, none), false⟩
    | some _ => ⟨c, some (some ""), none, onward, false⟩

/-- Gives variables the next option among arguments. -/
def optionReading : Own := fun ws => do
  match ws with
  | letters :: name :: own => do
    let s ← get
    let arguments := if own.isEmpty then s.arguments else own
    let place := if arguments.length + 1 < s.optionPlace.1 then (1, none) else s.optionPlace
    let found := findOption letters.toList place arguments
    match found.complaint with
    | some t => let _ ← Run.send 2 (t ++ "\n")
    | none => pure ()
    match found.text with
    | some (some t) => Run.assign "OPTARG" t
    | some none => Run.unassign "OPTARG"
    | none => pure ()
    Run.assign "OPTIND" (toString found.place.1)
    Run.assign name (String.singleton found.letter)
    modify fun s => { s with optionPlace := found.place }
    return if found.isEnd then 1 else 0
  | _ => Run.fail "Usage: getopts optstring var [arg...]"

end Patchbay.Shell
