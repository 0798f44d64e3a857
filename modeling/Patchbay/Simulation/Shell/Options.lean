import Patchbay.Simulation.Shell.State

/-!
# Options

Options stand before the other arguments of a command, as letters after a minus. The shell itself
has options too, which have letters or names and can be set anew at any time.
-/

namespace Patchbay.Shell

/-- The options of a command, and its other arguments. A letter that takes a text has it after it,
or in the next argument. -/
def optionsOf (letters withText : List Char) : Nat → List String →
    Run (List (Char × String) × List String)
  | 0, ws => return ([], ws)
  | _, [] => return ([], [])
  | fuel + 1, w :: ws =>
    match w.toList with
    | ['-', '-'] => return ([], ws)
    | '-' :: c :: cs =>
      if withText.contains c then
        match cs, ws with
        | [], [] => Run.fail s!"No arg for -{c} option"
        | [], t :: ws => do
          let (os, ws) ← optionsOf letters withText fuel ws
          return ((c, t) :: os, ws)
        | cs, ws => do
          let (os, ws) ← optionsOf letters withText fuel ws
          return ((c, String.ofList cs) :: os, ws)
      else if letters.contains c then do
        let ws := if cs.isEmpty then ws else String.ofList ('-' :: cs) :: ws
        let (os, ws) ← optionsOf letters withText fuel ws
        return ((c, "") :: os, ws)
      else Run.fail s!"Illegal option -{c}"
    | _ => return ([], w :: ws)

/-- The options of a command by their letters, and its other arguments. -/
def lettersOfOptions (letters : List Char) (ws : List String) : Run (List Char × List String) := do
  let (os, ws) ← optionsOf letters [] (ws.foldl (fun n w => n + w.length + 1) 1) ws
  return (os.map Prod.fst, ws)

/-! ### The options of the shell -/

def State.setOption (s : State) (letter : Char) (on : Bool) : State :=
  { s with options := s.options.filter (· ≠ letter) ++ if on then [letter] else [] }

def setOption (letter : Char) (on : Bool) : Run Unit := do
  if letter = 'm' ∧ on then
    Run.complain "can't access tty; job control turned off"
  else if optionNames.any fun (l, _) => l = some letter then
    modify fun s => s.setOption letter on
  else Run.fail s!"Illegal option -{letter}"

/-- Shows all options, or sets one by its name. -/
def setNamedOption (on : Bool) : Option String → Run Unit
  | none => do
    let s ← get
    let isOn (letter : Option Char) : Bool := letter.any s.isOn
    if on then
      Run.print "Current option settings\n"
      for (letter, name) in optionNames do
        let name := name ++ String.ofList (List.replicate (16 - name.length) ' ')
        Run.print (name ++ (if isOn letter then "on" else "off") ++ "\n")
    else
      for (letter, name) in optionNames do
        Run.print ("set " ++ (if isOn letter then "-" else "+") ++ s!"o {name}\n")
  | some name =>
    match optionNames.find? (·.2 = name) with
    | some (some letter, _) => setOption letter on
    | some (none, _) => return ()
    | none => Run.fail s!"Illegal option -o {name}"

/-- Sets options of the shell as arguments say, and gives back the other arguments; `none` if there
were to be none and nothing was said of that. At the start of the shell, `-c` is an option too, and
the answer says whether it was given. -/
def setOptions (isStart : Bool) : Nat → List String → Bool → Run (Bool × Option (List String))
  | 0, ws, isCommand => return (isCommand, some ws)
  | _, [], isCommand => return (isCommand, none)
  | fuel + 1, w :: ws, isCommand => do
    let rec letters (on : Bool) : List Char → List String → Bool → Run (List String × Bool)
      | [], ws, isCommand => return (ws, isCommand)
      | 'c' :: cs, ws, isCommand =>
        if isStart then letters on cs ws true else do
          setOption 'c' on
          letters on cs ws isCommand
      | 'o' :: cs, ws, isCommand => do
        setNamedOption on ws.head?
        letters on cs ws.tail isCommand
      | c :: cs, ws, isCommand => do
        if c ≠ 'l' ∨ !isStart then setOption c on
        letters on cs ws isCommand
    match w.toList with
    | ['-'] =>
      if !isStart then modify fun s => (s.setOption 'x' false).setOption 'v' false
      return (isCommand, if ws.isEmpty then none else some ws)
    | ['-', '-'] => return (isCommand, some ws)
    | '-' :: cs =>
      let (ws, isCommand) ← letters true cs ws isCommand
      setOptions isStart fuel ws isCommand
    | '+' :: cs =>
      let (ws, isCommand) ← letters false cs ws isCommand
      setOptions isStart fuel ws isCommand
    | _ => return (isCommand, some (w :: ws))

end Patchbay.Shell
