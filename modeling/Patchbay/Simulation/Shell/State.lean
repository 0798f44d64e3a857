import Patchbay.Number.Decimal
import Patchbay.Simulation.Programs.Context
import Patchbay.Simulation.Shell.Calculation
import Patchbay.Simulation.Shell.Parser

/-!
# The state of a shell

A shell keeps variables, functions, what to do about signals, and where it stands in a script. A
part of its run either gives a result or leaves: a loop, a function, or the script as a whole.
-/

namespace Patchbay.Shell

structure Variable where
  /-- The value, if it has one. -/
  value : Option String := none
  /-- Whether programs are given it. -/
  exported : Bool := false
  /-- Whether it stays as it is. -/
  fixed : Bool := false
deriving DecidableEq, Repr

/-- A shell in the middle of a script. -/
structure State where
  /-- The name that the script goes by, and its arguments. -/
  name : String
  arguments : List String := []
  store : List (String × Variable) := []
  functions : List (String × Command) := []
  aliases : List (String × String) := []
  /-- What to do at signals, or by the number zero at the end. -/
  traps : List (Nat × String) := []
  /-- The answer of the last command. -/
  code : Nat := 0
  /-- The answer of the last command that stood in a word. -/
  wordCode : Nat := 0
  /-- The number of the shell. -/
  id : Nat
  /-- The number of the process that this part of the shell runs in. -/
  own : Nat
  parent : Nat
  /-- The process that was last started in the background. -/
  lastStarted : Option Nat := none
  /-- Processes in the background whose ends are not known. -/
  started : List Nat := []
  channels : Channels
  /-- Channels that are led elsewhere for now. -/
  saved : List Channel := []
  directory : Place
  /-- The options that are on, by their letters. -/
  options : List Char := []
  mask : Nat := 0o022
  /-- How much the shell may use, for now and at most, by letters; nothing where there is no
  limit. -/
  limits : List (Char × Option Nat × Option Nat) := []
  line : Nat := 1
  /-- The command of the shell that complaints come from. -/
  speaker : Option String := none
  texts : List (Nat × Word) := []
  nextText : Nat := 0
  loops : Nat := 0
  functionDepth : Nat := 0
  /-- The number of the argument that options are looked for in next, and how many of its characters
  were. -/
  optionPlace : Nat × Option Nat := (1, none)
  /-- The answer of the last command before what was to be done at a signal or at the end. -/
  codeBefore : Option Nat := none
  /-- Whether text was lost because there was no channel for it. -/
  hasLost : Bool := false
  /-- How processes in the background ended. -/
  ended : List (Nat × Nat) := []
  /-- What variables were before the functions that run made them their own. -/
  locals : List (String × Option Variable) := []
  /-- Whether the answer of the command that runs is looked at by another command. -/
  isTested : Bool := false

/-- The answer of a process: its code, or the number of the signal that ended it after 128. -/
def answerOf (status : ExitStatus) : Nat :=
  status.code?.getD (128 + status.signal?.getD 0)

/-- How a part of a run is left. -/
inductive Leave where
  /-- The script ends. -/
  | script
  /-- Something is wrong, which ends the script unless a command of the shell stands for it. -/
  | failure
  | function
  /-- So many loops are left, the last of which may go on with the next turn. -/
  | loops (count : Nat) (goesOn : Bool)
deriving DecidableEq, Repr

abbrev Run := ExceptT Leave (StateT State Act)

namespace Run

def act {α : Type} (a : Act α) : Run α := fun s rest => a fun x => rest (.ok x, s)

def send (number : Nat) (text : String) : Run Bool := do
  match (← get).channels.lookup number with
  | some channel => act (channel.send text)
  | none => return text = ""

def print (text : String) : Run Unit := do
  if !(← send 1 text) then modify fun s => { s with hasLost := true }

/-- What complaints begin with: the names of script and command, and the line. -/
def heading : Run String := do
  let s ← get
  let speaker := (s.speaker.map (· ++ ": ")).getD ""
  return s!"{s.name}: {s.line}: {speaker}"

def complain (text : String) : Run Unit := do
  let _ ← send 2 ((← heading) ++ text ++ "\n")

def fail {α : Type} (text : String) (code : Nat := 2) : Run α := do
  complain text
  modify fun s => { s with code }
  throw .failure

/-- Lets the time pass that a command of the shell takes. -/
def tick : Run Unit := act (Act.pause 20)

/-- The shell has these channels from now on, and keeps others for later. -/
def setChannels (channels : Channels) (saved : List Channel) : Run Unit := do
  modify fun s => { s with channels, saved }
  act (.keeps (channels.map Prod.snd ++ saved))

end Run

/-! ### Variables -/

/-- The letters and names of the options of the shell, in the order in which they are shown. -/
def optionNames : List (Option Char × String) :=
  [(some 'e', "errexit"), (some 'f', "noglob"), (some 'I', "ignoreeof"),
    (some 'i', "interactive"), (some 'm', "monitor"), (some 'n', "noexec"), (some 's', "stdin"),
    (some 'x', "xtrace"), (some 'v', "verbose"), (some 'V', "vi"), (some 'E', "emacs"),
    (some 'C', "noclobber"), (some 'a', "allexport"), (some 'b', "notify"), (some 'u', "nounset"),
    (some 'p', "privileged"), (none, "nolog"), (none, "debug")]

namespace State

def isOn (s : State) (letter : Char) : Bool := s.options.contains letter

/-- The letters of the options that are on, in their order. -/
def shownOptions (s : State) : String :=
  String.ofList (optionNames.filterMap fun (letter, _) => letter.filter s.isOn)

def value? (s : State) (name : String) : Option String :=
  (s.store.lookup name).bind Variable.value

def put (s : State) (name : String) (v : Variable) : State :=
  { s with store := Keyed.insert name v s.store }

def environment (s : State) : List (String × String) :=
  s.store.filterMap fun (name, v) =>
    if v.exported then v.value.map (name, ·) else none

def separators (s : State) : List Char :=
  match s.value? "IFS" with
  | some t => t.toList
  | none => [' ', '\t', '\n']

/-- The arguments with the first separator between them. -/
def joined (s : State) : String :=
  let between :=
    match s.value? "IFS" with
    | none => " "
    | some t => String.ofList (t.toList.take 1)
  between.intercalate s.arguments

/-- The value of a parameter that is no variable. -/
def special? (s : State) (name : String) : Option (Option String) :=
  match name.toList with
  | ['#'] => some (some (toString s.arguments.length))
  | ['?'] => some (some (toString s.code))
  | ['$'] => some (some (toString s.id))
  | ['!'] => some (s.lastStarted.map toString)
  | ['-'] => some (some s.shownOptions)
  | ['@'] | ['*'] => some (if s.arguments.isEmpty then none else some s.joined)
  | ds =>
    if ds.all Char.isDigit && !ds.isEmpty then
      let n := ofDigits ds
      some (if n = 0 then some s.name else s.arguments[n - 1]?)
    else none

/-- The value of a parameter. -/
def parameter? (s : State) (name : String) : Option String :=
  match s.special? name with
  | some v => v
  | none => s.value? name

end State

namespace Run

def number (text : String) : Run Nat := do
  match Calculation.whole? text with
  | some n => if 0 ≤ n ∧ n < 0x80000000 then return n.toNat else fail s!"Illegal number: {text}"
  | none => fail s!"Illegal number: {text}"

def assign (name value : String) : Run Unit := do
  let s ← get
  let v := (s.store.lookup name).getD {}
  if !Parser.isName name.toList then fail s!"{name}: bad variable name"
  else if v.fixed then fail s!"{name}: is read only"
  else
    set (s.put name { v with value := some value, exported := v.exported || s.isOn 'a' })
    if name = "OPTIND" then
      let n ← number value
      modify fun s => { s with optionPlace := (max n 1, none) }

def unassign (name : String) : Run Unit := do
  let s ← get
  if !Parser.isName name.toList then fail s!"{name}: bad variable name"
  else if ((s.store.lookup name).map Variable.fixed).getD false then
    fail s!"{name}: is read only"
  else set { s with store := Keyed.erase name s.store }

end Run

end Patchbay.Shell
