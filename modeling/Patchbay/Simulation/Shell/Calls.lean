import Patchbay.Simulation.Shell.Names
import Patchbay.Simulation.Shell.Places
import Patchbay.Simulation.Shell.Redirection
import Patchbay.Simulation.Shell.Signals
import Patchbay.Simulation.Shell.Words

/-!
# Calling commands

Commands of words first expand their words, then lead channels elsewhere, then give variables
values, and then call what the first word stands for: a function, a command of the shell, or a
program, which runs as a process of its own unless the shell has nothing left to do.
-/

namespace Patchbay.Shell

/-! ### Programs -/

def becomeProgram (r : Runner) (name : String) (arguments : List String) : Run Unit := do
  let s ← get
  let c : Context :=
    { name, arguments, environment := s.environment, directory := s.directory
      channels := s.channels, id := s.own, parent := s.parent }
  let path := (s.value? "PATH").getD ""
  let launched (w : World) : Except OsError Process :=
    if name = "" then w.launchFrom r.launch (Program.candidates path name) c
    else w.launchByName r.launch path name c
  match ← Run.act (Act.look launched) with
  | .ok process =>
    Run.setChannels s.channels []
    for (signal, action) in s.traps do
      if signal ≠ 0 ∧ action ≠ "" then Run.act (.reacts signal .usual)
    Run.act (Act.become process)
  | .error e =>
    Run.complain (name ++ ": " ++ faultOf "not found" e)
    let isMissing := e matches .notFound | .notDirectory | .nameTooLong
    modify fun s => { s with code := if isMissing then 127 else 126 }
    throw .script

def startShell (r : Runner) (channels : Channels) (m : Run Unit) : Run Nat := do
  let s ← get
  Run.act (Act.start channels (subshell r { s with channels } m))

def runProgram (r : Runner) (isLast : Bool) (name : String) (arguments : List String) :
    Run Unit := do
  let found ← if name.contains '/' then pure (some name) else findProgram name
  if found.isNone then
    let what := if name = "" then OsError.permissionDenied.text else "not found"
    Run.complain s!"{name}: {what}"
    modify fun s => { s with code := 127 }
  else
    let s ← get
    if isLast && !s.hasTraps then becomeProgram r name arguments
    else
      let child ← startShell r s.channels (becomeProgram r name arguments)
      let code ← awaitAnswer child
      modify fun s => { s with code }

/-! ### Functions -/

def functionDepth : Nat := 1000

def runFunction (r : Runner) (body : Command) (arguments : List String) : Run Unit := do
  let s ← get
  if functionDepth ≤ s.functionDepth then
    Run.fail s!"Maximum function recursion depth ({functionDepth}) reached"
  let restore : Run Unit := modify fun t => { t with
    arguments := s.arguments, functionDepth := s.functionDepth, loops := s.loops
    optionPlace := s.optionPlace }
  set { s with
    arguments, functionDepth := s.functionDepth + 1, loops := 0, optionPlace := (1, none) }
  try
    r.run [body] false
    restore
  catch l =>
    restore
    if l ≠ .function then throw l

/-! ### Commands of the shell that need the runner -/

/-- Runs arguments as a script. -/
def evaluating (r : Runner) : Own := fun ws => do
  if ← r.runText (" ".intercalate ws) false then return (← get).code else return 0

/-- Runs a file as a part of the script. -/
def including (r : Runner) : Own := fun ws => do
  let (_, ws) ← lettersOfOptions [] ws
  match ws with
  | [] => return 0
  | w :: _ =>
    let s ← get
    let path ←
      if w.contains '/' then pure w
      else
        match ← findProgram w with
        | some path => pure path
        | none => Run.fail s!"{w}: not found"
    match ← Run.act (Act.attempt fun w => do
        let (w, c) ← w.openPath s.channels s.directory ⟨path⟩ .reading
        match c with
        | .file index => return w.takeFromFile index .whole
        | _ => return (w, "")) with
    | .error e => Run.fail (openFault w e)
    | .ok text =>
      try
        if ← r.runText text false then return (← get).code else return 0
      catch
        | .function => return (← get).code
        | l => throw l

/-- Goes on as a program, if one is named. -/
def replacing (r : Runner) : Own := fun ws => do
  match ws with
  | [] => return 0
  | name :: arguments =>
    becomeProgram r name arguments
    return 0

def exiting : Own := fun ws => do
  let s ← get
  let code ← match ws with
    | [] => pure (s.codeBefore.getD s.code)
    | w :: _ => Run.number w
  modify fun s => { s with code }
  throw .script

def returning : Own := fun ws => do
  let code ← match ws with
    | [] => pure (← get).code
    | w :: _ => Run.number w
  modify fun s => { s with code }
  throw .function

def leaving (goesOn : Bool) : Own := fun ws => do
  let n ← match ws with
    | [] => pure 1
    | w :: _ => do
      let n ← Run.number w
      if n = 0 then Run.fail s!"Illegal number: {w}" else pure n
  let loops := (← get).loops
  modify fun s => { s with code := 0 }
  if loops = 0 then return 0 else throw (.loops (min n loops) goesOn)

def describing : Own := fun ws => do
  let (letters, ws) ← lettersOfOptions ['p', 'v', 'V'] ws
  match ws with
  | [] => return 0
  | w :: _ =>
    if letters.contains 'V' then telling [w]
    else if letters.contains 'v' then showing w
    else return 0

def own? (r : Runner) (name : String) : Option Own :=
  match name with
  | ":" | "true" => some fun _ => return 0
  | "false" => some fun _ => return 1
  | "." => some (including r)
  | "[" => some (testing true)
  | "alias" => some naming
  | "bg" | "fg" => some fun _ => Run.fail "No current job"
  | "break" => some (leaving false)
  | "cd" | "chdir" => some changingPlace
  | "command" => some describing
  | "continue" => some (leaving true)
  | "echo" => some echoing
  | "eval" => some (evaluating r)
  | "exec" => some (replacing r)
  | "exit" => some exiting
  | "export" => some exporting
  | "getopts" => some optionReading
  | "hash" => some lookingUp
  | "jobs" => some fun _ => return 0
  | "kill" => some killing
  | "local" => some localizing
  | "printf" => some formPrinting
  | "pwd" => some showingPlace
  | "read" => some reading
  | "readonly" => some fixing
  | "return" => some returning
  | "set" => some setting
  | "shift" => some shifting
  | "test" => some (testing false)
  | "times" => some fun _ => do
    Run.print "0m0.000000s 0m0.000000s\n0m0.000000s 0m0.000000s\n"
    return 0
  | "trap" => some trapping
  | "type" => some telling
  | "ulimit" => some limiting
  | "umask" => some masking
  | "unalias" => some unnaming
  | "unset" => some unsetting
  | "wait" => some waiting
  | _ => none

/-! ### Commands of words -/

/-- What the first word of a command stands for. -/
inductive Callee where
  | own (command : Own)
  | function (body : Command)
  | program

/-- What a name calls. -/
def calleeOf (r : Runner) (name : String) (skipsFunctions : Bool) : Run Callee := do
  let s ← get
  match s.functions.lookup name, own? r name with
  | some body, o =>
    match skipsFunctions, o with
    | true, some o => return .own o
    | true, none => return .program
    | false, _ => return .function body
  | none, some o => return .own o
  | none, none => return .program

structure Call where
  /-- The name and the arguments. -/
  fields : List String := []
  /-- The words that are not yet expanded. -/
  words : List Word
  callee : Callee := .program
  /-- Whether a fault ends the script, where that is known. -/
  isSpecial : Option Bool := none
  skipsFunctions : Bool := false

namespace Call

/-- Expands words until there is a field. -/
def fill (r : Runner) (fields : List String) : List Word → Run (List String × List Word)
  | [] => return (fields, [])
  | w :: ws => do
    if fields.isEmpty then fill r (← expandWords r [w]) ws else return (fields, w :: ws)

/-- What follows the options after `command`; nothing in place of it if it is not there to call
something else. Also the fields and the words that are not yet expanded. -/
def afterCommand (r : Runner) :
    Nat → List String → List Word → Run (Option (List String) × List String × List Word)
  | 0, fields, words => return (none, fields, words)
  | fuel + 1, fields, words => do
    let (fields, words) ← fill r fields words
    match fields with
    | [] => return (none, [], words)
    | f :: fs =>
      match f.toList with
      | ['-', '-'] =>
        let (rest, words) ← fill r fs words
        return (if rest.isEmpty then none else some rest, f :: rest, words)
      | '-' :: c :: cs =>
        if (c :: cs).all (· = 'p') then
          let (found, rest, words) ← afterCommand r fuel fs words
          return (found, f :: rest, words)
        else return (none, f :: fs, words)
      | _ => return (some (f :: fs), f :: fs, words)

def find (r : Runner) : Nat → Call → Run Call
  | 0, c => return c
  | fuel + 1, c => do
    let (fields, words) ← fill r c.fields c.words
    match fields with
    | [] => return { c with fields, words }
    | name :: arguments =>
      let callee ← calleeOf r name c.skipsFunctions
      let c := { c with fields, words, callee }
      match callee with
      | .own _ =>
        let isSpecial := c.isSpecial.getD (Parser.specialCommands.contains name)
        let c := { c with isSpecial := some isSpecial }
        if name ≠ "command" then return c
        else
          match ← afterCommand r (fuel + 1) arguments words with
          | (some fields, _, words) =>
            find r fuel { c with fields, words, skipsFunctions := true }
          | (none, rest, words) => return { c with fields := name :: rest, words }
      | _ => return c

/-- Whether arguments that are assignments are expanded as such. -/
def takesAssignments (c : Call) : Bool :=
  match c.fields with
  | name :: _ => (c.callee matches .own _) && ["alias", "export", "local", "readonly"].contains name
  | [] => false

/-- Expands the words that are left. -/
def complete (r : Runner) (c : Call) : Run Call := do
  let fields ← c.words.mapM fun w => do
    match c.takesAssignments, Parser.assignment? w with
    | true, some (name, value) => return [s!"{name}={← expandValue r value}"]
    | _, _ => expandWords r [w]
  return { c with fields := c.fields ++ fields.flatten, words := [] }

end Call

/-- Runs a command of the shell. -/
def runOwn (o : Own) (isSpecial : Bool) (name : String) (arguments : List String) : Run Unit := do
  let before := (← get).speaker
  modify fun s => { s with speaker := some name }
  let restore : Run Unit := modify fun s => { s with speaker := before }
  try
    let code ← o arguments
    modify fun s => { s with code }
    if (← get).hasLost then
      Run.complain s!"{name}: I/O error"
      modify fun s => { s with code := s.code ||| 1, hasLost := false }
    restore
  catch l =>
    restore
    if l ≠ .failure ∨ isSpecial then throw l

def trace (errors : Option Channel) (assigned fields : List String) : Run Unit := do
  let s ← get
  match errors with
  | some c =>
    if s.isOn 'x' then
      let text := (s.value? "PS4").getD "" ++ " ".intercalate (assigned ++ fields) ++ "\n"
      let _ ← Run.act (c.send text)
  | none => pure ()

/-- Runs a command of words. -/
def runSimple (r : Runner) (isLast : Bool) (line : Nat) (assignments : List (String × Word))
    (words : List Word) (redirections : List Redirection) : Run Unit := do
  modify fun s => { s with line, wordCode := 0 }
  Run.tick
  let call ← Call.find r (words.length + 1) { words }
  let call ← call.complete r
  let isSpecial := call.isSpecial.getD false
  let staysAssigned := call.fields.isEmpty || isSpecial
  let older := (← get).locals
  let finish : Run Unit := if staysAssigned then pure () else giveBack older
  if !staysAssigned then modify fun s => { s with locals := [] }
  let errors := (← get).channels.lookup 2
  let part : Run Bool := do
    let isExec := call.fields.head? = some "exec" && call.callee matches .own _
    let mut assigned := []
    for (name, w) in assignments do
      let value ← expandValue r w
      if !staysAssigned then keepValue name
      Run.assign name value
      if !staysAssigned || (isExec && 1 < call.fields.length) then
        modify fun s =>
          s.put name { (s.store.lookup name).getD {} with exported := true }
      assigned := assigned ++ [s!"{name}={value}"]
    trace errors assigned call.fields
    match call.fields, call.callee with
    | [], _ => modify fun s => { s with code := s.wordCode }
    | name :: arguments, .own o => runOwn o isSpecial name arguments
    | _ :: arguments, .function body => runFunction r body arguments
    | name :: arguments, .program => runProgram r isLast name arguments
    return isExec
  let failed : Run Unit := if isSpecial then throw .failure else pure ()
  try
    let leads ← redirections.mapM (leadOf r)
    withLeads leads part failed
    finish
  catch l =>
    finish
    throw l

end Patchbay.Shell
