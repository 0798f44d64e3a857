import Patchbay.Simulation.Shell.Calls

/-!
# Running commands

How a shell runs each kind of command, and the lines of a script one after the other. The script of
the shell as a program is an argument, stands in a file, or is read; options stand before it, and
what follows it is for the script.
-/

namespace Patchbay.Shell

/-! ### Parts of commands -/

/-- Ends the script after a failure, if it is to end then. -/
def endIfFailed : Run Unit := do
  let s ← get
  if s.isOn 'e' && !s.isTested && s.code ≠ 0 then throw .script

/-- Runs what another command looks at the answer of. -/
def tested (m : Run Unit) : Run Unit := do
  let before := (← get).isTested
  let restore : Run Unit := modify fun s => { s with isTested := before }
  modify fun s => { s with isTested := true }
  try
    m
    restore
  catch l =>
    restore
    throw l

def answer (code : Nat) : Run Unit := modify fun s => { s with code }

/-- Runs a part of a loop. If the part leaves the loop, the result says whether the loop goes on. -/
def turn (m : Run Unit) : Run (Option Bool) := do
  try
    m
    return none
  catch
    | .loops n goesOn => if n ≤ 1 then return some goesOn else throw (.loops (n - 1) goesOn)
    | l => throw l

def inLoop (m : Run Nat) : Run Unit := do
  let loops := (← get).loops
  let restore : Run Unit := modify fun s => { s with loops }
  modify fun s => { s with loops := loops + 1 }
  try
    let code ← m
    restore
    answer code
  catch l =>
    restore
    throw l

/-- The turns of a loop with a condition, after a turn with an answer. -/
def turns (r : Runner) (isUntil : Bool) (condition body : List Command) : Nat → Nat → Run Nat
  | 0, code => return code
  | fuel + 1, code => do
    match ← turn (tested (r.run condition false)) with
    | some false => return code
    | some true => turns r isUntil condition body fuel code
    | none =>
      if ((← get).code = 0) = isUntil then return code
      else
        match ← turn (r.run body false) with
        | some false => return (← get).code
        | _ => turns r isUntil condition body fuel (← get).code

/-- The turns of a loop over words. -/
def turnsOver (r : Runner) (name : String) (body : List Command) : List String → Nat → Run Nat
  | [], code => return code
  | w :: ws, _ => do
    Run.assign name w
    match ← turn (r.run body false) with
    | some false => return (← get).code
    | _ => turnsOver r name body ws (← get).code

def maxTurns : Nat := 0x40000000

/-- The first branch with a pattern that a text fits. -/
def branchFor (r : Runner) (text : List Char) : List Branch → Run (Option (List Command))
  | [] => return none
  | .mk patterns body :: bs => do
    let rec fits : List Word → Run Bool
      | [] => return false
      | w :: ws => do
        if (← expandPattern r w).fits text then return true else fits ws
    if ← fits patterns then return some body else branchFor r text bs

/-- A process in the background does not heed the keys that interrupt. -/
def unheeding (m : Run Unit) : Run Unit := do
  Run.act (.reacts 2 .ignore)
  Run.act (.reacts 3 .ignore)
  modify fun s => { s with isTested := false }
  m

/-- Starts commands joined by pipes. -/
def startPipeline (r : Runner) (inBackground : Bool) (cs : List Command) : Run (List Nat) := do
  let s ← get
  let pipes ← (List.range (cs.length - 1)).mapM fun _ => Run.act (Act.change World.addPipe)
  Run.setChannels s.channels
    (pipes.map Channel.reader ++ pipes.map Channel.writer ++ s.saved)
  let put (n : Nat) (c : Option Channel) (channels : Channels) : Channels :=
    match c with
    | some c => (n, c) :: channels.filter (·.1 ≠ n)
    | none => channels
  let first : Option Channel := if inBackground then some .void else none
  let inputs := first :: pipes.map fun p => some (.reader p)
  let outputs := pipes.map (fun p => some (Channel.writer p)) ++ [none]
  let children ← ((inputs.zip outputs).zip cs).mapM fun ((input, output), c) =>
    let m := r.run [c] true
    startShell r (put 0 input (put 1 output s.channels)) (if inBackground then unheeding m else m)
  Run.setChannels s.channels s.saved
  return children

def runSubshell (r : Runner) (isLast : Bool) (line : Nat) (body : List Command)
    (redirections : List Redirection) : Run Unit := do
  modify fun s => { s with line }
  let leads ← redirections.mapM (leadOf r)
  let m : Run Unit := do
    for l in leads do lead l
    r.run body true
  let s ← get
  if isLast && !s.hasTraps then
    m
    throw .script
  else
    answer (← awaitAnswer (← startShell r s.channels m))

/-! ### All commands -/

def evaluate (r : Runner) (c : Command) (isLast : Bool) : Run Unit := do
  heed r
  match c with
  | .simple line assignments words redirections =>
    runSimple r isLast line assignments words redirections
    heed r
    endIfFailed
  | .both a b =>
    tested (r.run [a] false)
    if (← get).code = 0 then r.run [b] isLast
  | .either a b =>
    tested (r.run [a] false)
    if (← get).code ≠ 0 then r.run [b] isLast
  | .not a =>
    tested (r.run [a] false)
    answer (if (← get).code = 0 then 1 else 0)
  | .pipeline cs =>
    let children ← startPipeline r false cs
    for child in children do answer (← awaitAnswer child)
    heed r
    endIfFailed
  | .background a =>
    let cs :=
      match a with
      | .pipeline cs => cs
      | a => [a]
    let children ← startPipeline r true cs
    let last := children.getLast?
    modify fun s => { s with
      code := 0, started := s.started ++ last.toList, lastStarted := last }
  | .subshell line body =>
    runSubshell r isLast line body []
    heed r
    endIfFailed
  | .group body => r.run body isLast
  | .branch condition yes no =>
    tested (r.run condition false)
    if (← get).code = 0 then r.run yes isLast
    else if no.isEmpty then answer 0
    else r.run no isLast
  | .loop isUntil condition body => inLoop (turns r isUntil condition body maxTurns 0)
  | .forEach line name words body =>
    modify fun s => { s with line }
    let fields ←
      match words with
      | none => pure (← get).arguments
      | some ws => expandWords r ws
    inLoop (turnsOver r name body fields 0)
  | .choice line word branches =>
    modify fun s => { s with line }
    let text ← expandText r word
    match ← branchFor r text.toList branches with
    | none | some [] => answer 0
    | some body => r.run body isLast
  | .define name body =>
    modify fun s => { s with functions := Keyed.insert name body s.functions, code := 0 }
  | .redirected _ (.subshell line body) redirections =>
    runSubshell r isLast line body redirections
    heed r
    endIfFailed
  | .redirected line a redirections =>
    modify fun s => { s with line }
    let leads ← redirections.mapM (leadOf r)
    let part : Run Bool := do
      r.run [a] false
      return false
    withLeads leads part endIfFailed
  heed r

def runAll (r : Runner) : List Command → Bool → Run Unit
  | [], _ => return ()
  | [c], isLast => do
    if !(← get).isOn 'n' then evaluate r c isLast
  | c :: cs, isLast => do
    if !(← get).isOn 'n' then evaluate r c false
    runAll r cs isLast

/-- Runs the lines of a script, each as soon as it is read. -/
def runLines (r : Runner) (isLast : Bool) : Nat → Source → Bool → Run Bool
  | 0, _, hasRun => return hasRun
  | fuel + 1, source, hasRun => do
    let s ← get
    let source := { source with aliases := s.aliases, nextText := s.nextText, texts := [] }
    match source.nextLine with
    | .error e =>
      modify fun s => { s with line := e.line }
      Run.fail e.message
    | .ok (none, _) => return hasRun
    | .ok (some cs, source) =>
      modify fun s => { s with texts := source.texts ++ s.texts, nextText := source.nextText }
      runAll r cs (isLast && source.ahead matches some .eof)
      runLines r isLast fuel source (hasRun || !cs.isEmpty)

/-- The runner of a shell in which so many commands can run inside each other. Beyond that, the
memory of the process does not suffice, and a signal ends it. -/
def runnerOf (launch : Launch) : Nat → Runner
  | 0 =>
    { run := fun _ _ => Run.act (Act.become (.ends (.ofSignal 11)))
      runText := fun _ _ => Run.act (Act.become (.ends (.ofSignal 11)))
      launch }
  | fuel + 1 =>
    { run := fun cs isLast => runAll (runnerOf launch fuel) cs isLast
      runText := fun text isLast =>
        runLines (runnerOf launch fuel) isLast (text.length + 2) { rest := text.toList } false
      launch }

/-- Whether a path leads to the directory at a place. -/
def leadsTo (t : FileTree) (place : Place) (path : String) : Bool :=
  match t.locate ⟨path⟩ with
  | .ok (p, .directory _) => path.startsWith "/" && p = place
  | _ => false

def firstVariables (c : Context) (t : FileTree) : List (String × Variable) :=
  let given := c.environment.filterMap fun (name, value) =>
    if Parser.isName name.toList then some (name, value) else none
  let own (name value : String) : String × Variable := (name, { value := some value })
  let place :=
    match c.value? "PWD" with
    | some path => if leadsTo t c.directory path then path else pathOfPlace c.directory
    | none => pathOfPlace c.directory
  let defaults :=
    [own "IFS" " \t\n", own "OPTIND" "1", own "PATH" Program.searchPath,
      own "PPID" (toString c.parent), own "PS1" "# ", own "PS2" "> ", own "PS4" "+ "]
  let exported := (given ++ [("PWD", place)]).filterMap fun (name, value) =>
    if name = "IFS" ∨ name = "OPTIND" ∨ name = "PPID" then none
    else some (name, ({ value := some value, exported := true } : Variable))
  Keyed.ofList (defaults ++ exported)

def firstState (c : Context) (t : FileTree) : State :=
  { name := c.name, store := firstVariables c t, id := c.id, own := c.id, parent := c.parent
    channels := c.channels, directory := c.directory, line := 0 }

def depth : Nat := 30000

def scriptIn (path : String) : Run String := do
  let s ← get
  match ← Run.act (Act.look fun w => (w.treeAt s.directory).locate ⟨path⟩) with
  | .ok (_, .file text) => return text
  | .ok (_, .directory _) => return ""
  | .error e => Run.fail (openFault path e)

def scriptFromInput : Run String := do
  match (← get).channels.lookup 0 with
  | some c => Run.act (c.receive .whole)
  | none => return ""

/-- Runs the script that arguments name. -/
def runScript (r : Runner) (arguments : List String) : Run Unit := do
  let (isCommand, rest) ← setOptions true (arguments.length + 1) arguments false
  let rest := rest.getD []
  let isRead := (← get).isOn 's'
  let start (name : String) (arguments : List String) : Run Unit :=
    modify fun s => { s with name, arguments, line := 1 }
  let shell := (← get).name
  match rest, isCommand with
  | [], true => Run.fail "-c requires an argument"
  | text :: rest, true =>
    start (rest.headD shell) rest.tail
    let _ ← r.runText text (!isRead)
  | [], false =>
    start shell []
    modify fun s => s.setOption 's' true
    let _ ← r.runText (← scriptFromInput) false
  | path :: rest, false =>
    if isRead then
      start shell (path :: rest)
      let _ ← r.runText (← scriptFromInput) false
    else
      let text ← scriptIn path
      start path rest
      let _ ← r.runText text false

def process (launch : Launch) (c : Context) : Process :=
  .does fun w =>
    let r := runnerOf launch depth
    (w, .pauses 900 fun _ => processOf r (firstState c (w.treeAt c.directory))
      (runScript r c.arguments))

end Patchbay.Shell
