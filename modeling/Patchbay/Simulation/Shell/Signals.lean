import Patchbay.Simulation.Shell.Variables

/-!
# Signals

The shell can be told what to do when a signal comes, or at its end; it does so between two
commands. It sends signals to processes and waits for processes in the background.
-/

namespace Patchbay.Shell

/-! ### Names -/

def signalName (n : Nat) : String :=
  if n = 0 then "EXIT"
  else if n = 16 then "16"
  else if n = 34 then "RTMIN"
  else if n = 64 then "RTMAX"
  else if 34 < n ∧ n < 50 then s!"RTMIN+{n - 34}"
  else if 50 ≤ n ∧ n < 64 then s!"RTMAX-{64 - n}"
  else (ExitStatus.signalName? n).getD (toString n)

def signalCount : Nat := 65

def signal? (first : Nat) (t : String) : Option Nat :=
  if t ≠ "" ∧ t.toList.all Char.isDigit then
    let n := ofDigits t.toList
    if n < signalCount then some n else none
  else
    (List.range signalCount).find? fun n => first ≤ n && signalName n = t.toUpper

/-! ### At a signal -/

def State.hasTraps (s : State) : Bool := s.traps.any (·.2 ≠ "")

/-- Says what to do at a signal: nothing at all for the empty text. -/
def setTrap (signal : Nat) (action : Option String) : Run Unit := do
  modify fun s =>
    let others := s.traps.filter (·.1 ≠ signal)
    { s with traps := others ++ (action.map (signal, ·)).toList }
  if signal ≠ 0 then
    let reaction : Reaction :=
      match action with
      | none => .usual
      | some "" => .ignore
      | some _ => .note
    Run.act (.reacts signal reaction)

/-- Shows what is done at signals, or says what to do. -/
def trapping : Own := fun ws => do
  let (_, ws) ← lettersOfOptions [] ws
  match ws with
  | [] =>
    let traps := (← get).traps.mergeSort fun a b => a.1 ≤ b.1
    for (signal, action) in traps do
      Run.print s!"trap -- {inQuotes action} {signalName signal}\n"
    return 0
  | w :: rest =>
    let isNumber := w ≠ "" ∧ w.toList.all Char.isDigit
    let (action, names) := if rest.isEmpty ∨ isNumber then (none, ws) else (some w, rest)
    let action := if action = some "-" then none else action
    for name in names do
      match signal? 0 name with
      | some signal => setTrap signal action
      | none =>
        let _ ← Run.send 2 s!"trap: {name}: bad trap\n"
        return 1
    return 0

/-- Does what is to be done at signals that have come. The answer of the last command stays. -/
def heed (r : Runner) : Run Unit := do
  if (← get).traps.any fun (signal, action) => signal ≠ 0 && action ≠ "" then
    let signals ← Run.act .learns
    for signal in signals.mergeSort do
      let s ← get
      match s.traps.lookup signal with
      | none | some "" => pure ()
      | some action =>
        let before := s.codeBefore.getD s.code
        modify fun s => { s with codeBefore := some before }
        let restore : Run Unit := modify fun t => { t with codeBefore := s.codeBefore }
        try
          let _ ← r.runText action false
          modify fun t => { t with code := s.code }
          restore
        catch l =>
          restore
          throw l

/-! ### Sending signals -/

/-- The process or group that an argument names. -/
def targetOf (w : String) : Run Int := do
  match w.toList with
  | '%' :: _ => return 0
  | '-' :: cs => return -(← Run.number (String.ofList cs) : Int)
  | _ => return (← Run.number w : Int)

def showSignals : List String → Run Nat
  | [] => do
    Run.print "0\n"
    for n in List.range signalCount do
      if n ≠ 0 then Run.print s!"{signalName n}\n"
    return 0
  | w :: _ => do
    let n ← Run.number w
    let n := if 128 < n then n - 128 else n
    if 0 < n ∧ n < signalCount then
      Run.print s!"{signalName n}\n"
      return 0
    else Run.fail s!"invalid signal number or exit status: {w}"

/-- The process of a job by its name. -/
def jobOf (w : String) : Run Nat := do
  let s ← get
  let found : Option Nat :=
    match w.toList.drop 1 with
    | [] | ['%'] | ['+'] => s.started.getLast?
    | ['-'] => s.started.dropLast.getLast?
    | ds => if ds.all Char.isDigit then s.started[ofDigits ds - 1]? else none
  match found with
  | some id => return id
  | none => Run.fail s!"No such job: {w}"

def killing : Own := fun ws => do
  let misuse {α : Type} : Run α := Run.fail <|
    "Usage: kill [-s sigspec | -signum | -sigspec] [pid | job]... or\n" ++
      "kill -l [exitstatus]"
  let direct : Option Nat :=
    match ws.head?.map String.toList with
    | some ('-' :: cs) => signal? 1 (String.ofList cs)
    | _ => none
  let (signal, shows, targets) ←
    match direct with
    | some signal => pure (some signal, false, ws.tail)
    | none => do
      let (options, targets) ← optionsOf ['l'] ['s'] (ws.length + 1) ws
      let signal ← options.foldlM (fun signal (c, t) =>
        if c = 'l' then pure signal
        else
          match signal? 1 t with
          | some n => pure (some n)
          | none => Run.fail s!"invalid signal number or name: {t}") (none : Option Nat)
      let shows := options.any (·.1 = 'l')
      pure (if shows then signal else some (signal.getD 15), shows, targets)
  if ws.isEmpty then misuse
  match signal, shows with
  | none, _ => showSignals targets
  | some _, true => misuse
  | some signal, false =>
    if targets.isEmpty then misuse
    let mut code := 0
    for w in targets do
      let target ← if w.startsWith "%" then pure ((← jobOf w : Nat) : Int) else targetOf w
      if !(← Run.act (.sends target signal)) then
        Run.complain "No such process\n"
        code := 1
    return code

/-! ### Waiting -/

/-- What signals are called when they have ended a process. -/
def signalTexts : List (Nat × String) :=
  [(1, "Hangup"), (3, "Quit"), (4, "Illegal instruction"), (5, "Trace/breakpoint trap"),
    (6, "Aborted"), (7, "Bus error"), (8, "Floating point exception"), (9, "Killed"),
    (10, "User defined signal 1"), (11, "Segmentation fault"), (12, "User defined signal 2"),
    (14, "Alarm clock"), (15, "Terminated"), (16, "Stack fault"),
    (24, "CPU time limit exceeded"), (25, "File size limit exceeded"),
    (26, "Virtual timer expired"), (27, "Profiling timer expired"), (29, "I/O possible"),
    (30, "Power failure"), (31, "Bad system call")]

/-- Tells that a signal has ended a process, unless that is an everyday matter. -/
def tellEnding (status : ExitStatus) : Run Unit := do
  match status.signal? with
  | none | some 2 | some 13 => return ()
  | some n =>
    let text := (signalTexts.lookup n).getD s!"Real-time signal {n - 34}"
    let _ ← Run.send 2 (text ++ "\n")

def awaitAnswer (id : Nat) : Run Nat := do
  let status ← Run.act (Act.await id)
  tellEnding status
  return answerOf status

/-- Waits for a process in the background, and learns its answer; nothing if a signal comes that is
to be heeded. -/
def awaitStarted (id : Nat) : Run (Option Nat) := do
  match (← get).ended.lookup id with
  | some code => return some code
  | none =>
    match ← Run.act (.waits id true) with
    | none => return none
    | some status =>
      tellEnding status
      let code := answerOf status
      modify fun s => { s with ended := (id, code) :: s.ended }
      return some code

/-- The answer when a signal comes while the shell waits: that of the first signal, which is yet to
be heeded. -/
def interrupted : Run Nat := do
  let signals ← Run.act .learns
  let s ← get
  for signal in signals do
    Run.act fun rest => .sends s.own signal fun _ => rest ()
  return 128 + (signals.min?.getD 0)

def waiting : Own := fun ws => do
  let (_, ws) ← lettersOfOptions [] ws
  if ws.isEmpty then
    for id in (← get).started do
      if (← awaitStarted id).isNone then return ← interrupted
    return 0
  else
    let mut code := 0
    for w in ws do
      let id ← if w.startsWith "%" then jobOf w else Run.number w
      if (← get).started.contains id then
        match ← awaitStarted id with
        | some c => code := c
        | none => return ← interrupted
      else code := 127
    return code

end Patchbay.Shell
