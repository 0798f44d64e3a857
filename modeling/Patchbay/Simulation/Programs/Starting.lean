import Patchbay.Simulation.Programs.Context
import Patchbay.Simulation.Programs.Printing
import Patchbay.Simulation.Programs.Streams
import Patchbay.Simulation.Shell.Signals

/-!
# Programs that start programs

They go on as another program with other variables, signals or channels, or run one for a time or
again and again. Who starts them has to say how programs are started.
-/

namespace Patchbay.Programs

def goOn (launch : Launch) (c : Context) (fault : String → String)
    (name : String) (arguments : List String) : Act Nat := do
  let path := (c.value? "PATH").getD Program.searchPath
  let inner := { c with name, arguments }
  match ← Act.look fun w => w.launchByName launch path name inner with
  | .ok process => Act.become process
  | .error e =>
    c.complain (fault name ++ ": " ++ e.text)
    return if e matches .notFound | .notDirectory | .nameTooLong then 127 else 126

def inQuotes (t : String) : String := "'" ++ t ++ "'"

/-- Starts a process for a part of a program. -/
def startPart (c : Context) (channels : Channels) (part : Context → Act Nat) : Act Nat :=
  Act.start channels fun child =>
    part { c with id := child, parent := c.id, channels } fun code =>
      .ends (.ofCode (UInt8.ofNat code))

def startProgram (launch : Launch) (c : Context) (fault : String → String) (name : String)
    (arguments : List String) : Act Nat :=
  startPart c c.channels fun inner => goOn launch inner fault name arguments

def env (launch : Launch) : Work := fun c =>
  let table : OptionTable :=
    { plain := ['i', '0', 'v'], withText := ['u', 'C', 'S'], stopsEarly := true
      names := [("ignore-environment", 'i'), ("null", '0'), ("unset", 'u'), ("chdir", 'C'),
        ("split-string", 'S')] }
  let (isBare, arguments) :=
    match c.arguments with
    | "-" :: ws => (true, ws)
    | ws => (false, ws)
  let c : Context := { c with arguments }
  c.withOptions table 125 fun o => do
    let gone := (o.given.filter (·.1 = 'u')).map Prod.snd
    let first := if o.has 'i' || isBare then [] else c.environment
    let kept := first.filter fun (name, _) => !gone.contains name
    let assigned := o.operands.takeWhile (·.contains '=')
    let environment := assigned.foldl (fun vs w =>
      let (name, value) := w.toList.span (· ≠ '=')
      Keyed.put (String.ofList name) (String.ofList value.tail) vs) kept
    match o.operands.drop assigned.length with
    | [] =>
      for (name, value) in environment do c.put s!"{name}={value}\n"
      return 0
    | name :: arguments => goOn launch { c with environment } inQuotes name arguments

/-- Goes on as a program that does not heed the end of the session. -/
def nohup (launch : Launch) : Work := fun c =>
  match c.arguments with
  | [] => c.missingOperand 125
  | w :: ws => do
    let (name, arguments) := if w = "--" then (ws.headD "", ws.tail) else (w, ws)
    Act.react 1 .ignore
    goOn launch c (fun t => s!"failed to run command '{t}'") name arguments

def nice (launch : Launch) : Work := fun c =>
  let table : OptionTable :=
    { withText := ['n'], stopsEarly := true, names := [("adjustment", 'n')] }
  c.withOptions table 125 fun o => do
    match o.operands with
    | [] =>
      c.put "0\n"
      return 0
    | name :: arguments => goOn launch c inQuotes name arguments

/-- Goes on as a program in a session of its own. Who is first in a group cannot begin a session and
starts a process for that. -/
def setsid (launch : Launch) : Work := fun c =>
  let table : OptionTable :=
    { plain := ['c', 'f', 'w'], stopsEarly := true
      names := [("ctty", 'c'), ("fork", 'f'), ("wait", 'w')] }
  c.withOptions table 1 fun o => do
    match o.operands with
    | [] => c.misuse "no command specified" 1
    | name :: arguments =>
      let begin (c : Context) : Act Nat := do
        Act.group
        goOn launch c (fun t => s!"failed to execute {t}") name arguments
      let isFirst ← Act.look fun w => w.processes.any fun p => p.id = c.id && p.group = c.id
      if isFirst || o.has 'f' then
        let child ← startPart c c.channels begin
        if o.has 'w' then return Shell.answerOf (← Act.await child) else return 0
      else begin c

/-- The signal that a word stands for, which may begin with three letters that say so. -/
def signalOf? (first : Nat) (w : String) : Option Nat :=
  let w := w.toUpper
  Shell.signal? first (if w.startsWith "SIG" then String.ofList (w.toList.drop 3) else w)

/-- A process that runs for a time at most. -/
structure Watch where
  child : Nat
  /-- The name of its program. -/
  name : String
  /-- The signal that it is sent when the time is over. -/
  signal : Nat
  /-- How long after a signal it is sent another one that leaves it no choice. -/
  patience : Option Nat
  /-- Whether the signals go to its whole group. -/
  isForGroup : Bool
  /-- Whether to tell of the signals. -/
  tells : Bool
  /-- Whether the time is over. -/
  isLate : Bool := false

namespace Watch

def timeIsOver : Nat := 14

/-- Sends the signal that a time is over after that time. -/
def startClock (c : Context) (time : Nat) : Act Unit := do
  let _ ← startPart c [] fun _ => do
    Act.group
    Act.pause time
    let _ ← Act.signal c.id timeIsOver
    return 0

/-- Hands a signal on. -/
def heed (c : Context) (w : Watch) (signal : Nat) : Act Watch := do
  let isLate := w.isLate || signal = timeIsOver
  let signal := if signal = timeIsOver then w.signal else signal
  if w.tells then
    c.complain s!"sending signal {Shell.signalName signal} to command '{w.name}'"
  let _ ← Act.signal w.child signal
  if w.isForGroup then
    Act.react signal .ignore
    let _ ← Act.signal 0 signal
  match w.patience with
  | none => return { w with isLate }
  | some time =>
    startClock c time
    return { w with isLate, signal := 9, patience := none }

def follow (c : Context) : Nat → Watch → Act (ExitStatus × Bool)
  | 0, w => return (.ofCode 0, w.isLate)
  | fuel + 1, w => do
    match ← Act.awaitOrSignal w.child with
    | some status => return (status, w.isLate)
    | none => follow c fuel (← (← Act.learn).foldlM (heed c) w)

end Watch

def timeout (launch : Launch) : Work := fun c =>
  let table : OptionTable :=
    { plain := ['p', 'f', 'v'], withText := ['k', 's'], stopsEarly := true
      names := [("preserve-status", 'p'), ("foreground", 'f'), ("kill-after", 'k'),
        ("signal", 's'), ("verbose", 'v')] }
  c.withOptions table 125 fun o => do
    let word := (o.text? 's').getD "TERM"
    match signalOf? 1 word, o.operands with
    | none, _ => c.misuse s!"{inQuotes word}: invalid signal" 125
    | _, [] | _, [_] => c.suggestHelp 125
    | some signal, time :: name :: arguments =>
      match Duration.microseconds? time with
      | none => c.misuse s!"invalid time interval '{time}'" 125
      | some limit =>
        if !o.has 'f' then Act.group
        let child ← startProgram launch c (fun t => s!"failed to run command '{t}'") name arguments
        for n in [1, 2, 3, Watch.timeIsOver, 15, signal] do Act.react n .note
        if 0 < limit then Watch.startClock c limit
        let watch : Watch :=
          { child, name, signal, patience := (o.text? 'k').bind Duration.microseconds?
            isForGroup := !o.has 'f', tells := o.has 'v' }
        let (status, isLate) ← watch.follow c 10000
        match status.signal?, isLate with
        | some n, false =>
          Act.react n .usual
          let _ ← Act.signal c.id n
          return Shell.answerOf status
        | some 9, true => return Shell.answerOf status
        | _, isLate => return if isLate && !o.has 'p' then 124 else Shell.answerOf status

def chunks (size : Nat) : Nat → List String → List (List String)
  | 0, _ => []
  | _, [] => []
  | fuel + 1, ws => ws.take size :: chunks size fuel (ws.drop size)

def call (launch : Launch) (c : Context) (o : Options) (words : List String) : Act Nat := do
  let (name, fixed) :=
    match o.operands with
    | [] => ("echo", [])
    | name :: ws => (name, ws)
  let size := ((o.text? 'n').bind String.toNat?).getD (words.length + 1)
  let calls : List (List String) :=
    match o.text? 'I' with
    | some mark => words.map fun w => fixed.map fun f => f.replace mark w
    | none =>
      let groups := chunks (max size 1) words.length words
      let groups := if groups.isEmpty && !o.has 'r' then [[]] else groups
      groups.map (fixed ++ ·)
  let fault (t : String) : String := t
  let inner := { c with channels := (0, .void) :: c.channels.filter (·.1 ≠ 0) }
  let mut code := 0
  for arguments in calls do
    if code ∉ [124, 125, 126, 127] then
      let child ← startProgram launch inner fault name arguments
      let status ← Act.await child
      match status.code? with
      | some 0 => pure ()
      | some 255 =>
        c.complain s!"{name}: exited with status 255; aborting"
        code := 124
      | some n => code := if n = 126 ∨ n = 127 then n else 123
      | none =>
        c.complain s!"{name}: terminated by signal {status.signal?.getD 0}"
        code := 125
  return code

/-- Runs a program again and again, with words that are read as arguments. -/
def xargs (launch : Launch) : Work := fun c =>
  let table : OptionTable :=
    { plain := ['0', 'r', 't', 'x'], withText := ['n', 'I', 'L', 'P', 'd', 's'], stopsEarly := true
      names := [("null", '0'), ("no-run-if-empty", 'r'), ("max-args", 'n'), ("replace", 'I'),
        ("max-lines", 'L'), ("delimiter", 'd')] }
  c.withOptions table 1 fun o => do
    let text ← c.ownInput.takeAll
    let lines := (linesOf text).map String.ofList
    let words : Option (List String) :=
      if o.has '0' then
        some (parts '\x00' text)
      else if (o.text? 'I').isSome then
        let starts := lines.map fun l => l.toList.dropWhile fun c => c = ' ' || c = '\t'
        some ((starts.filter (· ≠ [])).map String.ofList)
      else
        match o.text? 'd' with
        | some d => some (parts (if d = "\\n" then '\n' else d.toList.headD '\n') text)
        | none => split text.toList
    match words with
    | none =>
      c.complain <| "unmatched single quote; by default quotes are special to xargs unless " ++
        "you use the -0 option"
      return 1
    | some words => call launch c o words
where
  /-- The parts of a text, each of which ends with a character. -/
  parts (d : Char) (text : String) : List String :=
    let ts := Text.splitAt d text.toList
    (if ts.getLast? = some [] then ts.dropLast else ts).map String.ofList
  /-- The words of a text: blanks are between them, unless in quotes or after a backslash. -/
  split (s : List Char) : Option (List String) :=
    let add (w : Option (List Char)) (c : Char) : Option (List Char) := some (c :: w.getD [])
    let close (w : Option (List Char)) (ws : List String) : List String :=
      match w with
      | some t => String.ofList t.reverse :: ws
      | none => ws
    let rec go : List Char → Option Char → Option (List Char) → List String → Option (List String)
      | [], none, w, ws => some (close w ws).reverse
      | [], some _, _, _ => none
      | c :: s, some q, w, ws =>
        if c = q then go s none (some (w.getD [])) ws else go s (some q) (add w c) ws
      | '\\' :: c :: s, none, w, ws => go s none (add w c) ws
      | c :: s, none, w, ws =>
        if c = '"' ∨ c = '\'' then go s (some c) w ws
        else if c = ' ' ∨ c = '\t' ∨ c = '\n' then go s none none (close w ws)
        else go s none (add w c) ws
    go s none none []

def kill : Work := fun c => do
  let (signal, ws) :=
    match c.arguments with
    | "-s" :: w :: ws => (signalOf? 0 w, ws)
    | "--" :: ws => (some 15, ws)
    | w :: ws =>
      if w.startsWith "-" then
        (signalOf? 0 (String.ofList w.toList.tail), if ws.head? = some "--" then ws.tail else ws)
      else (some 15, w :: ws)
    | [] => (some 15, [])
  match signal with
  | none => c.misuse "unknown signal" 1
  | some signal =>
    if ws.isEmpty then
      c.complain "not enough arguments"
      return 1
    let mut code := 0
    for w in ws do
      match Shell.Calculation.whole? w with
      | none =>
        c.complain s!"failed to parse argument: '{w}'"
        code := 1
      | some target =>
        if !(← Act.signal target signal) then
          c.complain s!"({w}): No such process"
          code := 1
    return code

end Patchbay.Programs
