import Patchbay.Simulation.Machine.Process

/-!
# Systems of processes

A system runs its processes in turn: the next step is always that of the process that can go on at
the earliest time, of several the one that was started first. A process that has ended stays until
who has started it learns how it ended.
-/

namespace Patchbay

/-- A process, and what the system knows of it. -/
structure Task where
  id : Nat
  /-- Who has started it and may wait for it; zero for no one. -/
  parent : Nat
  group : Nat
  /-- When it goes on. -/
  time : Nat
  channels : List Channel
  ignored : List Nat := []
  /-- The signals that it takes note of. -/
  noted : List Nat := []
  /-- The signals that it will learn of, the earliest first. -/
  waiting : List Nat := []
  halted : Bool := false
  process : Process

/-- Processes and what they share. -/
structure System where
  world : World
  tasks : List Task := []
  nextId : Nat

namespace Task

def status? (t : Task) : Option ExitStatus :=
  match t.process with
  | .ends status => some status
  | _ => none

/-- The process at its end. -/
def finish (t : Task) (status : ExitStatus) : Task :=
  { t with process := .ends status, channels := [] }

/-- Signals that have no effect of their own. -/
def harmless : List Nat := [0, 17, 18, 23, 28]

/-- Signals that halt a process. -/
def halting : List Nat := [19, 20, 21, 22]

/-- The process after a signal was sent to it. The signals 9 and 19 leave it no choice, and 18 makes
it go on. -/
def receive (t : Task) (signal : Nat) : Task :=
  if t.status?.isSome then t
  else
    let t := if signal = 18 then { t with halted := false } else t
    if signal = 9 then t.finish (.ofSignal 9)
    else if signal = 19 then { t with halted := true }
    else if signal ∈ t.ignored then t
    else if signal ∈ t.noted then
      { t with waiting := t.waiting.filter (· ≠ signal) ++ [signal] }
    else if signal ∈ harmless then t
    else if signal ∈ halting then { t with halted := true }
    else t.finish (.ofSignal (UInt32.ofNat signal))

def react (t : Task) (signal : Nat) (r : Reaction) : Task :=
  { t with
    ignored := t.ignored.filter (· ≠ signal) ++ if r = .ignore then [signal] else []
    noted := t.noted.filter (· ≠ signal) ++ if r = .note then [signal] else [] }

end Task

namespace System

def outside : Nat := 1

def task? (s : System) (id : Nat) : Option Task := s.tasks.find? (·.id = id)

/-- The process with a number, if process `t` has started it. -/
def child? (s : System) (t : Task) (id : Nat) : Option Task :=
  s.tasks.find? fun u => u.id = id ∧ u.parent = t.id

def isHeld (s : System) (c : Channel) : Bool := s.tasks.any (·.channels.contains c)

/-- Whether a process can go on. -/
def canGoOn (s : System) (t : Task) : Bool :=
  !t.halted &&
    match t.process with
    | .ends _ => false
    | .takes pipe amount _ =>
      !s.isHeld (.writer pipe) ||
        match amount with
        | .available => s.world.pipeText pipe ≠ ""
        | .line => (s.world.pipeText pipe).contains '\n'
        | .whole => false
    | .waits child orSignal _ =>
      (orSignal && !t.waiting.isEmpty) || (s.child? t child).all (·.status?.isSome)
    | _ => true

/-- The process that goes on first of the one that did so far, if any, and another. -/
def first? (s : System) (best : Option Task) (t : Task) : Option Task :=
  if s.canGoOn t then
    match best with
    | some b => if t.time < b.time then some t else best
    | none => some t
  else best

/-- The process that goes on next. -/
def next? (s : System) : Option Task := s.tasks.foldl s.first? none

def set (s : System) (t : Task) : System :=
  { s with tasks := s.tasks.map fun u => if u.id = t.id then t else u }

def drop (s : System) (id : Nat) : System := { s with tasks := s.tasks.filter (·.id ≠ id) }

/-- The system without processes that have ended and that no one waits for. No one waits for what an
ended process has started. -/
def tidy (s : System) : System :=
  let orphaned (t : Task) : Bool :=
    t.parent ≠ 0 && (s.tasks.any fun u => u.id = t.parent && u.status?.isSome)
  let tasks := s.tasks.map fun t => if orphaned t then { t with parent := 0 } else t
  { s with tasks := tasks.filter fun t => t.parent ≠ 0 || t.status?.isNone }

/-- Whether a signal that process `t` sends to a target reaches a process. -/
def reaches (t : Task) (target : Int) (u : Task) : Bool :=
  if 0 < target then (u.id : Int) = target
  else if target = 0 then u.group = t.group
  else (u.group : Int) = -target

/-- The system after process `t` has sent a signal, and whether it has reached a process. Who stands
outside is always there, and heeds no signal. -/
def send (s : System) (t : Task) (target : Int) (signal : Nat) : System × Bool :=
  let found := target = outside || s.tasks.any (reaches t target)
  ({ s with tasks := s.tasks.map fun u => if reaches t target u then u.receive signal else u },
    found)

def brokenPipe : Nat := 13

/-- The system after a step of a process. -/
def step (s : System) (t : Task) : System :=
  let now := max s.world.now t.time
  let processes := s.tasks.map fun t => ⟨t.id, t.parent, t.group⟩
  let s := { s with world := { s.world with now, processes, current := t.id } }
  let t := { t with time := now }
  let on (p : Process) : System := s.set { t with process := p }
  match t.process with
  | .ends _ => s
  | .does f =>
    let (world, p) := f s.world
    match p with
    | .ends status => tidy ({ s with world }.set (t.finish status))
    | p => { s with world }.set { t with process := p }
  | .pauses time rest =>
    s.set { t with time := now + time, process := .does fun w => (w, rest ()) }
  | .takes pipe amount rest =>
    let (taken, left) := amount.split (s.world.pipeText pipe)
    { s with world := s.world.setPipe pipe left }.set { t with process := rest taken }
  | .gives pipe text rest =>
    if s.isHeld (.reader pipe) then
      { s with world := s.world.setPipe pipe (s.world.pipeText pipe ++ text) }.set
        { t with process := rest true }
    else tidy (s.set ({ t with process := rest false }.receive brokenPipe))
  | .groups rest => s.set { t with group := t.id, process := rest () }
  | .keeps channels rest => s.set { t with channels, process := rest () }
  | .starts channels child rest =>
    let id := s.nextId
    let new : Task :=
      { id, parent := t.id, group := t.group, time := now, channels, ignored := t.ignored
        process := child id }
    let s := s.set { t with process := rest id }
    { s with tasks := s.tasks ++ [new], nextId := id + 1 }
  | .waits child _ rest =>
    match (s.child? t child).bind Task.status? with
    | some status => (on (rest (some status))).drop child
    | none => on (rest none)
  | .sends target signal rest =>
    let (_, found) := s.send t target signal
    tidy ((on (.does fun w => (w, rest found))).send t target signal).1
  | .reacts signal reaction rest => s.set { t.react signal reaction with process := rest () }
  | .learns rest => s.set { t with process := rest t.waiting, waiting := [] }

/-- Processes that go on as an end have ended. -/
def settle (s : System) : System :=
  if s.tasks.any fun t => t.status?.isSome && !t.channels.isEmpty then
    tidy { s with tasks := s.tasks.map fun t =>
      match t.status? with
      | some status => t.finish status
      | none => t }
  else tidy s

def childEnded : Nat := 17

/-- The system after those who take note of it have learned which processes have ended since. -/
def tellParents (before s : System) : System :=
  if s.tasks.any (·.noted.contains childEnded) then
    let hasEnded (t : Task) : Bool :=
      t.status?.isSome && ((before.task? t.id).all (·.status?.isNone))
    let parents := (s.tasks.filter hasEnded).map Task.parent
    { s with tasks := s.tasks.map fun t =>
        if parents.contains t.id then t.receive childEnded else t }
  else s

/-- The system one step later, if a process can go on. -/
def advance (s : System) : Option System :=
  s.next?.map fun t => tellParents s (settle (s.step t))

def patience : Nat := 0x10000000

def add (s : System) (delay : Nat) (channels : Channels) (p : Process) : System × Nat :=
  let id := s.nextId
  let t : Task :=
    { id, parent := outside, group := id, time := s.world.now + delay
      channels := channels.map Prod.snd, process := p }
  ({ s with tasks := s.tasks ++ [t], nextId := id + 1 }, id)

/-- A process that has ended and for which someone outside waits. -/
def endedOutside? (s : System) : Option (Nat × ExitStatus) :=
  s.tasks.findSome? fun t =>
    if t.parent = outside then t.status?.map fun status => (t.id, status) else none

/-- The system up to the end of a process for which someone outside waits. -/
def runToEnd : Nat → System → Option (Nat × ExitStatus × System)
  | 0, _ => none
  | fuel + 1, s =>
    match s.endedOutside? with
    | some (id, status) => some (id, status, tidy (s.drop id))
    | none =>
      match s.advance with
      | some s => runToEnd fuel s
      | none => none

/-- The system without the processes for which someone outside waits. -/
def dropOutside (s : System) : System :=
  let kill (t : Task) : Task := if t.parent = outside then t.receive 9 else t
  let s := tidy { s with tasks := s.tasks.map kill }
  tidy { s with tasks := s.tasks.filter (·.parent ≠ outside) }

/-- The system when no process can go on. -/
def runOut : Nat → System → System
  | 0, s => s
  | fuel + 1, s =>
    match s.advance with
    | some s => runOut fuel s
    | none => s

end System

end Patchbay
