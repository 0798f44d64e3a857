import Patchbay.Simulation.Machine.World
import Patchbay.Supervision.ExitStatus

/-!
# Processes

A process is what it does next and, for every answer, how it goes on: it changes the world, lets
time pass, waits for text or for another process, starts a process, sends signals, or ends. An
`Act` is a part of a process that gives a result to the rest.
-/

namespace Patchbay

/-- What a process does about a signal. -/
inductive Reaction where
  /-- What the signal is meant for. -/
  | usual
  | ignore
  /-- It takes note and goes on. -/
  | note
deriving DecidableEq, Repr

/-- A process, as what it does next. -/
inductive Process where
  | ends (status : ExitStatus)
  | does (step : World → World × Process)
  /-- Lets microseconds pass. -/
  | pauses (time : Nat) (rest : Unit → Process)
  /-- Takes text from a pipe, as soon as there is as much as asked for or no more can come. -/
  | takes (pipe : Nat) (amount : Amount) (rest : String → Process)
  /-- Gives text to a pipe, if someone can take it. -/
  | gives (pipe : Nat) (text : String) (rest : Bool → Process)
  /-- Begins a group of its own. -/
  | groups (rest : Unit → Process)
  /-- Keeps these channels and no others. -/
  | keeps (channels : List Channel) (rest : Unit → Process)
  /-- Starts a process that is told its number. -/
  | starts (channels : List Channel) (child : Nat → Process) (rest : Nat → Process)
  /-- Waits for the end of a process that it has started, or also for a signal. -/
  | waits (child : Nat) (orSignal : Bool) (rest : Option ExitStatus → Process)
  /-- Sends a signal to a process, or by a negative number to a group, or by zero to its own. -/
  | sends (target : Int) (signal : Nat) (rest : Bool → Process)
  | reacts (signal : Nat) (reaction : Reaction) (rest : Unit → Process)
  /-- Learns the signals that it has taken note of since it last did. -/
  | learns (rest : List Nat → Process)

/-- A part of a process, with a result. -/
def Act (α : Type) : Type := (α → Process) → Process

instance : Monad Act where
  pure a := fun rest => rest a
  bind m f := fun rest => m fun a => f a rest

namespace Act

def change {α : Type} (f : World → World × α) : Act α :=
  fun rest => .does fun w =>
    let (w, a) := f w
    (w, rest a)

def look {α : Type} (f : World → α) : Act α := change fun w => (w, f w)

/-- Changes the world unless that fails. -/
def attempt {α : Type} (f : World → Except OsError (World × α)) : Act (Except OsError α) :=
  change fun w =>
    match f w with
    | .ok (w, a) => (w, .ok a)
    | .error e => (w, .error e)

/-- Lets microseconds pass. -/
def pause (time : Nat) : Act Unit := .pauses time

def become {α : Type} (p : Process) : Act α := fun _ => p

/-- Sends a signal to a process or a group, and says whether there is one. -/
def signal (target : Int) (number : Nat) : Act Bool := .sends target number

/-- Reacts to a signal in some way from now on. -/
def react (number : Nat) (reaction : Reaction) : Act Unit := .reacts number reaction

def group : Act Unit := .groups

def quit {α : Type} (code : Nat) : Act α := become (.ends (.ofCode (UInt8.ofNat code)))

/-- Starts a process. -/
def start (channels : Channels) (child : Nat → Process) : Act Nat :=
  .starts (channels.map Prod.snd) child

/-- Waits for the end of a process, or for a signal that the process takes note of. -/
def awaitOrSignal (child : Nat) : Act (Option ExitStatus) := .waits child true

/-- Learns the signals that it has taken note of since it last did. -/
def learn : Act (List Nat) := .learns

/-- Waits for the end of a process. -/
def await (child : Nat) : Act ExitStatus :=
  fun rest => .waits child false fun status => rest (status.getD (.ofCode 0))

end Act

/-- Puts text into a channel, and says whether someone can take it. -/
def Channel.send (c : Channel) (text : String) : Act Bool :=
  match c with
  | .writer pipe => if text = "" then pure true else .gives pipe text
  | .reader _ => pure false
  | c => Act.change fun w => (w.send text c, true)

/-- Takes text from a channel. No text means that none can come any more. -/
def Channel.receive (c : Channel) (amount : Amount) : Act String :=
  match c with
  | .reader pipe => .takes pipe amount
  | .file index => Act.change fun w => w.takeFromFile index amount
  | _ => pure ""

end Patchbay
