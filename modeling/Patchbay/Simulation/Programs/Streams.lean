import Patchbay.Simulation.Programs.Options

/-!
# Reading inputs

Programs that work on text read the files that their arguments name, one after the other, or what
can be read where there are none. A lone minus stands for what can be read.
-/

namespace Patchbay

structure Input where
  /-- The name in messages. -/
  name : String
  channel : Channel

/-- How often a program reads or writes at most. -/
def maxReads : Nat := 0x40000000

namespace Input

/-- Takes what is there: a line of a file, or what a pipe has. -/
def take (i : Input) : Act String :=
  match i.channel with
  | .file _ => i.channel.receive .line
  | c => c.receive .available

def takeAll (i : Input) : Act String := i.channel.receive .whole

end Input

namespace Context

/-- What can be read, as an input. -/
def ownInput (c : Context) : Input :=
  { name := "-", channel := (c.channels.lookup 0).getD .void }

def openInput (c : Context) (w : String) : Act (Except OsError Input) := do
  if w = "-" then
    return if c.ownInput.channel = .directory then .error .isDirectory else .ok c.ownInput
  let isDirectory ← Act.look fun world =>
    match (world.treeAt c.directory).locate ⟨w⟩ with
    | .ok (_, .directory _) => true
    | _ => false
  if isDirectory then return .error .isDirectory
  match ← Act.attempt fun world => world.openPath c.channels c.directory ⟨w⟩ .reading with
  | .ok channel => return .ok { name := w, channel }
  | .error e => return .error e

def openOutput (c : Context) (w : String) (how : Opening) : Act (Except OsError Channel) :=
  Act.attempt fun world => world.openPath c.channels c.directory ⟨w⟩ how

/-- Does something with each input; the answer is a given one if an input cannot be opened or what
is done fails. -/
def eachInput (c : Context) (ws : List String) (fault : Nat) (complaint : String → OsError → String)
    (work : Input → Act Nat) : Act Nat :=
  (if ws.isEmpty then ["-"] else ws).foldlM (fun code w => do
    match ← c.openInput w with
    | .error e =>
      c.complain (complaint w e)
      return fault
    | .ok input =>
      let result ← work input
      return if result = 0 then code else result) 0

def usualComplaint (w : String) (e : OsError) : String := s!"{w}: {e.text}"

def texts (c : Context) (ws : List String) (complaint : String → OsError → String) :
    Act (List (String × String) × Bool) :=
  (if ws.isEmpty then ["-"] else ws).foldlM (fun (ts, isFine) w => do
    match ← c.openInput w with
    | .error e =>
      c.complain (complaint w e)
      return (ts, false)
    | .ok input =>
      let text ← input.takeAll
      return (ts ++ [(w, text)], isFine)) ([], true)

/-- Prints text, and ends the program if no one can take it. -/
def put (c : Context) (text : String) : Act Unit := do
  if !(← c.send 1 text) then
    c.complain "write error: Broken pipe"
    Act.quit 1

end Context

/-! ### Lines -/

def linesOf (t : String) : List (List Char) :=
  let parts := Text.splitAt '\n' t.toList
  if parts.getLast? = some [] then parts.dropLast else parts

/-- The lines of a text, with their ends; the last may have none. -/
def wholeLinesOf (t : String) : List (List Char) :=
  match (Text.splitAt '\n' t.toList).reverse with
  | [] => []
  | last :: others =>
    (others.reverse.map (· ++ ['\n'])) ++ if last.isEmpty then [] else [last]

def ofLines (ls : List (List Char)) : String := String.ofList (ls.flatMap (· ++ ['\n']))

def bytesOf (s : List Char) : Nat := s.foldl (fun n c => n + c.utf8Size) 0

end Patchbay
