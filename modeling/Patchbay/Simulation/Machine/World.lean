import Patchbay.Files.Tree

/-!
# What processes share

Processes work on one tree of files. Text goes to the output, to the errors, through pipes and into
open files. A file that is open keeps its position, which all who have it share.
-/

namespace Patchbay

/-- A way for text to come or to go. -/
inductive Channel where
  /-- What the user sees. -/
  | output
  /-- What the user sees of errors. -/
  | errors
  /-- Nothing comes, and what goes is lost. -/
  | void
  /-- Nothing can be taken from a directory. -/
  | directory
  /-- The end of a pipe where text comes out. -/
  | reader (pipe : Nat)
  /-- The end of a pipe where text goes in. -/
  | writer (pipe : Nat)
  | file (index : Nat)
deriving DecidableEq, Repr

/-- The channels of a process by their numbers. -/
abbrev Channels := List (Nat × Channel)

structure OpenFile where
  place : Place
  /-- How many characters lie before the next one. -/
  position : Nat := 0
  /-- Whether text always goes to the end. -/
  appends : Bool := false

structure ProcessFacts where
  id : Nat
  parent : Nat
  group : Nat

/-- The line about a process in its file. -/
def ProcessFacts.line (p : ProcessFacts) : String :=
  s!"{p.id} (sh) R {p.parent} {p.group} {p.group} 0 -1 4194304 0 0 0 0 0 0 0 0 20 0 1 0\n"

/-- What processes share. -/
structure World where
  tree : FileTree
  /-- Microseconds since the start. -/
  now : Nat := 0
  /-- What has gone to the output, the latest first. -/
  output : List String := []
  /-- What has gone to the errors, the latest first. -/
  errors : List String := []
  /-- The text in each pipe. -/
  pipes : Array String := #[]
  files : Array OpenFile := #[]
  /-- The places of files that can be run as programs. -/
  runnable : List Place := []
  /-- The processes that there are, and the number of the one whose step it is. -/
  processes : List ProcessFacts := []
  current : Nat := 0

/-- How much a reader asks for. -/
inductive Amount where
  /-- What is there. -/
  | available
  /-- A line with its end. -/
  | line
  /-- Everything up to the end. -/
  | whole
deriving DecidableEq, Repr

/-- A text before and after the end of its first line. -/
def Amount.split (text : String) : Amount → String × String
  | available | whole => (text, "")
  | line =>
    let chars := text.toList
    let first := chars.takeWhile (· ≠ '\n') ++ (chars.dropWhile (· ≠ '\n')).take 1
    (String.ofList first, String.ofList (chars.drop first.length))

namespace World

/-- The directory with a directory for each process. -/
def processDirectory : Place := ["proc"]

/-- The entry about processes. -/
def processEntry (w : World) : Entry :=
  let entry (p : ProcessFacts) : Entry := .directory [("stat", .file p.line)]
  let own := (w.processes.filter (·.id = w.current)).map fun p => ("self", entry p)
  .directory (Keyed.ofList (own ++ w.processes.map fun p => (toString p.id, entry p)))

/-- The tree with all that there is to see, where processes have a directory. -/
def view (w : World) : FileTree :=
  if w.tree.content? processDirectory = some .directory then
    w.tree.put processDirectory w.processEntry
  else w.tree

/-- The tree as it is seen from a directory. -/
def treeAt (w : World) (directory : Place) : FileTree :=
  { w.view with workingDirectory := directory }

/-- The world with another tree. What is said there of processes does not count. -/
def withTree (w : World) (t : FileTree) : World :=
  let t := ((w.tree.entry? processDirectory).map (t.put processDirectory)).getD t
  { w with tree := { t with workingDirectory := w.tree.workingDirectory } }

def addPipe (w : World) : World × Nat := ({ w with pipes := w.pipes.push "" }, w.pipes.size)

def pipeText (w : World) (pipe : Nat) : String := w.pipes.getD pipe ""

def setPipe (w : World) (pipe : Nat) (text : String) : World :=
  { w with pipes := w.pipes.setIfInBounds pipe text }

def textAt (w : World) (p : Place) : String :=
  match w.view.content? p with
  | some (.file text) => text
  | _ => ""

def takeFromFile (w : World) (index : Nat) (amount : Amount) : World × String :=
  match w.files[index]? with
  | none => (w, "")
  | some f =>
    let rest := String.ofList ((w.textAt f.place).toList.drop f.position)
    let (taken, _) := amount.split rest
    let f := { f with position := f.position + taken.length }
    ({ w with files := w.files.setIfInBounds index f }, taken)

/-- A text with another text written over it from a position on. -/
def writeOver (old : List Char) (position : Nat) (new : List Char) : List Char :=
  old.take position ++ List.replicate (position - old.length) '\x00' ++ new ++
    old.drop (position + new.length)

def putIntoFile (w : World) (index : Nat) (text : String) : World :=
  match w.files[index]? with
  | none => w
  | some f =>
    let old := (w.textAt f.place).toList
    let position := if f.appends then old.length else f.position
    let new := String.ofList (writeOver old position text.toList)
    let f := { f with position := position + text.length }
    let tree :=
      match w.tree.content? f.place with
      | some (.file _) => w.tree.put f.place (.file new)
      | _ => w.tree
    { w with tree, files := w.files.setIfInBounds index f }

/-- Puts text into a channel other than a pipe. -/
def send (w : World) (text : String) : Channel → World
  | .output => { w with output := text :: w.output }
  | .errors => { w with errors := text :: w.errors }
  | .file index => w.putIntoFile index text
  | _ => w

end World

/-! ### Opening files -/

/-- What a file is opened for. -/
inductive Opening where
  | reading
  /-- For writing, from an empty text on. -/
  | replacing
  | appending
  /-- For both, from the start on. -/
  | changing
deriving DecidableEq, Repr

namespace World

def devices (channels : Channels) : List (Place × Option Channel) :=
  [(["dev", "null"], some .void), (["dev", "tty"], none),
    (["dev", "stdin"], channels.lookup 0), (["dev", "stdout"], channels.lookup 1),
    (["dev", "stderr"], channels.lookup 2)]

def isDevice (p : Place) : Bool := (devices []).any fun d => d.1 = p

/-- Whether a path leads to a file that is no device. -/
def isPlainFile (w : World) (directory : Place) (p : Path) : Bool :=
  match (w.treeAt directory).locate p with
  | .ok (place, .file _) => !isDevice place
  | _ => false

/-- Opens a file at a place for a process with channels. -/
def openAt (w : World) (channels : Channels) (p : Place) (slash : Bool) (how : Opening) :
    Except OsError (World × Channel) := do
  match (devices channels).lookup p, w.view.content? p, how with
  | some (some c), _, _ => return (w, c)
  | some none, _, _ => throw .notFound
  | none, some .directory, .reading => return (w, .directory)
  | none, some .directory, _ => throw .isDirectory
  | none, none, .reading => throw .notFound
  | none, old, how =>
    if slash then throw (if how = .reading then .notDirectory else .isDirectory)
    let tree :=
      if how = .replacing ∨ old.isNone then w.tree.put p (.file "") else w.tree
    let w := { w with tree }
    let f : OpenFile := { place := p, appends := how = .appending }
    return ({ w with files := w.files.push f }, .file w.files.size)

/-- Opens the file that a path leads to from a directory. -/
def openPath (w : World) (channels : Channels) (directory : Place) (p : Path) (how : Opening) :
    Except OsError (World × Channel) := do
  match ← (w.treeAt directory).follow p with
  | .directory place => w.openAt channels place false how
  | .entry d name slash => w.openAt channels (d ++ [name]) slash how

end World

end Patchbay
