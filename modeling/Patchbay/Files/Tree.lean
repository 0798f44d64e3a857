import Patchbay.Files.Path
import Patchbay.Text.Keyed

/-!
# File trees

The files and directories that a program works on. A path is followed from the root or from the
working directory, one segment after the other; each segment but the last has to be a directory.
The operations fail for the reasons, and with the messages, of the operating system.

A name in a directory stands for a file with its text or for a directory, and for nothing else.
Symbolic links are left out, so `..` always leads to the directory that holds the one before it.
Hard links are left out too, so a file stands at one place and a change to it shows nowhere else.
-/

namespace Patchbay

/-- Why an operation on files or programs fails. -/
inductive OsError where
  | notFound
  | permissionDenied
  | busy
  | exists
  | notDirectory
  | isDirectory
  | invalid
  | nameTooLong
  | notEmpty
  /-- A path holds a null character. -/
  | nullInName
  /-- The name or an argument of a program holds a null character. -/
  | nullInCommand
deriving DecidableEq, Repr

namespace OsError

/-- What went wrong, and the number that the system has for it, if it has one. -/
def description : OsError → String × Option Nat
  | notFound => ("No such file or directory", some 2)
  | permissionDenied => ("Permission denied", some 13)
  | busy => ("Device or resource busy", some 16)
  | .exists => ("File exists", some 17)
  | notDirectory => ("Not a directory", some 20)
  | isDirectory => ("Is a directory", some 21)
  | invalid => ("Invalid argument", some 22)
  | nameTooLong => ("File name too long", some 36)
  | notEmpty => ("Directory not empty", some 39)
  | nullInName => ("file name contained an unexpected NUL byte", none)
  | nullInCommand => ("nul byte found in provided data", none)

def text (e : OsError) : String := e.description.1

def message (e : OsError) : String :=
  match e.description with
  | (text, some number) => s!"{text} (os error {number})"
  | (text, none) => text

end OsError

/-- What stands under a name. The names in a directory are in ascending order. -/
inductive Entry where
  | file (text : String)
  | directory (entries : List (String × Entry))
deriving Repr, Inhabited

/-- What stands at a place, without what a directory holds. -/
inductive Content where
  | directory
  | file (text : String)
deriving DecidableEq, Repr

/-- Names from the root on. -/
abbrev Place := List String

namespace Entry

/-- What an entry is, without what a directory holds. -/
def content : Entry → Content
  | .file text => .file text
  | .directory _ => .directory

/-- The entry at a place below an entry. -/
def at? : Entry → Place → Option Entry
  | e, [] => some e
  | .file _, _ :: _ => none
  | .directory es, name :: rest =>
    match Keyed.get? name es with
    | some e => e.at? rest
    | none => none

/-- The entries of a directory with something put at a place below it. Nothing changes unless the
place lies in a directory. -/
def put (e : Entry) : Place → List (String × Entry) → List (String × Entry)
  | [], es => es
  | [name], es => Keyed.insert name e es
  | name :: rest, es =>
    match Keyed.get? name es with
    | some (.directory inner) => Keyed.insert name (.directory (put e rest inner)) es
    | _ => es

/-- The entries of a directory without what stands at a place below it. -/
def remove : Place → List (String × Entry) → List (String × Entry)
  | [], es => es
  | [name], es => Keyed.erase name es
  | name :: rest, es =>
    match Keyed.get? name es with
    | some (.directory inner) => Keyed.insert name (.directory (remove rest inner)) es
    | _ => es

mutual

/-- An entry at a place and all below it. -/
def listing (place : Place) : Entry → List (Place × Content)
  | .file text => [(place, .file text)]
  | .directory es => (place, .directory) :: listingBelow place es

/-- All that entries at a place hold. -/
def listingBelow (place : Place) : List (String × Entry) → List (Place × Content)
  | [] => []
  | (name, e) :: es => e.listing (place ++ [name]) ++ listingBelow place es

end

end Entry

/-- Files and directories. -/
structure FileTree where
  /-- What stands in the root directory. -/
  root : List (String × Entry)
  /-- The place of the working directory. -/
  workingDirectory : Place := []

namespace FileTree

def entry? (t : FileTree) (p : Place) : Option Entry := (Entry.directory t.root).at? p

def content? (t : FileTree) (p : Place) : Option Content := (t.entry? p).map Entry.content

def put (t : FileTree) (p : Place) (e : Entry) : FileTree := { t with root := e.put p t.root }

def remove (t : FileTree) (p : Place) : FileTree := { t with root := Entry.remove p t.root }

/-- All places but the root where something stands, in ascending order. -/
def listing (t : FileTree) : List (Place × Content) := Entry.listingBelow [] t.root

/-! ### Following paths -/

/-- A directory that a path has led to: the names and entries of the directories from it up to the
root, which has no name. -/
abbrev Trail := List (String × List (String × Entry))

def Trail.place (r : Trail) : Place := (r.map Prod.fst).reverse

/-- The entries of a directory that a path has led to. -/
def entriesAt (t : FileTree) : Trail → List (String × Entry)
  | [] => t.root
  | (_, es) :: _ => es

/-- Where a path leads. -/
inductive Target where
  /-- A directory, by a path that does not end in a name. -/
  | directory (place : Place)
  /-- A name in a directory; `slash` says whether a slash follows the name. -/
  | entry (directory : Place) (name : String) (slash : Bool)

/-- The most bytes that a name can have. -/
def maxNameLength : Nat := 255

/-- The most bytes that a path can have. -/
def maxPathLength : Nat := 4095

/-- The directory one segment further. -/
def enter (t : FileTree) (r : Trail) (segment : String) : Except OsError Trail :=
  if segment = "" ∨ segment = "." then .ok r
  else if segment = ".." then .ok (r.drop 1)
  else if maxNameLength < segment.utf8ByteSize then .error .nameTooLong
  else
    match Keyed.get? segment (t.entriesAt r) with
    | none => .error .notFound
    | some (.directory es) => .ok ((segment, es) :: r)
    | some (.file _) => .error .notDirectory

/-- Follows the segments of a path, of which at least one is not empty. -/
def followFrom (t : FileTree) (r : Trail) : List String → Except OsError Target
  | [] => .ok (.directory r.place)
  | segment :: rest =>
    if rest.all (· = "") ∧ segment ≠ "" then
      if segment = "." then .ok (.directory r.place)
      else if segment = ".." then .ok (.directory (Trail.place (r.drop 1)))
      else if maxNameLength < segment.utf8ByteSize then .error .nameTooLong
      else .ok (.entry r.place segment (!rest.isEmpty))
    else do followFrom t (← t.enter r segment) rest

def follow (t : FileTree) (p : Path) : Except OsError Target :=
  if p.text.toList.contains '\x00' then .error .nullInName
  else if p.text = "" then .error .notFound
  else if maxPathLength < p.text.utf8ByteSize then .error .nameTooLong
  else do
    let start ← if p.isAbsolute then pure [] else t.workingDirectory.foldlM t.enter []
    t.followFrom start p.segments

/-! ### Looking -/

def look (t : FileTree) (p : Path) : Except OsError Content := do
  match ← t.follow p with
  | .directory _ => return .directory
  | .entry d name slash =>
    match t.content? (d ++ [name]) with
    | none => throw .notFound
    | some .directory => return .directory
    | some (.file text) => if slash then throw .notDirectory else return .file text

def exists? (t : FileTree) (p : Path) : Bool := (t.look p).isOk

def isDirectory (t : FileTree) (p : Path) : Bool :=
  match t.look p with
  | .ok .directory => true
  | _ => false

/-- The place that a path leads to, and what stands there. -/
def locate (t : FileTree) (p : Path) : Except OsError (Place × Entry) := do
  let place ←
    match ← t.follow p with
    | .directory place => pure place
    | .entry d name slash =>
      match t.entry? (d ++ [name]), slash with
      | some (.file _), true => throw .notDirectory
      | _, _ => pure (d ++ [name])
  match t.entry? place with
  | some e => return (place, e)
  | none => throw .notFound

def namesIn (t : FileTree) (p : Path) : List String :=
  match t.locate p with
  | .ok (_, .directory es) => es.map Prod.fst
  | _ => []

def read (t : FileTree) (p : Path) : Except OsError String := do
  match ← t.look p with
  | .directory => throw .isDirectory
  | .file text => return text

/-! ### Changing -/

def makeDirectory (t : FileTree) (p : Path) : Except OsError FileTree := do
  match ← t.follow p with
  | .directory _ => throw .exists
  | .entry d name _ =>
    match t.content? (d ++ [name]) with
    | some _ => throw .exists
    | none => return t.put (d ++ [name]) (.directory [])

/-- Creates a file with a text, or replaces the text of a file. -/
def write (t : FileTree) (p : Path) (text : String) : Except OsError FileTree := do
  match ← t.follow p with
  | .directory _ => throw .isDirectory
  | .entry d name slash =>
    if slash ∨ t.content? (d ++ [name]) = some .directory then throw .isDirectory
    else return t.put (d ++ [name]) (.file text)

/-- Gives a file another name, in place of the file that has this name. -/
def rename (t : FileTree) (source target : Path) : Except OsError FileTree := do
  let source ← t.follow source
  let target ← t.follow target
  match source, target with
  | .entry d name slash, .entry d' name' slash' =>
    match t.content? (d ++ [name]) with
    | none => throw .notFound
    | some .directory => throw .isDirectory
    | some (.file text) =>
      if slash ∨ slash' then throw .notDirectory
      else if t.content? (d' ++ [name']) = some .directory then throw .isDirectory
      else return (t.remove (d ++ [name])).put (d' ++ [name']) (.file text)
  | _, _ => throw .busy

/-- What a step that can fail leaves behind. -/
abbrev Outcome := Except OsError Unit × FileTree

/-- The outcome of a step that changes nothing when it fails. -/
def attempt (t : FileTree) (step : Except OsError FileTree) : Outcome :=
  match step with
  | .ok t' => (.ok (), t')
  | .error e => (.error e, t)

/-- Creates a directory where it is missing; it may be there already. -/
def makeDirectoryIfMissing (t : FileTree) (p : Path) : Outcome :=
  match t.makeDirectory p with
  | .ok t' => (.ok (), t')
  | .error e => if t.isDirectory p then (.ok (), t) else (.error e, t)

/-- Creates the directory of a path and those it lies in, where they are missing. The components
of the path come from the last to the first. -/
def makeDirectoriesUpTo (t : FileTree) (p : Path) : List Path.Component → Outcome
  | [] => (.ok (), t)
  | c :: above =>
    if p.text = "" then (.ok (), t)
    else
      match t.makeDirectory p with
      | .ok t' => (.ok (), t')
      | .error .notFound =>
        if c = .root then (.error .notFound, t)
        else
          match t.makeDirectoriesUpTo (Path.ofComponents above.reverse) above with
          | (.error e, t') => (.error e, t')
          | (.ok (), t') => t'.makeDirectoryIfMissing p
      | .error e => if t.isDirectory p then (.ok (), t) else (.error e, t)

/-- Creates the directory of a path and those it lies in, where they are missing. -/
def makeDirectories (t : FileTree) (p : Path) : Outcome :=
  t.makeDirectoriesUpTo p p.components.reverse

end FileTree

end Patchbay
