import Patchbay.Text.Split

/-!
# Paths

A path is a text; slashes separate its segments. Its components are the segments that count: an
empty segment never does, and `.` does only where it begins a relative path. A path keeps the text
it was given, so that messages show what the user wrote.
-/

namespace Patchbay

/-- A path to a file or directory. -/
structure Path where
  text : String
deriving DecidableEq, Repr

namespace Path

inductive Component where
  /-- The directory above all others. -/
  | root
  /-- The working directory. -/
  | here
  /-- The directory above. -/
  | up
  | name (n : String)
deriving DecidableEq, Repr

/-- Whether a path does not depend on the working directory. -/
def isAbsolute (p : Path) : Bool := p.text.toList.head? = some '/'

def segments (p : Path) : List String := (Text.splitAt '/' p.text.toList).map String.ofList

/-- The component that a segment is, unless it does not count. -/
def Component.ofSegment? (s : String) : Option Component :=
  if s = "" ∨ s = "." then none else if s = ".." then some .up else some (.name s)

def components (p : Path) : List Component :=
  let named := p.segments.filterMap Component.ofSegment?
  if p.isAbsolute then .root :: named
  else if p.segments.head? = some "." then .here :: named
  else named

def Component.text : Component → String
  | root => ""
  | here => "."
  | up => ".."
  | name n => n

def ofComponents : List Component → Path
  | [.root] => ⟨"/"⟩
  | cs => ⟨"/".intercalate (cs.map Component.text)⟩

/-- The path to where the last component is; neither the empty path nor the root has one. -/
def parent? (p : Path) : Option Path :=
  match p.components.reverse with
  | [] | .root :: _ => none
  | _ :: above => some (ofComponents above.reverse)

/-- The name that a path ends in, if it ends in one. -/
def fileName? (p : Path) : Option String :=
  match p.components.getLast? with
  | some (.name n) => some n
  | _ => none

/-- The path that leads on from a path. An absolute path leads away from it. -/
def join (p q : Path) : Path :=
  if q.isAbsolute ∨ p.text = "" then q
  else if p.text.toList.getLast? = some '/' then ⟨p.text ++ q.text⟩
  else ⟨p.text ++ "/" ++ q.text⟩

/-! ### Extensions -/

/-- A name before and after its last dot. A dot at the start of a name begins no extension. -/
def splitExtension (name : String) : String × Option String :=
  let after := name.toList.reverse.takeWhile (· ≠ '.')
  let before := (name.toList.reverse.dropWhile (· ≠ '.')).drop 1
  if before = [] then (name, none)
  else (String.ofList before.reverse, some (String.ofList after.reverse))

/-- What follows the last component in a reversed text: slashes, and segments that do not count. -/
def dropTail : List Char → List Char
  | '/' :: cs => dropTail cs
  | '.' :: '/' :: cs => dropTail cs
  | cs => cs

/-- The path with another extension after its name. A path that ends in no name stays. -/
def setExtension (p : Path) (extension : String) : Path :=
  match p.fileName? with
  | none => p
  | some name =>
    let body := (dropTail p.text.toList.reverse).reverse
    let directory := body.take (body.length - name.length)
    ⟨String.ofList directory ++ (splitExtension name).1 ++ "." ++ extension⟩

/-- The path with another extension in place of its own: as many characters as its own extension
has are taken off the end, then the extension is set. -/
def withExtension (p : Path) (extension : String) : Path :=
  match p.fileName?.bind fun name => (splitExtension name).2 with
  | none => p.setExtension extension
  | some old => Path.setExtension ⟨(p.text.dropEnd old.length).toString⟩ extension

end Path

end Patchbay
