import Patchbay.Annotate
import Patchbay.Compile
import Patchbay.Document.Printer
import Patchbay.Document.Reading
import Patchbay.Files.Tree
import Patchbay.Graph.Build

/-!
# Presets

A preset is a document together with its graph. It is loaded from a file, and a compiled one is
saved in three steps: the directories above the file are created, the text goes into a temporary
file beside it, and this file takes the place of the other. So the file holds at any time either
its old text or the whole new one.
-/

namespace Patchbay

/-- Why a preset cannot be loaded. -/
inductive LoadError where
  | io (path : Path) (error : OsError)
  | text (error : Json.ReadError)
  | graph (error : GraphError)

def Json.ReadError.message : Json.ReadError → String
  | .fault .ended => "the text ended too early"
  | .fault .malformed => "the text is malformed"
  | .shape e => e.message

def LoadError.message : LoadError → String
  | .io path e => s!"failed to read preset {path.text}: {e.message}"
  | .text e => "malformed preset document: " ++ e.message
  | .graph e => e.message

/-- A document and the graph that it describes. -/
structure Preset where
  document : Document
  graph : Graph

namespace Preset

/-- The preset of a document. -/
def ofDocument (d : Document) : Except GraphError Preset := do
  return ⟨d, ← Graph.build d⟩

def parse (text : String) : Except LoadError Preset := do
  let d ← (Document.parse text).mapError .text
  (ofDocument d).mapError .graph

def load (t : FileTree) (p : Path) : Except LoadError Preset := do
  parse (← (t.read p).mapError (.io p))

/-- The document with the ids of a compilation. -/
def annotated (p : Preset) (c : Compilation) : Document := p.document.annotate p.graph c.bindings

end Preset

/-! ### Saving -/

/-- A step of saving a file. -/
inductive SaveStep where
  | makeDirectories (path : Path)
  | write (path : Path) (text : String)
  | rename (source target : Path)
deriving DecidableEq, Repr

/-- What a step does. -/
def SaveStep.run (t : FileTree) : SaveStep → FileTree.Outcome
  | .makeDirectories p => t.makeDirectories p
  | .write p text => t.attempt (t.write p text)
  | .rename p q => t.attempt (t.rename p q)

/-- Takes steps one after the other until one fails. -/
def runSteps (t : FileTree) : List SaveStep → FileTree.Outcome
  | [] => (.ok (), t)
  | step :: steps =>
    match step.run t with
    | (.ok (), t) => runSteps t steps
    | (.error e, t) => (.error e, t)

/-- The temporary file beside a file. -/
def Path.temporary (p : Path) : Path := p.withExtension "tmp"

/-- The steps of saving a text. -/
def saveSteps (p : Path) (text : String) : List SaveStep :=
  (p.parent?.map .makeDirectories).toList ++
    [.write p.temporary text, .rename p.temporary p]

/-- The error of a file that could not be saved. -/
structure SaveError where
  path : Path
  error : OsError
deriving DecidableEq, Repr

def SaveError.message (e : SaveError) : String :=
  s!"failed to write preset {e.path.text}: {e.error.message}"

def Document.save (t : FileTree) (p : Path) (d : Document) : Except SaveError Unit × FileTree :=
  let (result, t) := runSteps t (saveSteps p d.text)
  (result.mapError (⟨p, ·⟩), t)

end Patchbay
