import Patchbay.Simulation.Programs.Concatenate
import Patchbay.Simulation.Programs.Condition
import Patchbay.Simulation.Programs.Copying
import Patchbay.Simulation.Programs.Counting
import Patchbay.Simulation.Programs.Creating
import Patchbay.Simulation.Programs.Expr
import Patchbay.Simulation.Programs.Grep
import Patchbay.Simulation.Programs.Lines
import Patchbay.Simulation.Programs.Listing
import Patchbay.Simulation.Programs.Paths
import Patchbay.Simulation.Programs.Printing
import Patchbay.Simulation.Programs.Sed.Editor
import Patchbay.Simulation.Programs.Sorting
import Patchbay.Simulation.Programs.Starting
import Patchbay.Simulation.Programs.Surroundings
import Patchbay.Simulation.Programs.Translate
import Patchbay.Simulation.Shell.Evaluation

/-!
# All programs

What a path leads to when it is started: one of the programs that every system has, or a script
that its first line says how to run.
-/

namespace Patchbay.Program

def works (launch : Launch) : List (String × Work) :=
  open Programs in
  [("[", test true), ("basename", basename), ("cat", cat), ("chmod", chmod), ("cmp", cmp),
    ("cp", cp), ("cut", cut), ("dirname", dirname), ("echo", echo), ("egrep", grep ['E']),
    ("env", env launch), ("expr", Expr.work), ("false", answering 1), ("fgrep", grep ['F']),
    ("find", find), ("fold", fold), ("grep", grep []), ("head", head), ("id", id), ("kill", kill),
    ("ln", ln), ("ls", ls), ("mkdir", mkdir), ("mv", mv), ("nice", nice launch), ("nl", nl),
    ("nohup", nohup launch), ("paste", paste), ("printenv", printenv), ("printf", printf),
    ("pwd", pwd), ("readlink", readlink), ("realpath", realpath), ("rev", rev), ("rm", rm),
    ("rmdir", rmdir), ("sed", Sed.work), ("seq", seq), ("setsid", setsid launch),
    ("sleep", sleep), ("sort", sort), ("sync", answering 0), ("tac", tac), ("tail", tail),
    ("tee", tee), ("test", test false), ("timeout", timeout launch), ("touch", touch), ("tr", tr),
    ("true", answering 0), ("tty", tty), ("uname", uname), ("uniq", uniq), ("unlink", unlink),
    ("wc", wc), ("which", which), ("whoami", whoami), ("xargs", xargs launch), ("yes", yes)]

def process? (launch : Launch) (name : String) (c : Context) : Option Process :=
  if ["sh", "dash", "bash"].contains name then some (Shell.process launch c)
  else
    ((works launch).lookup name).map fun work =>
      .pauses 500 fun _ => work c fun code => .ends (.ofCode (UInt8.ofNat code))

/-- The interpreter that the first line of a script names, with an argument. -/
def interpreter? (text : String) : Option (String × List String) :=
  match text.toList with
  | '#' :: '!' :: s =>
    let line := (s.takeWhile (· ≠ '\n')).dropWhile fun c => c = ' ' || c = '\t'
    let (path, rest) := line.span fun c => c ≠ ' ' && c ≠ '\t'
    let argument := ((rest.dropWhile fun c => c = ' ' || c = '\t').reverse.dropWhile fun c =>
      c = ' ' || c = '\t').reverse
    some (String.ofList path, if argument.isEmpty then [] else [String.ofList argument])
  | _ => none

/-- The process of what a path leads to. -/
def launch : Nat → Launch
  | 0, _, _, _ => .error .notFound
  | fuel + 1, w, p, c => do
    match ← (w.treeAt c.directory).locate p with
    | (_, .directory _) => throw .permissionDenied
    | (place, .file text) =>
      match (name? place).bind fun name => process? (launch fuel) name c with
      | some process => return process
      | none =>
        if ¬ w.canRun place then throw .permissionDenied
        let (path, arguments) := (interpreter? text).getD ("/bin/sh", [])
        launch fuel w ⟨path⟩
          { c with name := path, arguments := arguments ++ p.text :: c.arguments }

def depth : Nat := 100000

end Patchbay.Program
