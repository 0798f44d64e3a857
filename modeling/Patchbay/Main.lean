import Patchbay.CommandLine
import Patchbay.Simulation

/-!
# The program

Takes a picture of the files that a command can look at, lets the command work on it, and makes the
changes on the disk that the command made in the picture. The programs that services run are
simulated.
-/

namespace Patchbay.Disk

def pathOf (place : Place) : String := "/" ++ "/".intercalate place

/-- The place that a path names, where no part of it leads back. -/
def placeOf (workingDirectory : Place) (p : Path) : Place :=
  (if p.isAbsolute then [] else workingDirectory) ++
    p.segments.filter fun segment => segment ≠ "" ∧ segment ≠ "."

/-- What stands at a place of the disk, a directory as if it were empty. -/
def entryAt (place : Place) : IO (Option Entry) := do
  let file := (← IO.currentDir) / pathOf place
  if ← file.isDir then return some (.directory [])
  else if ← file.pathExists then
    try return some (.file (← IO.FS.readFile file)) catch _ => return none
  else return none

/-- The picture with a place of the disk and the places above it. -/
def picture (t : FileTree) (place : Place) : IO FileTree :=
  (List.range place.length).foldlM (fun t k => do
    let place := place.take (k + 1)
    match t.content? place, ← entryAt place with
    | none, some e => return t.put place e
    | _, _ => return t) t

/-- The picture with the places of paths. -/
def pictureOf (t : FileTree) (paths : List Path) : IO FileTree :=
  paths.foldlM (fun t p => picture t (placeOf t.workingDirectory p)) t

/-- Makes the changes from one picture to another, directories first. -/
def change (before after : FileTree) : IO Unit := do
  let new := after.listing.filter fun (place, content) => before.content? place ≠ some content
  for (place, content) in new.mergeSort fun a b => a.1.length ≤ b.1.length do
    match content with
    | .directory => IO.FS.createDir (pathOf place)
    | .file text => IO.FS.writeFile (pathOf place) text
  for (place, content) in before.listing do
    if content ≠ .directory ∧ after.content? place = none then
      IO.FS.removeFile (pathOf place)

def environment : IO Environment := do
  let text ← IO.FS.readFile "/proc/self/environ"
  let entries := (Text.splitAt '\x00' text.toList).map fun entry =>
    let (name, value) := entry.span (· ≠ '=')
    (String.ofList name, String.ofList (value.drop 1))
  return { bindings := entries }

/-- An id that no one else gives out. -/
def freshId (seed n : Nat) : String :=
  let hex (count k : Nat) : String :=
    let ds := List.replicate count '0' ++ Nat.toDigits 16 k
    String.ofList (ds.drop (ds.length - count))
  hex 8 seed ++ "-" ++ hex 4 (seed / 0x100000000) ++ "-4" ++ hex 3 (seed / 0x1000000000000) ++
    "-8" ++ hex 3 (seed / 0x1000000000000000) ++ "-" ++ hex 12 n

/-- The paths that an invocation can look at. -/
def pathsOf (t : FileTree) (env : Environment) (requested : Option Path)
    (action : CommandLine.Command) : List Path :=
  match Config.load t env requested with
  | .error _ => []
  | .ok (c, _) =>
    let own :=
      match action with
      | .compile preset options _ =>
        let output := (CommandLine.outputOf c preset options).toOption.toList
        preset :: output ++ output.map Path.temporary
      | .run => [c.engine.program, c.relay.program, c.relay.script]
      | .config => []
    c.paths.all ++ own

end Patchbay.Disk

open Patchbay Disk in
/-- Runs the program, and makes the changes on the disk that come of it. -/
def main (arguments : List String) : IO UInt32 := do
  let env ← environment
  let here := placeOf [] ⟨toString (← IO.currentDir)⟩
  let t ← picture { root := [], workingDirectory := here } here
  let invocation := CommandLine.Invocation.ofArguments arguments
  let t ← match invocation with
    | .command requested action => do
      let files := Config.systemFile :: Config.localFile ::
        ((Config.userFile? env).toList ++ requested.toList)
      let t ← pictureOf t files
      let t ← pictureOf t (pathsOf t env requested action)
      pure (if action matches .run then Program.install t else t)
    | _ => pure t
  let seed ← IO.rand 0 0xffffffffffffffffff
  let outcome := invocation.run Simulation.host (freshId seed) t env
  change t outcome.tree
  IO.print outcome.output
  IO.eprint outcome.errorOutput
  return outcome.code.toUInt32
