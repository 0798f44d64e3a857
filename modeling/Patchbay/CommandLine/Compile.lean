import Patchbay.CommandLine.Arguments
import Patchbay.Config.Basic
import Patchbay.Engine.Virtual
import Patchbay.Preset

/-!
# Compiling a preset from a file

The preset is compiled on an engine of its own, which has as many main inputs and outputs as the
options or else the configuration say. Its copy with the ids of the engine is written where the
options say, or else under the preset's own name in the directory of compiled presets.
-/

namespace Patchbay.CommandLine

/-- Why a preset is not compiled to a file. -/
inductive CompileFailure where
  | load (preset : Path) (error : LoadError)
  | compile (preset : Path) (error : CompileError)
  /-- The path of the preset ends in no name for the copy. -/
  | noFileName (preset : Path)
  | save (output : Path) (error : SaveError)

def CompileFailure.message : CompileFailure → String
  | .load p _ => s!"Failed to load preset {p.text}"
  | .compile p _ => s!"Failed to compile preset {p.text}"
  | .noFileName p => s!"Preset path {p.text} has no file name"
  | .save p _ => s!"Failed to write compiled preset {p.text}"

structure Compiled where
  report : Report
  output : Path

/-- The engine that a preset is compiled on. The `n`-th id that it gives out is `ids n`. -/
def compileEngine (ids : Nat → String) (c : Config) (o : CompileOptions) : VirtualEngine :=
  .new ids (o.mainInputs.getD c.engine.inputChannels.toNat)
    (o.mainOutputs.getD c.engine.outputChannels.toNat) []

/-- Where a compiled preset is written. -/
def outputOf (c : Config) (preset : Path) (o : CompileOptions) : Except CompileFailure Path :=
  match o.output, preset.fileName? with
  | some output, _ => .ok output
  | none, some name => .ok (c.paths.activeDirectory.join ⟨name⟩)
  | none, none => .error (.noFileName preset)

def compilePreset (ids : Nat → String) (t : FileTree) (c : Config) (preset : Path)
    (o : CompileOptions) : Except CompileFailure (Compiled × Document) := do
  let p ← (Preset.load t preset).mapError (.load preset)
  let (result, _) := compile (VirtualEngine.engine ids) p.graph (compileEngine ids c o)
  let compilation ← result.mapError (.compile preset)
  let output ← outputOf c preset o
  return (⟨compilation.report, output⟩, p.annotated compilation)

def compileFile (ids : Nat → String) (t : FileTree) (c : Config) (preset : Path)
    (o : CompileOptions) : Except CompileFailure Compiled × FileTree :=
  match compilePreset ids t c preset o with
  | .error e => (.error e, t)
  | .ok (compiled, d) =>
    let (result, t) := d.save t compiled.output
    (result.mapError (.save compiled.output) |>.map fun _ => compiled, t)

end Patchbay.CommandLine
