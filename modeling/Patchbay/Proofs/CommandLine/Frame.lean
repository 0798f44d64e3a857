import Patchbay.Proofs.CommandLine.Compile
import Patchbay.Proofs.Files.Frame

/-!
# Files that a compilation leaves alone

A compilation to a file writes nothing but its output. The preset that it reads and all other
presets stay as they are, unless one of them is the output or the temporary file beside it.
-/

namespace Patchbay.CommandLine

open FileTree (Spares)

variable {ids : Nat → String} {t : FileTree} {config : Config} {path : Path} {o : CompileOptions}

/-- The paths that a compilation to a file writes to. -/
def writtenPaths (config : Config) (path : Path) (o : CompileOptions) : List Path :=
  match outputOf config path o with
  | .ok output => [output, output.temporary]
  | .error _ => []

/-- A compilation that writes at all writes to the output that is asked for. -/
lemma compileFile_spares (ids : Nat → String) (t : FileTree) (config : Config) (path : Path)
    (o : CompileOptions) :
    t.Spares (compileFile ids t config path o).2 (writtenPaths config path o) := by
  cases hpreset : compilePreset ids t config path o with
  | error e =>
    rw [compileFile_of_error hpreset]
    exact .refl t _
  | ok x =>
    obtain ⟨compiled, d⟩ := x
    obtain ⟨p, c, -, -, houtput, -⟩ := compilePreset_ok hpreset
    rw [compileFile, hpreset, writtenPaths, houtput]
    exact d.save_spares t compiled.output

/-- Saves and compilations to a file spare all files but those at the path that they write to and at
the temporary file beside it, also when they fail. -/
theorem save_compileFile_spare :
    (∀ (t : FileTree) (p : Path) (d : Document), t.Spares (d.save t p).2 [p, p.temporary]) ∧
    ∀ (ids : Nat → String) (t : FileTree) (config : Config) (path : Path) (o : CompileOptions),
      t.Spares (compileFile ids t config path o).2 (writtenPaths config path o) :=
  ⟨fun t p d => d.save_spares t p, compileFile_spares⟩

/-- A tree with the temporary file of another. -/
def foreignTree : FileTree where
  root := [("x.tmp", .file "mine")]

/-- A path does not lead to a place of another name. -/
lemma not_leadsTo_of_name {t : FileTree} {p : Path} {q : Place} {name other : String}
    (hp : p.segments.getLast? = some name) (hq : q.getLast? = some other)
    (hname : name ∉ ["", other]) : ¬ t.LeadsTo p q := by
  intro h
  rw [List.mem_pair, not_or] at hname
  rw [h.getLast? hp hname.1] at hq
  exact hname.2 (Option.some.inj hq)

/-- A file of another name is neither the output nor the temporary file beside it. -/
lemma not_leadsTo_of_written {t : FileTree} {p output : Path} {q : Place}
    {name temporary other : String} (hp : p ∈ [output, output.temporary])
    (houtput : output.segments.getLast? = some name)
    (htemporary : output.temporary.segments.getLast? = some temporary)
    (hq : q.getLast? = some other) (hname : name ∉ ["", other] ∧ temporary ∉ ["", other]) :
    ¬ t.LeadsTo p q := by
  rcases List.mem_pair.mp hp with rfl | rfl
  · exact not_leadsTo_of_name houtput hq hname.1
  · exact not_leadsTo_of_name htemporary hq hname.2

theorem foreignTree_spared :
    ((Document.blank.save foreignTree ⟨"/y.json"⟩).1 = .ok () ∧
      (Document.blank.save foreignTree ⟨"/y.json"⟩).2.content? ["x.tmp"] = some (.file "mine")) ∧
    (compileFile numberedId noteTree noteConfig ⟨"/note.json"⟩
      { output := some ⟨"/y.json"⟩ }).2.read ⟨"/note.json"⟩ = .ok noteText := by
  have houtput : (Path.segments ⟨"/y.json"⟩).getLast? = some "y.json" := by decide +kernel
  have htemporary : (Path.temporary ⟨"/y.json"⟩).segments.getLast? = some "y.tmp" := by
    decide +kernel
  refine ⟨⟨by decide +kernel, ?_⟩, ?_⟩
  · have hmine : foreignTree.content? ["x.tmp"] = some (.file "mine") := by decide +kernel
    have hspares := save_compileFile_spare.1 foreignTree ⟨"/y.json"⟩ Document.blank
    refine hspares.content _ "mine" hmine fun p hp => ?_
    exact not_leadsTo_of_written hp houtput htemporary rfl (by decide)
  · have hread : noteTree.read ⟨"/note.json"⟩ = .ok noteText := by decide +kernel
    have hpreset : (Path.segments ⟨"/note.json"⟩).getLast? = some "note.json" := by decide +kernel
    have hspares := save_compileFile_spare.2 numberedId noteTree noteConfig ⟨"/note.json"⟩
      { output := some ⟨"/y.json"⟩ }
    refine hspares.read _ noteText hread fun q hq p hp => ?_
    exact not_leadsTo_of_written hp houtput htemporary (hq.getLast? hpreset (by decide))
      (by decide)

/-- A file with the name of the temporary file is lost. -/
theorem not_spared_of_save : ¬ ∀ (t : FileTree) (p : Path) (d : Document) (q : Place) (s : String),
    t.content? q = some (.file s) → ¬ (d.save t p).2.LeadsTo p q →
      (d.save t p).2.content? q = some (.file s) := by
  intro h
  have hmine : foreignTree.content? ["x.tmp"] = some (.file "mine") := by decide +kernel
  have htarget : (Path.segments ⟨"/x.json"⟩).getLast? = some "x.json" := by decide +kernel
  have hlost : (Document.blank.save foreignTree ⟨"/x.json"⟩).2.content? ["x.tmp"] = none := by
    decide +kernel
  have hspared := h foreignTree ⟨"/x.json"⟩ Document.blank _ "mine" hmine
    (not_leadsTo_of_name htarget rfl (by decide))
  rw [hlost] at hspared
  cases hspared

end Patchbay.CommandLine
