import Patchbay.CommandLine.Compile
import Patchbay.Proofs.Annotate.Carried
import Patchbay.Proofs.Annotate.RoundTrip
import Patchbay.Proofs.Engine.Reuse
import Patchbay.Proofs.Files.Saving

/-!
# Compiling a preset to a file

Nothing is touched before the preset is loaded and compiled. The file that is written then is a
preset with the same graph and with the ids of the engine, and compiling it tells the same again.
-/

namespace Patchbay

open Json (Number)

/-! ### Loading -/

/-- A preset is a document together with the graph that it is built to. -/
lemma Preset.parse_eq_ok_iff {text : String} {p : Preset} :
    parse text = .ok p ↔ Document.parse text = .ok p.document ∧
      Graph.build p.document = .ok p.graph := by
  rw [parse, bind_eq_ok_iff]
  constructor
  · rintro ⟨d, hd, hp⟩
    obtain ⟨g, hg, hp⟩ := bind_eq_ok_iff.mp (mapError_eq_ok_iff.mp hp)
    cases hp
    exact ⟨mapError_eq_ok_iff.mp hd, hg⟩
  · rintro ⟨hd, hg⟩
    exact ⟨_, mapError_eq_ok_iff.mpr hd,
      mapError_eq_ok_iff.mpr (bind_eq_ok_iff.mpr ⟨_, hg, rfl⟩)⟩

lemma Preset.load_eq_ok_iff {t : FileTree} {path : Path} {p : Preset} :
    load t path = .ok p ↔ ∃ text, t.read path = .ok text ∧ parse text = .ok p := by
  rw [load, bind_eq_ok_iff]
  simp only [mapError_eq_ok_iff]

namespace CommandLine

variable {ids : Nat → String} {t t' : FileTree} {config : Config} {path : Path}
  {o : CompileOptions}

/-! ### Failures -/

lemma compileFile_of_error {e : CompileFailure} (h : compilePreset ids t config path o = .error e) :
    compileFile ids t config path o = (.error e, t) := by
  rw [compileFile, h]

lemma compilePreset_of_load_error {e : LoadError} (h : Preset.load t path = .error e) :
    compilePreset ids t config path o = .error (.load path e) := by
  rw [compilePreset, h]
  rfl

/-- A preset that is loaded is compiled for a fresh engine, and then it is decided where it goes. -/
lemma compilePreset_of_load {p : Preset} (h : Preset.load t path = .ok p) :
    compilePreset ids t config path o = do
      let c ← (compile (VirtualEngine.engine ids) p.graph
        (compileEngine ids config o)).1.mapError (.compile path)
      let output ← outputOf config path o
      return (⟨c.report, output⟩, p.annotated c) := by
  rw [compilePreset, h]
  rfl

lemma compilePreset_of_compile_error {p : Preset} {e : CompileError}
    (hload : Preset.load t path = .ok p) (h : (compile (VirtualEngine.engine ids) p.graph
      (compileEngine ids config o)).1 = .error e) :
    compilePreset ids t config path o = .error (.compile path e) := by
  rw [compilePreset_of_load hload, h]
  rfl

/-- A preset that is compiled was loaded, and its place is known. -/
lemma compilePreset_ok {compiled : Compiled} {d : Document}
    (h : compilePreset ids t config path o = .ok (compiled, d)) :
    ∃ p c, Preset.load t path = .ok p ∧ (compile (VirtualEngine.engine ids) p.graph
        (compileEngine ids config o)).1 = .ok c ∧
      outputOf config path o = .ok compiled.output ∧ compiled.report = c.report ∧
      d = p.annotated c := by
  cases hload : Preset.load t path with
  | error e =>
    rw [compilePreset_of_load_error hload] at h
    cases h
  | ok p =>
    rw [compilePreset_of_load hload] at h
    obtain ⟨c, hc, h⟩ := bind_eq_ok_iff.mp h
    obtain ⟨output, houtput, h⟩ := bind_eq_ok_iff.mp h
    cases h
    exact ⟨p, c, rfl, mapError_eq_ok_iff.mp hc, houtput, rfl, rfl⟩

/-- If not even the write is tried then nothing changes. -/
lemma compileFile_unchanged {e : CompileFailure}
    (h : (compileFile ids t config path o).1 = .error e)
    (hsave : ∀ output err, e ≠ .save output err) : (compileFile ids t config path o).2 = t := by
  cases hpreset : compilePreset ids t config path o with
  | error e' => rw [compileFile_of_error hpreset]
  | ok x =>
    obtain ⟨compiled, d⟩ := x
    rw [compileFile, hpreset] at h
    dsimp only at h
    cases hresult : (d.save t compiled.output).1 with
    | ok _ =>
      rw [hresult] at h
      cases h
    | error err =>
      rw [hresult] at h
      cases h
      exact (hsave _ _ rfl).elim

/-- A file is compiled only if the copy was saved. -/
lemma compileFile_ok {compiled : Compiled}
    (h : compileFile ids t config path o = (.ok compiled, t')) :
    ∃ d, compilePreset ids t config path o = .ok (compiled, d) ∧
      d.save t compiled.output = (.ok (), t') := by
  cases hpreset : compilePreset ids t config path o with
  | error e =>
    rw [compileFile_of_error hpreset] at h
    cases h
  | ok x =>
    obtain ⟨compiled', d⟩ := x
    rw [compileFile, hpreset] at h
    obtain ⟨hresult, rfl⟩ := Prod.mk.inj h
    obtain ⟨⟨⟩, hsave, rfl⟩ := map_eq_ok_iff.mp hresult
    exact ⟨d, rfl, Prod.ext (mapError_eq_ok_iff.mp hsave) rfl⟩

/-! ### What is written -/

/-- A preset with the ids of the engine that it was compiled for, which is compiled again as the one
that it was made from: on every other engine with as many physical ports the same is reported. -/
structure Recompiles (ids : Nat → String) (config : Config) (o : CompileOptions) (p p' : Preset)
    (report : Report) : Prop where
  graph : p'.graph = p.graph
  carries : p'.document.Carries
    (compile (VirtualEngine.engine ids) p.graph (compileEngine ids config o)).2 none
  again : ∀ ids', VirtualEngine.Names ids' → ∃ c, (compile (VirtualEngine.engine ids') p'.graph
    (compileEngine ids' config o)).1 = .ok c ∧ c.report = report

/-- A compiled preset is read from its text, and compiled again as it was. -/
lemma annotated_recompiles {text : String} {p : Preset} (hp : Preset.parse text = .ok p)
    (hids : VirtualEngine.Names ids)
    (hfloats : ∀ x ∈ p.document.toJson.floats, (Number.float x).ReadsBack) {c : Compilation}
    (hc : (compile (VirtualEngine.engine ids) p.graph (compileEngine ids config o)).1 = .ok c) :
    Preset.parse (p.annotated c).text = .ok ⟨p.annotated c, p.graph⟩ ∧
      Recompiles ids config o p ⟨p.annotated c, p.graph⟩ c.report := by
  obtain ⟨hdocument, hbuild⟩ := Preset.parse_eq_ok_iff.mp hp
  have hg := Graph.build_wellFormed hbuild
  have hcomplete := compile_complete hg hc
  have hstored := (Document.stored_of_parse hdocument hfloats).annotate hbuild hcomplete
  refine ⟨Preset.parse_eq_ok_iff.mpr ⟨hstored.parse_text, Graph.build_annotate hbuild hcomplete⟩,
    rfl, ?_, fun ids' hids' => compile_fresh_again hg hids hids' hc⟩
  obtain ⟨s, hbuilt, hbindings, hengine⟩ := exists_built hg hids.toDistinct hc
  have hcarries := Document.annotate_carries hbuild hbuilt
  rwa [hbindings, hengine] at hcarries

/-- A compilation to a file does all or nothing: it fails without a trace unless it is the write
that fails, and if it succeeds then the preset in the written file is like the one that was read. -/
structure AllOrNothing (ids : Nat → String) (t : FileTree) (config : Config) (path : Path)
    (o : CompileOptions) (result : Except CompileFailure Compiled × FileTree) : Prop where
  load : ∀ e, Preset.load t path = .error e → result = (.error (.load path e), t)
  compile : ∀ p e, Preset.load t path = .ok p → (compile (VirtualEngine.engine ids) p.graph
    (compileEngine ids config o)).1 = .error e → result = (.error (.compile path e), t)
  unchanged : ∀ e, result.1 = .error e → (∀ output err, e ≠ .save output err) → result.2 = t
  output : ∀ compiled, result.1 = .ok compiled → o.output = some compiled.output ∨
    o.output = none ∧ ∃ name, path.fileName? = some name ∧
      compiled.output = config.paths.activeDirectory.join ⟨name⟩
  written : ∀ compiled, result.1 = .ok compiled → ∃ p p', Preset.load t path = .ok p ∧
    Preset.load result.2 compiled.output = .ok p' ∧ Recompiles ids config o p p' compiled.report

/-- A preset is compiled to a file, or no file is touched before the write. -/
theorem compileFile_allOrNothing (hids : VirtualEngine.Names ids) (t : FileTree) (config : Config)
    (path : Path) (o : CompileOptions)
    (hfloats : ∀ p, Preset.load t path = .ok p →
      ∀ x ∈ p.document.toJson.floats, (Number.float x).ReadsBack) :
    AllOrNothing ids t config path o (compileFile ids t config path o) where
  load e h := compileFile_of_error (compilePreset_of_load_error h)
  compile p e hload h := compileFile_of_error (compilePreset_of_compile_error hload h)
  unchanged e h hsave := compileFile_unchanged h hsave
  output := by
    intro compiled h
    obtain ⟨d, hpreset, -⟩ := compileFile_ok (Prod.ext h rfl)
    obtain ⟨p, c, -, -, houtput, -⟩ := compilePreset_ok hpreset
    rw [outputOf] at houtput
    split at houtput
    · exact .inl (Except.ok.inj houtput ▸ ‹_›)
    · exact .inr ⟨‹_›, _, ‹_›, (Except.ok.inj houtput).symm⟩
    · cases houtput
  written := by
    intro compiled h
    obtain ⟨d, hpreset, hsave⟩ := compileFile_ok (Prod.ext h rfl)
    obtain ⟨p, c, hload, hc, -, hreport, rfl⟩ := compilePreset_ok hpreset
    obtain ⟨text, -, hparse⟩ := Preset.load_eq_ok_iff.mp hload
    obtain ⟨hparse', hrecompiles⟩ := annotated_recompiles hparse hids (hfloats p hload) hc
    refine ⟨p, _, hload, ?_, hreport ▸ hrecompiles⟩
    exact Preset.load_eq_ok_iff.mpr ⟨_, Document.read_save hsave, hparse'⟩

def noteTree : FileTree where
  root := [("note.json", .file noteText)]

/-- A configuration whose directories are missing there. -/
def noteConfig : Config where
  paths := { configDirectory := ⟨"/c"⟩ }

def noteOutput : Path := ⟨"/c/preset_active/note.json"⟩

lemma noteTree_load {g : Graph} (hg : Graph.build note = .ok g) :
    Preset.load noteTree ⟨"/note.json"⟩ = .ok ⟨note, g⟩ := by
  have hread : noteTree.read ⟨"/note.json"⟩ = .ok noteText := by decide +kernel
  exact Preset.load_eq_ok_iff.mpr
    ⟨_, hread, Preset.parse_eq_ok_iff.mpr ⟨noteText_parse, hg⟩⟩

lemma noteTree_outputOf : outputOf noteConfig ⟨"/note.json"⟩ {} = .ok noteOutput := by
  have hname : Path.fileName? ⟨"/note.json"⟩ = some "note.json" := by decide +kernel
  have hjoin : noteConfig.paths.activeDirectory.join ⟨"note.json"⟩ = noteOutput := by
    decide +kernel
  simp only [outputOf, hname, hjoin]

theorem noteTree_compileFile : ∃ compiled p p',
    (compileFile numberedId noteTree noteConfig ⟨"/note.json"⟩ {}).1 = .ok compiled ∧
    compiled.output = noteOutput ∧ Preset.load noteTree ⟨"/note.json"⟩ = .ok p ∧
    Preset.load (compileFile numberedId noteTree noteConfig ⟨"/note.json"⟩ {}).2 noteOutput
      = .ok p' ∧ Recompiles numberedId noteConfig {} p p' compiled.report := by
  obtain ⟨g, hg, c, hc, hsave⟩ : ∃ g, Graph.build note = .ok g ∧
      ∃ c, (compile (VirtualEngine.engine numberedId) g
          (compileEngine numberedId noteConfig {})).1 = .ok c ∧
        (Document.save noteTree noteOutput (note.annotate g c.bindings)).1 = .ok () := by
    refine ⟨_, rfl, _, rfl, ?_⟩
    decide +kernel
  have hload := noteTree_load hg
  have hresult : (compileFile numberedId noteTree noteConfig ⟨"/note.json"⟩ {}).1
      = .ok ⟨c.report, noteOutput⟩ := by
    -- loading and compiling are computed apart, so that neither text is computed twice
    have hpreset : compilePreset numberedId noteTree noteConfig ⟨"/note.json"⟩ {}
        = .ok (⟨c.report, noteOutput⟩, note.annotate g c.bindings) := by
      rw [compilePreset_of_load hload, hc, noteTree_outputOf]
      rfl
    rw [compileFile, hpreset]
    dsimp only
    rw [hsave]
    rfl
  have hall := compileFile_allOrNothing VirtualEngine.numberedId_names noteTree noteConfig
    ⟨"/note.json"⟩ {} ?_
  · obtain ⟨p, p', hp, hp', hrecompiles⟩ := hall.written _ hresult
    exact ⟨_, p, p', hresult, rfl, hp, hp', hrecompiles⟩
  · intro p hp
    obtain rfl := Except.ok.inj (hload.symm.trans hp)
    have hfloats : note.toJson.floats = [⟨false, 0x3ff8000000000000⟩] := rfl
    simp [hfloats, note_zoom_readsBack]

end CommandLine

end Patchbay
