import Patchbay.Preset
import Patchbay.Proofs.Files.Tree

/-!
# Saved documents

A document that was saved is in its file, whatever was there before, and whether or not the file has
the name of its own temporary file.
-/

namespace Patchbay

namespace FileTree

variable {t t' : FileTree} {p : Path} {text : String}

/-- A text is written exactly to a path that leads to an entry that is not a directory. -/
lemma write_eq_ok_iff : t.write p text = .ok t' ↔
    ∃ d name, t.follow p = .ok (.entry d name false) ∧
      t.content? (d ++ [name]) ≠ some .directory ∧ t' = t.put (d ++ [name]) (.file text) := by
  rw [write, bind_eq_ok_iff]
  constructor
  · rintro ⟨_ | ⟨d, name, slash⟩, hfollow, h⟩
    · cases h
    · dsimp only at h
      split_ifs at h with hrefused
      cases h
      obtain ⟨hslash, hfree⟩ := not_or.mp hrefused
      obtain rfl : slash = false := by simpa using hslash
      exact ⟨d, name, hfollow, hfree, rfl⟩
  · rintro ⟨d, name, hfollow, hfree, rfl⟩
    refine ⟨_, hfollow, ?_⟩
    simp only [hfree, Bool.false_eq_true, or_self, if_false]
    rfl

/-- A file that was renamed stands under its new name only. -/
lemma rename_eq_ok {source target : Path} (h : t.rename source target = .ok t') :
    ∃ d name d' name' text, t.follow source = .ok (.entry d name false) ∧
      t.follow target = .ok (.entry d' name' false) ∧
      t.content? (d ++ [name]) = some (.file text) ∧
      t.content? (d' ++ [name']) ≠ some .directory ∧
      t' = (t.remove (d ++ [name])).put (d' ++ [name']) (.file text) := by
  rw [rename] at h
  obtain ⟨x, hsource, h⟩ := bind_eq_ok_iff.mp h
  obtain ⟨y, htarget, h⟩ := bind_eq_ok_iff.mp h
  cases x with
  | directory => cases y <;> cases h
  | entry d name slash =>
    cases y with
    | directory => cases h
    | entry d' name' slash' =>
      dsimp only at h
      split at h
      · cases h
      · cases h
      · rename_i text htext
        split_ifs at h with hslash hfree
        cases h
        obtain ⟨hs, hs'⟩ := not_or.mp hslash
        obtain rfl : slash = false := by simpa using hs
        obtain rfl : slash' = false := by simpa using hs'
        exact ⟨d, name, d', name', text, hsource, htarget, htext, hfree, rfl⟩

/-- Reading gives the text of the file that the path leads to. -/
lemma read_of_content {d : Place} {name : String} (hp : t.follow p = .ok (.entry d name false))
    (htext : t.content? (d ++ [name]) = some (.file text)) : t.read p = .ok text := by
  have hlook : t.look p = .ok (.file text) := by
    refine bind_eq_ok_iff.mpr ⟨_, hp, ?_⟩
    simp only [htext]
    rfl
  exact bind_eq_ok_iff.mpr ⟨_, hlook, rfl⟩

/-- What can be read stands in a file that the path leads to. -/
lemma exists_of_read (h : t.read p = .ok text) : ∃ d name,
    t.follow p = .ok (.entry d name false) ∧ t.content? (d ++ [name]) = some (.file text) := by
  obtain ⟨c, hlook, h⟩ := bind_eq_ok_iff.mp h
  obtain ⟨target, hfollow, hlook⟩ := bind_eq_ok_iff.mp hlook
  cases c with
  | directory => cases h
  | file s =>
    cases h
    cases target with
    | directory place => cases hlook
    | entry d name slash =>
      dsimp only at hlook
      split at hlook
      · cases hlook
      · cases hlook
      · split_ifs at hlook with hslash
        cases hlook
        obtain rfl : slash = false := by simpa using hslash
        exact ⟨d, name, hfollow, ‹_›⟩

/-- A file that was written is read. -/
lemma read_write (h : t.write p text = .ok t') : t'.read p = .ok text := by
  obtain ⟨d, name, hfollow, hfree, rfl⟩ := write_eq_ok_iff.mp h
  exact read_of_content ((Keeps.put hfree).follow hfollow)
    (content?_put_self (directory_of_follow hfollow))

lemma not_directory_remove {d q : Place} {name : String} (h : t.content? q ≠ some .directory) :
    (t.remove (d ++ [name])).content? q ≠ some .directory := by
  rw [content?_remove (by simp)]
  split_ifs
  · simp
  · exact h

/-- No directory is lost by a renaming. -/
lemma keeps_of_rename {source target : Path} (h : t.rename source target = .ok t') :
    Keeps t t' := by
  obtain ⟨d, name, d', name', text, -, -, htext, hfree, rfl⟩ := rename_eq_ok h
  exact (Keeps.remove (by simp [htext])).trans (.put (not_directory_remove hfree))

/-- A file that was renamed is read under its new name. -/
lemma read_rename {source target : Path} (hread : t.read source = .ok text)
    (h : t.rename source target = .ok t') : t'.read target = .ok text := by
  have hkeeps := keeps_of_rename h
  obtain ⟨d, name, d', name', text', hsource, htarget, htext, hfree, rfl⟩ := rename_eq_ok h
  obtain rfl : text = text' :=
    Except.ok.inj (hread.symm.trans (read_of_content hsource htext))
  have hremove : Keeps t (t.remove (d ++ [name])) := .remove (by simp [htext])
  refine read_of_content (hkeeps.follow htarget) (content?_put_self ?_)
  exact hremove.directory _ (directory_of_follow htarget)

/-- A step that was tried succeeded if it gave a new tree. -/
lemma attempt_eq_ok_iff {step : Except OsError FileTree} :
    t.attempt step = (.ok (), t') ↔ step = .ok t' := by
  cases step <;> simp [attempt]

end FileTree

/-- Steps succeed if the first does and the others do after it. -/
lemma runSteps_cons_ok {t t' : FileTree} {step : SaveStep} {steps : List SaveStep}
    (h : runSteps t (step :: steps) = (.ok (), t')) :
    ∃ u, step.run t = (.ok (), u) ∧ runSteps u steps = (.ok (), t') := by
  rw [runSteps] at h
  split at h
  · exact ⟨_, ‹_›, h⟩
  · cases h

lemma Document.save_eq_ok_iff {t t' : FileTree} {p : Path} {d : Document} :
    d.save t p = (.ok (), t') ↔ runSteps t (saveSteps p d.text) = (.ok (), t') := by
  rw [save, Prod.mk.injEq, mapError_eq_ok_iff, ← Prod.mk.injEq]

/-- A document that was saved went through its temporary file. -/
lemma Document.save_ok {t t' : FileTree} {p : Path} {d : Document}
    (h : d.save t p = (.ok (), t')) : ∃ made written : FileTree,
      made.write p.temporary d.text = .ok written ∧ written.rename p.temporary p = .ok t' := by
  have hsteps := save_eq_ok_iff.mp h
  -- the directories above the file may be there or be made; the file is written after that
  obtain ⟨made, hmade⟩ : ∃ made, runSteps made
      [.write p.temporary d.text, .rename p.temporary p] = (.ok (), t') := by
    rw [saveSteps] at hsteps
    cases hparent : p.parent? with
    | none => exact ⟨t, by simpa [hparent] using hsteps⟩
    | some parent =>
      rw [hparent] at hsteps
      obtain ⟨made, -, hmade⟩ := runSteps_cons_ok hsteps
      exact ⟨made, hmade⟩
  obtain ⟨written, hwrite, hmade⟩ := runSteps_cons_ok hmade
  obtain ⟨renamed, hrename, hlast⟩ := runSteps_cons_ok hmade
  cases hlast
  exact ⟨made, written, FileTree.attempt_eq_ok_iff.mp hwrite,
    FileTree.attempt_eq_ok_iff.mp hrename⟩

/-- A document that was saved is read from its file. -/
theorem Document.read_save {t t' : FileTree} {p : Path} {d : Document}
    (h : d.save t p = (.ok (), t')) : t'.read p = .ok d.text := by
  obtain ⟨made, written, hwrite, hrename⟩ := save_ok h
  exact FileTree.read_rename (FileTree.read_write hwrite) hrename

end Patchbay
