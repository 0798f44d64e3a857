import Patchbay.Proofs.Files.Atomic

/-!
# Files that a save leaves alone

A save writes to two places, that of its path and that of the temporary file beside it, and creates
directories where nothing was. All other files stay as they are, whether it succeeds or fails.
-/

namespace Patchbay

namespace FileTree

variable {t t' u : FileTree} {p : Path} {d q : Place} {name s text : String}

/-- A path leads to a name in a directory, which is at a place. -/
def LeadsTo (t : FileTree) (p : Path) (q : Place) : Prop :=
  ∃ d name slash, t.follow p = .ok (.entry d name slash) ∧ q = d ++ [name]

lemma LeadsTo.of_keeps (h : t.LeadsTo p q) (hkeeps : Keeps t t') : t'.LeadsTo p q := by
  obtain ⟨d, name, slash, hfollow, rfl⟩ := h
  exact ⟨d, name, slash, hkeeps.follow hfollow, rfl⟩

/-- A path that does not end in a slash leads to its last name. -/
lemma LeadsTo.getLast? (h : t.LeadsTo p q) (hp : p.segments.getLast? = some name)
    (hname : name ≠ "") : q.getLast? = some name := by
  obtain ⟨d, last, slash, hfollow, rfl⟩ := h
  obtain ⟨hlast, -⟩ := follow_last hfollow
  rw [hp] at hlast
  cases slash with
  | true => exact (hname (Option.some.inj hlast)).elim
  | false =>
    obtain rfl : name = last := Option.some.inj hlast
    exact List.getLast?_concat

/-- A file is not below another place unless there is a directory. -/
lemma not_prefix_of_file (hq : t.content? q = some (.file s)) (hd : t.content? d ≠ some .directory)
    (hne : q ≠ d) : ¬ d <+: q := by
  rintro ⟨below, rfl⟩
  obtain ⟨x, hx, -⟩ := Option.map_eq_some_iff.mp hq
  rw [ entry?, Entry.at?_append] at hx
  obtain ⟨y, hy, hbelow⟩ := Option.bind_eq_some_iff.mp hx
  cases y with
  | file text => cases below <;> simp [Entry.at?] at hbelow hne
  | directory es => exact hd (by rw [content?, entry?, hy]; rfl)

/-- What is put where no directory is changes no other file. -/
lemma file_put {e : Entry} (hq : t.content? q = some (.file s))
    (hd : t.content? d ≠ some .directory) (hne : q ≠ d) :
    (t.put d e).content? q = some (.file s) := by
  rw [content?_put_of_not_below (not_prefix_of_file hq hd hne), hq]

/-- Making a directory changes no file. -/
lemma file_makeDirectory (hq : t.content? q = some (.file s)) (h : t.makeDirectory p = .ok u) :
    u.content? q = some (.file s) := by
  obtain ⟨d, name, slash, -, hmissing, rfl⟩ := makeDirectory_ok h
  refine file_put hq (by simp [hmissing]) ?_
  rintro rfl
  rw [hmissing] at hq
  cases hq

lemma keeps_of_write (h : t.write p text = .ok u) : Keeps t u := by
  obtain ⟨d, name, -, hfree, rfl⟩ := write_eq_ok_iff.mp h
  exact .put hfree

/-- Writing changes no file but the one that the path leads to. -/
lemma file_write (hq : t.content? q = some (.file s)) (h : t.write p text = .ok u)
    (hp : ¬ t.LeadsTo p q) : u.content? q = some (.file s) := by
  obtain ⟨d, name, hfollow, hfree, rfl⟩ := write_eq_ok_iff.mp h
  exact file_put hq hfree fun hname => hp ⟨d, name, false, hfollow, hname⟩

/-- Renaming changes no file but those that the two paths lead to. -/
lemma file_rename {source target : Path} (hq : t.content? q = some (.file s))
    (h : t.rename source target = .ok u) (hsource : ¬ t.LeadsTo source q)
    (htarget : ¬ t.LeadsTo target q) : u.content? q = some (.file s) := by
  obtain ⟨d, name, d', name', text, hfollow, hfollow', htext, hfree, rfl⟩ := rename_eq_ok h
  have hremoved : (t.remove (d ++ [name])).content? q = some (.file s) := by
    rw [content?_remove (by simp), if_neg, hq]
    refine not_prefix_of_file hq (by simp [htext]) ?_
    exact fun hname => hsource ⟨d, name, false, hfollow, hname⟩
  refine file_put hremoved (not_directory_remove hfree) ?_
  exact fun hname => htarget ⟨d', name', false, hfollow', hname⟩

/-- What each new directory preserves is preserved by making all of them. -/
lemma makeDirectories_preserves {P : FileTree → Prop}
    (hmake : ∀ t u q, P t → t.makeDirectory q = .ok u → P u) (ht : P t) (p : Path) :
    P (t.makeDirectories p).2 :=
  makeDirectoriesUpTo_preserves (Q := fun _ => True) (fun t u q _ => hmake t u q)
    (fun _ _ => trivial) trivial ht

lemma attempt_preserves {P : FileTree → Prop} {step : Except OsError FileTree} (ht : P t)
    (hstep : ∀ u, step = .ok u → P u) : P (t.attempt step).2 := by
  cases step with
  | ok u => exact hstep u rfl
  | error e => exact ht

end FileTree

open FileTree

variable {t : FileTree} {p : Path} {q : Place} {s : String}

/-! ### Steps -/

namespace SaveStep

/-- The paths that a step writes to. -/
def paths : SaveStep → List Path
  | .makeDirectories _ => []
  | .write p _ => [p]
  | .rename p q => [p, q]

/-- No step loses a directory. -/
lemma keeps (step : SaveStep) (t : FileTree) : Keeps t (step.run t).2 := by
  cases step with
  | makeDirectories p =>
    exact makeDirectories_preserves (P := Keeps t)
      (fun u v q hu hmade => hu.trans (keeps_of_makeDirectory hmade)) (.refl t) p
  | write p text => exact attempt_preserves (.refl t) fun u hu => keeps_of_write hu
  | rename p q => exact attempt_preserves (.refl t) fun u hu => keeps_of_rename hu

/-- A step changes only the files at its paths. -/
lemma file_run (step : SaveStep) (hq : t.content? q = some (.file s))
    (h : ∀ p ∈ step.paths, ¬ (step.run t).2.LeadsTo p q) :
    (step.run t).2.content? q = some (.file s) := by
  have hpaths : ∀ p ∈ step.paths, ¬ t.LeadsTo p q :=
    -- a path that leads somewhere before the step leads there after it
    fun p hp hleads => h p hp (hleads.of_keeps (step.keeps t))
  cases step with
  | makeDirectories p =>
    exact makeDirectories_preserves (P := fun u => u.content? q = some (.file s))
      (fun u v r hu hmade => file_makeDirectory hu hmade) hq p
  | write p text =>
    exact attempt_preserves (P := fun u => u.content? q = some (.file s)) hq
      fun u hu => file_write hq hu (hpaths p (by simp [paths]))
  | rename p r =>
    exact attempt_preserves (P := fun u => u.content? q = some (.file s)) hq
      fun u hu => file_rename hq hu (hpaths p (by simp [paths])) (hpaths r (by simp [paths]))

end SaveStep

/-- No directory is lost by steps of a save. -/
lemma runSteps_keeps (steps : List SaveStep) (t : FileTree) : Keeps t (runSteps t steps).2 := by
  induction steps generalizing t with
  | nil => exact .refl t
  | cons step steps ih =>
    have hstep := step.keeps t
    rw [runSteps]
    split
    · rename_i u hrun
      rw [hrun] at hstep
      exact hstep.trans (ih u)
    · rename_i hrun
      rwa [hrun] at hstep

/-- Steps that are taken until one fails change only the files at their paths. -/
theorem file_runSteps (steps : List SaveStep) (hq : t.content? q = some (.file s))
    (h : ∀ step ∈ steps, ∀ p ∈ step.paths, ¬ (runSteps t steps).2.LeadsTo p q) :
    (runSteps t steps).2.content? q = some (.file s) := by
  induction steps generalizing t with
  | nil => exact hq
  | cons step steps ih =>
    have hstep := step.file_run hq
    rw [runSteps] at h ⊢
    split
    · rename_i u hrun
      rw [hrun] at h hstep
      dsimp only at h hstep
      refine ih (hstep fun p hp hleads => ?_) fun next hnext =>
        h next (List.mem_cons_of_mem _ hnext)
      exact h step List.mem_cons_self p hp (hleads.of_keeps (runSteps_keeps steps u))
    · rename_i u hrun
      rw [hrun] at h hstep
      exact hstep (h step List.mem_cons_self)

/-! ### Saves -/

/-- From the one tree to the other only the files change that some paths lead to. What another path
is read as stays. -/
structure FileTree.Spares (t t' : FileTree) (paths : List Path) : Prop where
  content : ∀ q s, t.content? q = some (.file s) → (∀ p ∈ paths, ¬ t'.LeadsTo p q) →
    t'.content? q = some (.file s)
  read : ∀ path s, t.read path = .ok s →
    (∀ q, t.LeadsTo path q → ∀ p ∈ paths, ¬ t'.LeadsTo p q) → t'.read path = .ok s

lemma FileTree.Spares.refl (t : FileTree) (paths : List Path) : t.Spares t paths :=
  ⟨fun _ _ hq _ => hq, fun _ _ hread _ => hread⟩

/-- What is read of a path stays if the file there does. -/
lemma FileTree.Spares.intro {t t' : FileTree} {paths : List Path} (hkeeps : Keeps t t')
    (hcontent : ∀ q s, t.content? q = some (.file s) → (∀ p ∈ paths, ¬ t'.LeadsTo p q) →
      t'.content? q = some (.file s)) : t.Spares t' paths where
  content := hcontent
  read path s hread hpaths := by
    obtain ⟨d, name, hfollow, hfile⟩ := exists_of_read hread
    have hstays := hcontent _ s hfile (hpaths _ ⟨d, name, false, hfollow, rfl⟩)
    exact read_of_content (hkeeps.follow hfollow) hstays

/-- A save spares all files but those at its path and at the temporary file beside it. -/
theorem Document.save_spares (t : FileTree) (p : Path) (d : Document) :
    t.Spares (d.save t p).2 [p, p.temporary] := by
  refine .intro (runSteps_keeps (saveSteps p d.text) t) fun q s hq hpaths => ?_
  refine file_runSteps (saveSteps p d.text) hq fun step hstep r hr => hpaths r ?_
  rw [saveSteps] at hstep
  rcases List.mem_append.mp hstep with hstep | hstep
  · obtain ⟨parent, -, rfl⟩ := Option.map_eq_some_iff.mp (Option.mem_toList.mp hstep)
    cases hr
  · rcases List.mem_pair.mp hstep with rfl | rfl
    · simp only [SaveStep.paths, List.mem_singleton] at hr
      simp [hr]
    · simp only [SaveStep.paths, List.mem_pair] at hr
      simp [hr.symm]

end Patchbay
