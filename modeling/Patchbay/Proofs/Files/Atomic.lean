import Patchbay.Proofs.Files.Walks

/-!
# Saving in one piece

A save goes through a temporary file, so that its path holds what it held before until the whole new
text takes its place, wherever the save fails or is cut off. Only the directories that are created
for the file can change what its path leads to: where the path goes up out of a directory that was
missing.
-/

namespace Patchbay

open Patchbay.Path (Component)

namespace FileTree

variable {t t' u : FileTree} {p q : Path} {d : Place} {name text : String} {slash : Bool}
  {above below cs : List Component}

/-! ### What a path leads to -/

/-- What a path leads to, if it leads to anything. -/
def held? (t : FileTree) (p : Path) : Option Content := (t.look p).toOption

/-- What a path holds is what looking at it finds. -/
lemma held?_eq_some_iff {c : Content} : t.held? p = some c ↔ t.look p = .ok c := by
  rw [held?]
  cases t.look p <;> simp [Except.toOption]

lemma held?_eq_none_iff : t.held? p = none ↔ ∀ c, t.look p ≠ .ok c := by
  rw [Option.eq_none_iff_forall_ne_some]
  simp only [ne_eq, held?_eq_some_iff]

lemma held?_of_follow_error {e : OsError} (h : t.follow p = .error e) : t.held? p = none := by
  rw [held?, look, h]
  rfl

lemma held?_directory {place : Place} (h : t.follow p = .ok (.directory place)) :
    t.held? p = some .directory := by
  rw [held?, look, h]
  rfl

/-- A name with a slash after it leads to a directory only. -/
lemma held?_entry (h : t.follow p = .ok (.entry d name slash)) :
    t.held? p = (t.content? (d ++ [name])).filter fun c => !slash || c = .directory := by
  rw [held?, look, h]
  cases hcontent : t.content? (d ++ [name]) with
  | none =>
    simp only [bind, Except.bind, hcontent]
    rfl
  | some c =>
    simp only [bind, Except.bind, hcontent]
    cases c <;> cases slash <;> rfl

lemma filter_directory {x : Option Content} (h : x ≠ some .directory) :
    (x.filter fun c => !true || c = .directory) = none := by
  rcases x with _ | _ | s
  · rfl
  · exact (h rfl).elim
  · rfl

/-- A text that is read is held in a file. -/
lemma read_eq_ok_iff : t.read p = .ok text ↔ t.held? p = some (.file text) := by
  rw [held?_eq_some_iff, read, bind_eq_ok_iff]
  constructor
  · rintro ⟨_ | s, hlook, hs⟩
    · cases hs
    · cases hs
      exact hlook
  · exact fun hlook => ⟨_, hlook, rfl⟩

lemma isDirectory_iff : t.isDirectory p ↔ t.look p = .ok .directory := by
  rw [isDirectory]
  split <;> simp_all

/-- What is a directory stays one while none is lost. -/
lemma Keeps.isDirectory (h : Keeps t t') (hp : t.isDirectory p) : t'.isDirectory p := by
  rw [isDirectory_iff] at hp ⊢
  obtain ⟨target, hfollow, hlook⟩ := bind_eq_ok_iff.mp hp
  refine bind_eq_ok_iff.mpr ⟨target, h.follow hfollow, ?_⟩
  cases target with
  | directory place => rfl
  | entry d name slash =>
    dsimp only at hlook ⊢
    split at hlook
    · cases hlook
    · rw [h.directory _ ‹_›]
      rfl
    · split_ifs at hlook
      cases hlook

/-! ### Directories that are created -/

/-- A directory is made, empty, at a place where nothing was. -/
lemma makeDirectory_ok (h : t.makeDirectory p = .ok u) :
    ∃ d name slash, t.follow p = .ok (.entry d name slash) ∧ t.content? (d ++ [name]) = none ∧
      u = t.put (d ++ [name]) (.directory []) := by
  obtain ⟨_ | ⟨d, name, slash⟩, hfollow, h⟩ := bind_eq_ok_iff.mp h
  · cases h
  · dsimp only at h
    split at h
    · cases h
    · cases h
      exact ⟨d, name, slash, hfollow, ‹_›, rfl⟩

/-- No directory is lost when one is made. -/
lemma keeps_of_makeDirectory (h : t.makeDirectory p = .ok u) : Keeps t u := by
  obtain ⟨d, name, slash, -, hmissing, rfl⟩ := makeDirectory_ok h
  exact .put (by simp [hmissing])

/-- Wherever a path goes up, this leads to a directory that is there already. -/
def HasWaysUp (t : FileTree) (p : Path) : Prop :=
  ∀ above below, p.components = above ++ .up :: below →
    t.isDirectory (.ofComponents (above ++ [.up]))

/-- A path that never goes up needs no way up. -/
lemma hasWaysUp_of_notMem (h : .up ∉ p.components) (t : FileTree) : t.HasWaysUp p :=
  fun above _ hp => (h (hp ▸ List.mem_append_right above List.mem_cons_self)).elim

/-- The ways up stay while no directory is lost. -/
lemma HasWaysUp.of_keeps (h : t.HasWaysUp p) (hkeeps : Keeps t u) : u.HasWaysUp p :=
  fun above below hp => hkeeps.isDirectory (h above below hp)

/-- A path with a name that is missing leads to nothing. -/
lemma held?_of_missing {r : Trail} (hr : t.walk cs = .ok r)
    (hmissing : Keyed.get? name (t.entriesAt r) = none)
    (hp : p.components = cs ++ .name name :: below) : t.held? p = none := by
  refine held?_eq_none_iff.mpr fun c hlook => ?_
  obtain ⟨r', e, hr', hthere⟩ := exists_of_look hlook hp
  obtain rfl := Except.ok.inj (hr.symm.trans hr')
  rw [hmissing] at hthere
  cases hthere

/-- A path with a name in an empty directory leads to nothing. -/
lemma held?_of_empty {r : Trail} {next : String} (hr : t.walk cs = .ok r)
    (hempty : Keyed.get? name (t.entriesAt r) = some (.directory []))
    (hp : p.components = cs ++ .name name :: .name next :: below) : t.held? p = none := by
  have hname : Component.ofSegment? name = some (.name name) :=
    (hp ▸ Path.proper_components p).ofSegment?_name (by simp)
  rw [← List.singleton_append, ← List.append_assoc] at hp
  refine held?_eq_none_iff.mpr fun c hlook => ?_
  obtain ⟨m, e, hm, hthere⟩ := exists_of_look hlook hp
  obtain ⟨r', hr', hlast⟩ := walk_append_ok hm (by simp)
  obtain rfl := Except.ok.inj (hr.symm.trans hr')
  rw [walkFrom_singleton] at hlast
  obtain ⟨es, hes, rfl⟩ := enter_name hname hlast
  rw [hempty] at hes
  cases hes
  -- what is beneath an empty directory cannot be there
  cases hthere

/-- A directory is created under a name that was missing, and is empty. -/
lemma walk_makeDirectory (habove : Path.Proper above)
    (hu : t.makeDirectory (.ofComponents above) = .ok u) : ∃ cs name r m,
      above = cs ++ [.name name] ∧ t.walk cs = .ok r ∧
      Keyed.get? name (t.entriesAt r) = none ∧ u.walk cs = .ok m ∧
      Keyed.get? name (u.entriesAt m) = some (.directory []) := by
  have hkeeps := keeps_of_makeDirectory hu
  obtain ⟨d, name, slash, hfollow, hmissing, hput⟩ := makeDirectory_ok hu
  have hreaches := follow_reaches hfollow
  rw [Path.components_ofComponents habove] at hreaches
  cases hreaches with | @entry cs r hr name slash
  rw [(leads_walk hr).content?_name, Option.map_eq_none_iff] at hmissing
  obtain ⟨m, hm, hleads, hplace⟩ := hkeeps.walk hr
  refine ⟨cs, name, r, m, rfl, hr, hmissing, hm, ?_⟩
  rw [← hleads.entry?_name, hplace, hput]
  exact entry?_put_self (directory_of_follow hfollow)

/-- A path whose way was missing leads to nothing, and still leads to nothing when a directory on
its way was created: this directory is empty, and the path does not leave it. -/
lemma HasWaysUp.held?_makeDirectory (h : t.HasWaysUp p) (hp : p.components = above ++ below)
    (hbelow : below ≠ []) (hu : t.makeDirectory (.ofComponents above) = .ok u) :
    t.held? p = none ∧ u.held? p = none := by
  have hproper := hp ▸ Path.proper_components p
  obtain ⟨cs, name, r, m, rfl, hr, hmissing, hm, hempty⟩ := walk_makeDirectory hproper.of_append hu
  obtain ⟨first, below, rfl⟩ := List.exists_cons_of_ne_nil hbelow
  have hfirst : first.IsSegment := hproper.isSegment (by simp)
  rw [List.append_assoc, List.singleton_append] at hp hproper
  refine ⟨held?_of_missing hr hmissing hp, ?_⟩
  cases first with
  | root | here => cases hfirst.1
  -- the new directory is empty, so nothing is found beneath it
  | name next => exact held?_of_empty hm hempty hp
  | up =>
    -- the way up leads through the name that was missing
    have hup : cs ++ .name name :: .up :: below = cs ++ .name name :: [.up] ++ below := by simp
    have hcomponents := Path.components_ofComponents (hup ▸ hproper).of_append
    have hway := h (cs ++ [.name name]) below (by simpa using hp)
    rw [List.append_assoc, List.singleton_append, isDirectory_iff, ← held?_eq_some_iff,
      held?_of_missing hr hmissing hcomponents] at hway
    cases hway

/-! ### Files that are written -/

/-- There is nothing at or below a place but the place itself, unless it is a directory. -/
lemma eq_of_prefix_entry (hp : t.content? d ≠ some .directory) {d' : Place}
    (hd' : t.content? d' = some .directory) (h : d <+: d' ++ [name]) : d = d' ++ [name] := by
  rcases List.prefix_concat_iff.mp h with h | h
  · exact h
  · exact (not_prefix_of_directory hp hd' h).elim

/-- There are no directories below a file that was put somewhere. -/
lemma Keeps.of_put_file (hd : t.content? d = some .directory) :
    Keeps (t.put (d ++ [name]) (.file text)) t where
  workingDirectory := rfl
  directory q hq := by
    have hfile : (t.put (d ++ [name]) (.file text)).content? (d ++ [name]) ≠ some .directory := by
      rw [content?_put_self hd]
      simp [Entry.content]
    rwa [content?_put_of_not_below (not_prefix_of_directory hfile hq)] at hq

/-- What is written to the temporary file beside a file is not seen in the file. -/
lemma held?_write_temporary (hne : p.temporary ≠ p) (h : t.write p.temporary text = .ok u) :
    u.held? p = t.held? p := by
  obtain ⟨d, name, hfollow, hfree, rfl⟩ := write_eq_ok_iff.mp h
  have hd := directory_of_follow hfollow
  cases hp : t.follow p with
  | error e =>
    cases hp' : (t.put (d ++ [name]) (.file text)).follow p with
    | error e' => rw [held?_of_follow_error hp, held?_of_follow_error hp']
    | ok target =>
      rw [(Keeps.of_put_file hd).follow hp'] at hp
      cases hp
  | ok target =>
    have hp' := (Keeps.put (e := .file text) hfree).follow hp
    cases target with
    | directory place => rw [held?_directory hp, held?_directory hp']
    | entry d' name' slash =>
      rw [held?_entry hp, held?_entry hp']
      by_cases hprefix : d ++ [name] <+: d' ++ [name']
      · -- only the written place itself can be below it, and the path leads to another name
        have heq := eq_of_prefix_entry hfree (directory_of_follow hp) hprefix
        cases slash with
        | false =>
          obtain ⟨-, hname⟩ := List.append_inj' heq rfl
          exact (temporary_name_ne hne hp hfollow (List.singleton_inj.mp hname)).elim
        | true =>
          have hfile : some (Entry.file text).content ≠ some .directory := nofun
          rw [← heq, content?_put_self hd, filter_directory hfree, filter_directory hfile]
      · rw [content?_put_of_not_below hprefix]

/-- A file that takes the place of another leaves nothing under the name that it had. -/
lemma held?_temporary_rename (hne : p.temporary ≠ p) (h : t.rename p.temporary p = .ok u) :
    u.held? p.temporary = none := by
  have hkeeps := keeps_of_rename h
  obtain ⟨d, name, d', name', text, hsource, htarget, -, hfree, rfl⟩ := rename_eq_ok h
  have hprefix : ¬ d' ++ [name'] <+: d ++ [name] := by
    intro hprefix
    have heq := eq_of_prefix_entry hfree (directory_of_follow hsource) hprefix
    obtain ⟨-, hname⟩ := List.append_inj' heq rfl
    exact temporary_name_ne hne htarget hsource (List.singleton_inj.mp hname).symm
  rw [held?_entry (hkeeps.follow hsource), content?_put_of_not_below hprefix,
    content?_remove (by simp), if_pos (List.prefix_refl _)]
  rfl

/-! ### Where a save is cut off -/

/-- The trees in which the creation of directories may be cut off: before it, after it, or while
the directories above are created. -/
inductive DirectoriesCut (t : FileTree) : Path → List Component → FileTree → Prop
  | before (p : Path) (cs : List Component) : DirectoriesCut t p cs t
  | after (p : Path) (cs : List Component) : DirectoriesCut t p cs (t.makeDirectoriesUpTo p cs).2
  | above {p : Path} {c : Component} {cs : List Component} {u : FileTree} (hp : p.text ≠ "")
      (hc : c ≠ .root) (hmissing : t.makeDirectory p = .error .notFound)
      (h : DirectoriesCut t (.ofComponents cs.reverse) cs u) : DirectoriesCut t p (c :: cs) u

/-- What the creation of each directory preserves holds also after the creation of all. -/
lemma makeDirectoriesUpTo_preserves {P : FileTree → Prop} {Q : Path → Prop}
    (hmake : ∀ t u q, Q q → P t → t.makeDirectory q = .ok u → P u)
    (habove : ∀ below, below <:+ cs → Q (.ofComponents below.reverse)) (hq : Q q) (ht : P t) :
    P (t.makeDirectoriesUpTo q cs).2 := by
  induction cs generalizing t q with
  | nil => exact ht
  | cons c cs ih =>
    have habove' : ∀ below, below <:+ cs → Q (.ofComponents below.reverse) :=
      fun below hbelow => habove below (hbelow.trans (List.suffix_cons _ _))
    rw [makeDirectoriesUpTo]
    split
    · exact ht
    split
    · exact hmake _ _ q hq ht ‹_›
    · split
      · exact ht
      -- the directories above come first, then the missing one once more
      have hmade := ih habove' (habove' cs (List.suffix_refl _)) ht
      split
      · rename_i hcut
        rwa [hcut] at hmade
      · rename_i hall
        rw [hall] at hmade
        rw [makeDirectoryIfMissing]
        split
        · exact hmake _ _ q hq hmade ‹_›
        · split <;> exact hmade
    · split <;> exact ht

/-- Whatever a single directory preserves, however far the creation of them got it is preserved. -/
lemma DirectoriesCut.preserves {P : FileTree → Prop} {Q : Path → Prop}
    (h : DirectoriesCut t q cs u) (hmake : ∀ t u q, Q q → P t → t.makeDirectory q = .ok u → P u)
    (habove : ∀ below, below <:+ cs → Q (.ofComponents below.reverse)) (hq : Q q) (ht : P t) :
    P u := by
  induction h with
  | before => exact ht
  | after => exact makeDirectoriesUpTo_preserves hmake habove hq ht
  | above _ _ _ _ ih =>
    have habove' := fun below hbelow =>
      habove below (List.IsSuffix.trans hbelow (List.suffix_cons _ _))
    exact ih habove' (habove' _ (List.suffix_refl _))

end FileTree

open FileTree

variable {t u v : FileTree} {p : Path} {text : String} {steps : List SaveStep}

/-- The trees in which a step may be cut off. A text that is being written may be there in part, or
any other text may. -/
inductive SaveStep.Cut (t : FileTree) : SaveStep → FileTree → Prop
  | before (step : SaveStep) : Cut t step t
  | after (step : SaveStep) : Cut t step (step.run t).2
  | directories {p : Path} {u : FileTree} (h : t.DirectoriesCut p p.components.reverse u) :
      Cut t (.makeDirectories p) u
  | writing {p : Path} {u : FileTree} (text : String) {written : String}
      (h : t.write p written = .ok u) : Cut t (.write p text) u

/-- The trees in which steps that are taken one after the other may be cut off. -/
inductive StepsCut : FileTree → List SaveStep → FileTree → Prop
  | within {t u : FileTree} {step : SaveStep} (h : SaveStep.Cut t step u) (steps : List SaveStep) :
      StepsCut t (step :: steps) u
  | later {t u v : FileTree} {step : SaveStep} {steps : List SaveStep}
      (hstep : step.run t = (.ok (), u)) (h : StepsCut u steps v) : StepsCut t (step :: steps) v

/-- A run that has ended is one that was cut off at its end. -/
lemma StepsCut.of_runSteps (h : steps ≠ []) : StepsCut t steps (runSteps t steps).2 := by
  induction steps generalizing t with
  | nil => exact (h rfl).elim
  | cons step steps ih =>
    rw [runSteps]
    split
    · rename_i u hstep
      cases steps with
      | nil =>
        rw [runSteps, ← congrArg Prod.snd hstep]
        exact .within (.after step) []
      | cons next steps => exact .later hstep (ih (List.cons_ne_nil _ _))
    · rename_i hstep
      rw [← congrArg Prod.snd hstep]
      exact .within (.after step) steps

/-! ### What a save leaves -/

/-- The directories that are created above a path do not change what it leads to. -/
lemma held?_directoriesCut {q : Path} {c : Component} {above : List Component}
    (hways : t.HasWaysUp p) (hp : p.components = above ++ [c]) (hq : q = .ofComponents above)
    (h : t.DirectoriesCut q q.components.reverse u) : Keeps t u ∧ u.held? p = t.held? p := by
  have hproper := hp ▸ Path.proper_components p
  subst hq
  rw [Path.components_ofComponents hproper.of_append] at h
  refine h.preserves (P := fun u => Keeps t u ∧ u.held? p = t.held? p)
    (Q := fun q => ∃ below, below <:+ above.reverse ∧ q = .ofComponents below.reverse) ?_
    (fun below hbelow => ⟨below, hbelow, rfl⟩) ⟨_, List.suffix_refl _, by simp⟩ ⟨.refl t, rfl⟩
  rintro v w _ ⟨below, ⟨rest, hrest⟩, rfl⟩ ⟨hkeeps, hheld⟩ hmade
  have hsplit : p.components = below.reverse ++ (rest.reverse ++ [c]) := by
    rw [hp, ← List.append_assoc, ← List.reverse_append, hrest, List.reverse_reverse]
  obtain ⟨hbefore, hafter⟩ := (hways.of_keeps hkeeps).held?_makeDirectory hsplit (by simp) hmade
  exact ⟨hkeeps.trans (keeps_of_makeDirectory hmade), by rw [hafter, ← hheld, hbefore]⟩

/-- Until the temporary file takes the place of the other, this holds what it held before. -/
lemma held?_writingCut (hne : p.temporary ≠ p)
    (h : StepsCut t [.write p.temporary text, .rename p.temporary p] u) :
    u.held? p = t.held? p ∨
      runSteps t [.write p.temporary text, .rename p.temporary p] = (.ok (), u) := by
  cases h with
  | within hwrite =>
    left
    cases hwrite with
    | before => rfl
    | writing _ h => exact held?_write_temporary hne h
    | after =>
      rw [SaveStep.run]
      cases hwritten : t.write p.temporary text with
      | error e => rfl
      | ok v => exact held?_write_temporary hne hwritten
  | @later _ v _ _ _ hstep h =>
    have hheld := held?_write_temporary hne (attempt_eq_ok_iff.mp hstep)
    cases h with
    | within hrename =>
      cases hrename with
      | before => exact .inl hheld
      | after =>
        rw [SaveStep.run]
        cases hrenamed : v.rename p.temporary p with
        | error e => exact .inl hheld
        | ok w =>
          right
          rw [runSteps, hstep]
          simp only [runSteps, SaveStep.run, hrenamed, attempt]
    | later _ h => cases h

/-- Wherever a save is cut off, its path holds what it held before or the save has ended. -/
theorem held?_saveCut (hne : p.temporary ≠ p) (hways : t.HasWaysUp p)
    (h : StepsCut t (saveSteps p text) u) :
    u.held? p = t.held? p ∨ runSteps t (saveSteps p text) = (.ok (), u) := by
  rw [saveSteps] at h ⊢
  cases hparent : p.parent? with
  | none =>
    rw [hparent] at h
    exact held?_writingCut hne h
  | some parent =>
    rw [hparent] at h
    obtain ⟨above, c, hp, hq⟩ := Path.parent?_eq_some hparent
    -- while the directories are made the path holds what it held
    have hdirectories : ∀ {v}, SaveStep.Cut t (.makeDirectories parent) v →
        v.held? p = t.held? p := by
      intro v hv
      cases hv with
      | before => rfl
      | after => exact (held?_directoriesCut hways hp hq (.after _ _)).2
      | directories h => exact (held?_directoriesCut hways hp hq h).2
    cases h with
    | within h => exact .inl (hdirectories h)
    | @later _ v _ _ _ hstep h =>
      have hheld : v.held? p = t.held? p := by
        have hafter := hdirectories (.after _)
        rwa [hstep] at hafter
      rcases held?_writingCut hne h with hcut | hended
      · exact .inl (hcut.trans hheld)
      · right
        change runSteps t (.makeDirectories parent :: _) = _
        rw [runSteps, hstep]
        exact hended

namespace Document

/-- A document is saved as a whole or not at all: if the save succeeds then the file holds its text
and the temporary file is gone; and if the path goes up only where there is a way already, then it
holds what it held before when the save fails, and this or the whole text wherever it is cut off. -/
structure SavedWhole (t : FileTree) (p : Path) (d : Document) : Prop where
  saved : ∀ t', d.save t p = (.ok (), t') →
    t'.read p = .ok d.text ∧ t'.exists? p.temporary = false
  failed : t.HasWaysUp p → ∀ e t', d.save t p = (.error e, t') → t'.held? p = t.held? p
  cut : t.HasWaysUp p → ∀ u, StepsCut t (saveSteps p d.text) u →
    u.held? p = t.held? p ∨ u.held? p = some (.file d.text)

/-- A document is saved as a whole or not at all, whatever is in the way. -/
theorem save_whole (hne : p.temporary ≠ p) (t : FileTree) (d : Document) : d.SavedWhole t p where
  saved t' h := by
    obtain ⟨made, written, hwrite, hrename⟩ := save_ok h
    refine ⟨read_save h, ?_⟩
    have hgone := held?_temporary_rename hne hrename
    rw [held?] at hgone
    rw [exists?]
    cases hlook : t'.look p.temporary with
    | error e => rfl
    | ok c => simp [hlook, Except.toOption] at hgone
  failed hways e t' h := by
    have hended : StepsCut t (saveSteps p d.text) t' := by
      obtain rfl : (runSteps t (saveSteps p d.text)).2 = t' := congrArg Prod.snd h
      exact .of_runSteps (by simp [saveSteps])
    refine (held?_saveCut hne hways hended).resolve_right fun hok => ?_
    rw [save_eq_ok_iff.mpr hok] at h
    cases h
  cut hways u h := (held?_saveCut hne hways h).imp_right fun hok =>
    read_eq_ok_iff.mp (read_save (save_eq_ok_iff.mpr hok))

def blank : Document := ⟨[], [], none, []⟩

/-- A path that goes up from a directory to a file beside it. -/
def asidePath : Path := ⟨"a/../x.json"⟩

def asideTree : FileTree where
  root := [("a", .directory []), ("x.json", .file "old")]

/-- The tree with a directory in place of the temporary file. -/
def blockedTree : FileTree where
  root := [("a", .directory []), ("x.json", .file "old"), ("x.tmp", .directory [])]

/-- The one way up on this path leads out of its first directory. -/
lemma asidePath_hasWaysUp {t : FileTree} (h : t.isDirectory ⟨"a/.."⟩) : t.HasWaysUp asidePath := by
  intro above below hp
  have hcomponents : asidePath.components = [.name "a", .up, .name "x.json"] := by decide +kernel
  have hup : Path.ofComponents [.name "a", .up] = ⟨"a/.."⟩ := by decide +kernel
  rw [hcomponents] at hp
  rcases above with _ | ⟨c, _ | ⟨c', _ | ⟨c'', above⟩⟩⟩
  · simp at hp
  · obtain rfl : Component.name "a" = c := (List.cons.inj hp).1
    rw [List.singleton_append, hup]
    exact h
  · simp at hp
  · simp at hp

/-- The second part stands for itself here, so that it need not be computed. -/
lemma eq_of_fst_eq {α β : Type} {x : α × β} {a : α} (h : x.1 = a) : x = (a, x.2) := Prod.ext h rfl

/-- A save that succeeds, one that fails, and one that is cut off after a part of the text. -/
theorem asidePath_savedWhole :
    (∃ t', blank.save asideTree asidePath = (.ok (), t') ∧ t'.read asidePath = .ok blank.text ∧
      t'.exists? asidePath.temporary = false) ∧
    (∃ e t', blank.save blockedTree asidePath = (.error e, t') ∧
      t'.held? asidePath = some (.file "old")) ∧
    ∃ u, StepsCut asideTree (saveSteps asidePath blank.text) u ∧
      u.held? asidePath.temporary = some (.file "begun") ∧
      (u.held? asidePath = asideTree.held? asidePath ∨
        u.held? asidePath = some (.file blank.text)) := by
  have hne : asidePath.temporary ≠ asidePath := by decide +kernel
  refine ⟨?_, ?_, ?_⟩
  · have hok : (blank.save asideTree asidePath).1 = .ok () := by decide +kernel
    exact ⟨_, eq_of_fst_eq hok, (save_whole hne _ blank).saved _ (eq_of_fst_eq hok)⟩
  · have herror : (blank.save blockedTree asidePath).1 = .error ⟨asidePath, .isDirectory⟩ := by
      decide +kernel
    have hold : blockedTree.held? asidePath = some (.file "old") := by decide +kernel
    have hways : blockedTree.HasWaysUp asidePath := asidePath_hasWaysUp (by decide +kernel)
    refine ⟨_, _, eq_of_fst_eq herror, ?_⟩
    rw [(save_whole hne _ blank).failed hways _ _ (eq_of_fst_eq herror), hold]
  · have hways : asideTree.HasWaysUp asidePath := asidePath_hasWaysUp (by decide +kernel)
    have hparent : asidePath.parent? = some ⟨"a/.."⟩ := by decide +kernel
    have hmade : (SaveStep.run asideTree (.makeDirectories ⟨"a/.."⟩)).1 = .ok () := by
      decide +kernel
    obtain ⟨u, hu⟩ : ∃ u, (SaveStep.run asideTree (.makeDirectories ⟨"a/.."⟩)).2.write
        asidePath.temporary "begun" = .ok u := by
      have hwritten : ((SaveStep.run asideTree (.makeDirectories ⟨"a/.."⟩)).2.write
        asidePath.temporary "begun").isOk := by decide +kernel
      generalize FileTree.write _ _ _ = result at hwritten
      cases result with
      | ok u => exact ⟨u, rfl⟩
      | error e => cases hwritten
    have hcut : StepsCut asideTree (saveSteps asidePath blank.text) u := by
      rw [saveSteps, hparent]
      exact .later (eq_of_fst_eq hmade) (.within (.writing _ hu) _)
    exact ⟨u, hcut, read_eq_ok_iff.mp (read_write hu), (save_whole hne _ blank).cut hways u hcut⟩

/-- A path may lead to a directory that is created for it, which stays when the save fails. -/
theorem not_held_of_save_error : ¬ ∀ (t : FileTree) (p : Path) (d : Document), p.temporary ≠ p →
    ∀ e t', d.save t p = (.error e, t') → t'.held? p = t.held? p := by
  intro h
  have hne : Path.temporary ⟨"a/../a"⟩ ≠ ⟨"a/../a"⟩ := by decide +kernel
  have herror : (blank.save ⟨[], []⟩ ⟨"a/../a"⟩).1 = .error ⟨⟨"a/../a"⟩, .isDirectory⟩ := by
    decide +kernel
  have hchanged : (blank.save ⟨[], []⟩ ⟨"a/../a"⟩).2.held? ⟨"a/../a"⟩
      ≠ FileTree.held? ⟨[], []⟩ ⟨"a/../a"⟩ := by decide +kernel
  exact hchanged (h _ _ blank hne _ _ (eq_of_fst_eq herror))

end Document

end Patchbay
