import Mathlib.Data.List.Basic
import Patchbay.Files.Tree
import Patchbay.Proofs.Results
import Patchbay.Proofs.Text.Keyed

/-!
# Changes in a file tree

A change at a place is seen at this place and below it, and nowhere else. Where a path leads depends
on the directories alone, so that it leads to the same place as long as no directory is lost.
-/

namespace Patchbay

variable {name : String} {p q d : Place} {e : Entry} {es inner : List (String × Entry)}

namespace Entry

lemma at?_nil (e : Entry) : e.at? [] = some e := by
  cases e <;> rfl

lemma at?_file (text : String) (name : String) (p : Place) :
    (file text).at? (name :: p) = none := rfl

lemma at?_directory (name : String) (p : Place) :
    (directory es).at? (name :: p) = (Keyed.get? name es).bind (at? · p) := by
  rw [at?]
  cases Keyed.get? name es <;> rfl

/-- A place below a place is looked up from there. -/
lemma at?_append (e : Entry) (p q : Place) : e.at? (p ++ q) = (e.at? p).bind (at? · q) := by
  induction p generalizing e with
  | nil => rw [List.nil_append, at?_nil, Option.bind_some]
  | cons name p ih =>
    cases e with
    | file text => rw [List.cons_append, at?_file, at?_file, Option.bind_none]
    | directory es =>
      rw [List.cons_append, at?_directory, at?_directory]
      cases Keyed.get? name es with
      | none => rfl
      | some e => exact ih e

lemma at?_singleton : (directory es).at? [name] = Keyed.get? name es := by
  rw [at?_directory]
  cases Keyed.get? name es with
  | none => rfl
  | some e => exact at?_nil e

/-- What stands at a place of a directory depends on what stands under the first name. -/
lemma at?_cons_congr {es es' : List (String × Entry)} (h : Keyed.get? name es = Keyed.get? name es')
    (p : Place) : (directory es).at? (name :: p) = (directory es').at? (name :: p) := by
  rw [at?_directory, at?_directory, h]

lemma at?_cons_insert (name : String) (e : Entry) (es : List (String × Entry)) (p : Place) :
    (directory (Keyed.insert name e es)).at? (name :: p) = e.at? p := by
  rw [at?_directory, Keyed.get?_insert_self, Option.bind_some]

lemma at?_cons_of_get? (h : Keyed.get? name es = some e) (p : Place) :
    (directory es).at? (name :: p) = e.at? p := by
  rw [at?_directory, h, Option.bind_some]

/-- What is not at or below the place of a change stays. -/
lemma content_at?_put (h : ¬ p <+: q) :
    ((directory (put e p es)).at? q).map content = ((directory es).at? q).map content := by
  fun_induction put e p es generalizing q with
  | case1 => exact (h List.nil_prefix).elim
  | case2 name es =>
    cases q with
    | nil => rfl
    | cons name' q =>
      have hne : name' ≠ name := by
        rintro rfl
        exact h (List.cons_prefix_cons.mpr ⟨rfl, List.nil_prefix⟩)
      rw [at?_cons_congr (Keyed.get?_insert_of_ne _ _ _ hne)]
  | case3 name rest es hrest inner hinner ih =>
    cases q with
    | nil => rfl
    | cons name' q =>
      by_cases hname : name' = name
      · subst hname
        rw [at?_cons_insert, at?_cons_of_get? hinner]
        exact ih fun hrest => h (List.cons_prefix_cons.mpr ⟨rfl, hrest⟩)
      · rw [at?_cons_congr (Keyed.get?_insert_of_ne _ _ _ hname)]
  -- a file is in the way, and nothing is put
  | case4 => rfl

/-- What is put into a directory stands in it under its name. -/
lemma at?_put_append (h : (directory es).at? d = some (directory inner)) :
    (directory (put e (d ++ [name]) es)).at? d = some (directory (Keyed.insert name e inner)) := by
  induction d generalizing es with
  | nil =>
    rw [at?_nil] at h ⊢
    cases h
    rfl
  | cons first d ih =>
    rw [at?_directory] at h
    cases hfirst : Keyed.get? first es with
    | none => simp [hfirst] at h
    | some x =>
      rw [hfirst, Option.bind_some] at h
      cases x with
      -- the place is a directory, so no file is on the way to it
      | file text => cases d <;> cases h
      | directory inner' =>
        have hput : put e (first :: d ++ [name]) es
            = Keyed.insert first (directory (put e (d ++ [name]) inner')) es := by
          rw [List.cons_append, put, hfirst]
          exact List.concat_ne_nil _ _
        rw [hput, at?_cons_insert]
        exact ih h

/-- What is at or below the place of a removal is gone, and all else stays. -/
lemma content_at?_remove (h : p ≠ []) :
    ((directory (remove p es)).at? q).map content
      = if p <+: q then none else ((directory es).at? q).map content := by
  fun_induction remove p es generalizing q with
  | case1 => exact (h rfl).elim
  | case2 name es =>
    cases q with
    | nil => rfl
    | cons name' q =>
      by_cases hname : name' = name
      · subst hname
        simp [at?_directory, Keyed.get?_erase]
      · have hget : Keyed.get? name' (Keyed.erase name es) = Keyed.get? name' es := by
          rw [Keyed.get?_erase, if_neg hname]
        rw [at?_cons_congr hget, if_neg]
        exact fun hprefix => hname (List.cons_prefix_cons.mp hprefix).1.symm
  | case3 name rest es hrest inner hinner ih =>
    cases q with
    | nil => rfl
    | cons name' q =>
      by_cases hname : name' = name
      · subst hname
        simp only [at?_cons_insert, at?_cons_of_get? hinner, ih hrest, List.cons_prefix_cons,
          true_and]
      · rw [at?_cons_congr (Keyed.get?_insert_of_ne _ _ _ hname), if_neg]
        exact fun hprefix => hname (List.cons_prefix_cons.mp hprefix).1.symm
  -- nothing is beneath a file, so there is nothing to remove
  | case4 name rest es hrest hfile =>
    split_ifs with hprefix
    · obtain ⟨below, rfl⟩ := hprefix
      rw [List.cons_append, at?_directory]
      cases hx : Keyed.get? name es with
      | none => rfl
      | some x =>
        cases x with
        | file text =>
          obtain ⟨first, rest, rfl⟩ := List.exists_cons_of_ne_nil hrest
          rfl
        | directory inner => exact (hfile inner hx).elim
    · rfl

end Entry

namespace FileTree

variable {t t' : FileTree}

/-! ### What stands at a place -/

/-- Putting something in changes only what is at its place or below. -/
lemma content?_put_of_not_below (h : ¬ p <+: q) : (t.put p e).content? q = t.content? q :=
  Entry.content_at?_put h

/-- Removing something takes away what is at its place and below, and nothing else. -/
lemma content?_remove (h : p ≠ []) :
    (t.remove p).content? q = if p <+: q then none else t.content? q :=
  Entry.content_at?_remove h

lemma entry?_of_directory (h : t.content? p = some .directory) :
    ∃ es, t.entry? p = some (.directory es) := by
  obtain ⟨x, hx, hdirectory⟩ := Option.map_eq_some_iff.mp h
  cases x with
  | file text => cases hdirectory
  | directory es => exact ⟨es, hx⟩

/-- What was put into a directory is there. -/
lemma entry?_put_self (h : t.content? d = some .directory) :
    FileTree.entry? (t.put (d ++ [name]) e) (d ++ [name]) = some e := by
  obtain ⟨inner, hinner⟩ := entry?_of_directory h
  have hput : (Entry.directory (t.put (d ++ [name]) e).root).at? d
      = some (.directory (Keyed.insert name e inner)) := Entry.at?_put_append hinner
  unfold entry?
  rw [Entry.at?_append, hput, Option.bind_some, Entry.at?_singleton, Keyed.get?_insert_self]

lemma content?_put_self (h : t.content? d = some .directory) :
    (t.put (d ++ [name]) e).content? (d ++ [name]) = some e.content := by
  rw [content?, entry?_put_self h, Option.map_some]

/-- There are no directories below a place that is not one itself. -/
lemma not_prefix_of_directory (hp : t.content? p ≠ some .directory)
    (hq : t.content? q = some .directory) : ¬ p <+: q := by
  rintro ⟨below, rfl⟩
  obtain ⟨es, hes⟩ := entry?_of_directory hq
  rw [ entry?, Entry.at?_append] at hes
  obtain ⟨x, hx, hbelow⟩ := Option.bind_eq_some_iff.mp hes
  have hcontent : t.content? p = some x.content := by
    rw [content?, entry?, hx, Option.map_some]
  cases x with
  | file text => cases below <;> cases hbelow
  | directory inner => exact hp hcontent

/-! ### Trails -/

/-- A trail leads through the tree, from one directory to the next. -/
def Leads (t : FileTree) : Trail → Prop
  | [] => True
  | (name, es) :: r => t.Leads r ∧ Keyed.get? name (t.entriesAt r) = some (.directory es)

lemma leads_nil (t : FileTree) : t.Leads [] := trivial

variable {r r' u : Trail}

lemma place_cons (name : String) (es : List (String × Entry)) (r : Trail) :
    Trail.place ((name, es) :: r) = r.place ++ [name] := by
  simp [Trail.place]

lemma place_drop (r : Trail) : Trail.place (r.drop 1) = r.place.dropLast := by
  cases r with
  | nil => rfl
  | cons x r => simp [Trail.place]

/-- The place of a trail is the directory that the trail ends in. -/
lemma Leads.entry_place (h : t.Leads r) : t.entry? r.place = some (.directory (t.entriesAt r)) := by
  induction r with
  | nil => rfl
  | cons x r ih =>
    obtain ⟨name, es⟩ := x
    obtain ⟨hr, hname⟩ := h
    have hplace := ih hr
    rw [ FileTree.entry?] at hplace ⊢
    rw [place_cons, Entry.at?_append, hplace, Option.bind_some, Entry.at?_singleton, hname]
    rfl

lemma Leads.drop (h : t.Leads r) : t.Leads (r.drop 1) := by
  cases r with
  | nil => trivial
  | cons x r => exact h.1

/-- A name in the directory at the end of a trail. -/
lemma Leads.entry?_name (h : t.Leads r) (name : String) :
    t.entry? (r.place ++ [name]) = Keyed.get? name (t.entriesAt r) := by
  have hplace := h.entry_place
  rw [ FileTree.entry?] at hplace ⊢
  rw [Entry.at?_append, hplace, Option.bind_some, Entry.at?_singleton]

lemma Leads.content?_name (h : t.Leads r) (name : String) :
    t.content? (r.place ++ [name]) = (Keyed.get? name (t.entriesAt r)).map Entry.content := by
  rw [content?, h.entry?_name]

/-- A trail that leads through the tree still does after one more segment. -/
lemma Leads.enter (h : t.Leads r) {segment : String} (hu : t.enter r segment = .ok u) :
    t.Leads u := by
  rw [FileTree.enter] at hu
  split_ifs at hu
  · cases hu
    exact h
  · cases hu
    exact h.drop
  · split at hu
    · cases hu
    · cases hu
      exact ⟨h, ‹_›⟩
    · cases hu

lemma Leads.enterAll (h : t.Leads r) {segments : List String}
    (hu : segments.foldlM t.enter r = .ok u) : t.Leads u := by
  induction segments generalizing r with
  | nil =>
    cases hu
    exact h
  | cons segment segments ih =>
    obtain ⟨m, hm, hu⟩ := bind_eq_ok_iff.mp hu
    exact ih (h.enter hm) hu

/-- The entry that a path ends in is in a directory. -/
lemma Leads.followFrom (h : t.Leads r) {segments : List String} {name : String} {slash : Bool}
    (hd : t.followFrom r segments = .ok (.entry d name slash)) :
    t.content? d = some .directory := by
  induction segments generalizing r with
  | nil => cases hd
  | cons segment segments ih =>
    rw [FileTree.followFrom] at hd
    split_ifs at hd
    · cases hd
    · cases hd
    · cases hd
      rw [content?, h.entry_place]
      rfl
    · obtain ⟨m, hm, hd⟩ := bind_eq_ok_iff.mp hd
      exact ih (h.enter hm) hd

/-- A path leads to a name in a directory. -/
lemma directory_of_follow {path : Path} {slash : Bool}
    (h : t.follow path = .ok (.entry d name slash)) : t.content? d = some .directory := by
  rw [follow] at h
  split_ifs at h
  · exact (leads_nil t).followFrom h
  · obtain ⟨r, hr, h⟩ := bind_eq_ok_iff.mp h
    exact ((leads_nil t).enterAll hr).followFrom h

/-! ### Trees with the same directories -/

/-- No directory is lost from the one tree to the other. -/
structure Keeps (t t' : FileTree) : Prop where
  workingDirectory : t'.workingDirectory = t.workingDirectory
  directory : ∀ p, t.content? p = some .directory → t'.content? p = some .directory

namespace Keeps

lemma refl (t : FileTree) : Keeps t t := ⟨rfl, fun _ hp => hp⟩

lemma trans {t'' : FileTree} (h : Keeps t t') (h' : Keeps t' t'') : Keeps t t'' :=
  ⟨h'.workingDirectory.trans h.workingDirectory, fun p hp => h'.directory p (h.directory p hp)⟩

lemma put (h : t.content? p ≠ some .directory) : Keeps t (t.put p e) where
  workingDirectory := rfl
  directory _ hq := (content?_put_of_not_below (not_prefix_of_directory h hq)).trans hq

lemma remove (h : t.content? p ≠ some .directory) : Keeps t (t.remove p) where
  workingDirectory := rfl
  directory q hq := by
    have hp : p ≠ [] := by
      rintro rfl
      exact h rfl
    rw [content?_remove hp, if_neg (not_prefix_of_directory h hq), hq]

/-- From the same place a segment leads to the same place. -/
lemma enter (h : Keeps t t') (hr : t.Leads r) (hr' : t'.Leads r') (hplace : r'.place = r.place)
    {segment : String} (hu : t.enter r segment = .ok u) :
    ∃ u', t'.enter r' segment = .ok u' ∧ t'.Leads u' ∧ u'.place = u.place := by
  rw [FileTree.enter] at hu ⊢
  split_ifs at hu ⊢
  · cases hu
    exact ⟨r', rfl, hr', hplace⟩
  · cases hu
    exact ⟨_, rfl, hr'.drop, by rw [place_drop, place_drop, hplace]⟩
  · split at hu
    · cases hu
    · rename_i es hes
      cases hu
      have hdirectory : t'.content? (r'.place ++ [segment]) = some .directory := by
        refine hplace ▸ h.directory _ ?_
        rw [hr.content?_name, hes]
        rfl
      rw [hr'.content?_name] at hdirectory
      obtain ⟨x, hx, hcontent⟩ := Option.map_eq_some_iff.mp hdirectory
      cases x with
      | file text => cases hcontent
      | directory es' =>
        rw [hx]
        exact ⟨_, rfl, ⟨hr', hx⟩, by rw [place_cons, place_cons, hplace]⟩
    · cases hu

/-- The same segments can be walked while no directory is lost, and lead to the same place. -/
lemma enterAll (h : Keeps t t') (hr : t.Leads r) (hr' : t'.Leads r') (hplace : r'.place = r.place)
    {segments : List String} (hu : segments.foldlM t.enter r = .ok u) :
    ∃ u', segments.foldlM t'.enter r' = .ok u' ∧ t'.Leads u' ∧ u'.place = u.place := by
  induction segments generalizing r r' with
  | nil =>
    cases hu
    exact ⟨r', rfl, hr', hplace⟩
  | cons segment segments ih =>
    obtain ⟨m, hm, hu⟩ := bind_eq_ok_iff.mp hu
    obtain ⟨m', hm', hleads, hmplace⟩ := h.enter hr hr' hplace hm
    obtain ⟨u', hu', hend⟩ := ih (hr.enter hm) hleads hmplace hu
    exact ⟨u', bind_eq_ok_iff.mpr ⟨m', hm', hu'⟩, hend⟩

/-- The segments lead to the same target while no directory is lost. -/
lemma followFrom (h : Keeps t t') (hr : t.Leads r) (hr' : t'.Leads r')
    (hplace : r'.place = r.place) {segments : List String} {target : Target}
    (hx : t.followFrom r segments = .ok target) : t'.followFrom r' segments = .ok target := by
  induction segments generalizing r r' with
  | nil => rwa [FileTree.followFrom, hplace]
  | cons segment segments ih =>
    rw [FileTree.followFrom] at hx ⊢
    split_ifs at hx ⊢
    · rwa [hplace]
    · rwa [place_drop, hplace, ← place_drop]
    · rwa [hplace]
    · obtain ⟨m, hm, hx⟩ := bind_eq_ok_iff.mp hx
      obtain ⟨m', hm', hleads, hmplace⟩ := h.enter hr hr' hplace hm
      exact bind_eq_ok_iff.mpr ⟨m', hm', ih (hr.enter hm) hleads hmplace hx⟩

/-- A path leads to where it led before. -/
theorem follow (h : Keeps t t') {path : Path} {target : Target}
    (hx : t.follow path = .ok target) : t'.follow path = .ok target := by
  rw [FileTree.follow] at hx ⊢
  split_ifs at hx ⊢
  · exact h.followFrom (leads_nil t) (leads_nil t') rfl hx
  · obtain ⟨r, hr, hx⟩ := bind_eq_ok_iff.mp hx
    obtain ⟨r', hr', hleads, hplace⟩ := h.enterAll (leads_nil t) (leads_nil t') rfl hr
    rw [h.workingDirectory]
    exact bind_eq_ok_iff.mpr
      ⟨r', hr', h.followFrom ((leads_nil t).enterAll hr) hleads hplace hx⟩

end Keeps

end FileTree

end Patchbay
