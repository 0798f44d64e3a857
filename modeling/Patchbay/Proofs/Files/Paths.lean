import Patchbay.Preset
import Patchbay.Proofs.Text.Split

/-!
# Paths and their components

The path of some components has these components again, if each of them comes from a segment. A path
that leads on from another one has the components of both. The temporary file beside a file is in
the same directory and has another name.
-/

namespace Patchbay.Path

/-! ### Components -/

/-- A component that comes from a segment of a path. -/
def Component.IsSegment (c : Component) : Prop :=
  ofSegment? c.text = some c ∧ '/' ∉ c.text.toList

/-- A component has the text of the segment that it comes from. -/
lemma Component.text_of_ofSegment? {s : String} {c : Component} (h : ofSegment? s = some c) :
    c.text = s := by
  rw [ofSegment?] at h
  split_ifs at h with hskipped hup
  · cases h
    exact hup.symm
  · cases h
    rfl

/-- The components that a path can have: the first one may say where the path begins, all others
come from segments. -/
inductive Proper : List Component → Prop
  | root {cs : List Component} (h : ∀ c ∈ cs, c.IsSegment) : Proper (.root :: cs)
  | here {cs : List Component} (h : ∀ c ∈ cs, c.IsSegment) : Proper (.here :: cs)
  | segments {cs : List Component} (h : ∀ c ∈ cs, c.IsSegment) : Proper cs

variable {cs ds : List Component} {p : Path}

lemma slash_notMem_segments (p : Path) : ∀ s ∈ p.segments, '/' ∉ s.toList := by
  intro s hs
  obtain ⟨part, hpart, rfl⟩ := List.mem_map.mp hs
  rw [String.toList_ofList]
  exact Text.sep_notMem_of_mem_splitAt hpart

/-- The components of a path are proper ones. -/
lemma proper_components (p : Path) : Proper p.components := by
  have hnamed : ∀ c ∈ p.segments.filterMap Component.ofSegment?, c.IsSegment := by
    intro c hc
    obtain ⟨s, hs, hsegment⟩ := List.mem_filterMap.mp hc
    obtain rfl := Component.text_of_ofSegment? hsegment
    exact ⟨hsegment, slash_notMem_segments p _ hs⟩
  rw [components]
  split_ifs
  · exact .root hnamed
  · exact .here hnamed
  · exact .segments hnamed

lemma Proper.of_append (h : Proper (cs ++ ds)) : Proper cs := by
  cases cs with
  | nil => exact .segments (by simp)
  | cons c cs =>
    cases h with
    | root h => exact .root (List.forall_mem_append.mp h).1
    | here h => exact .here (List.forall_mem_append.mp h).1
    | segments h => exact .segments (List.forall_mem_append.mp h).1

/-- Only the first component does not come from a segment. -/
lemma Proper.isSegment {c : Component} (h : Proper (cs ++ c :: ds)) (hcs : cs ≠ []) :
    c.IsSegment := by
  obtain ⟨first, cs, rfl⟩ := List.exists_cons_of_ne_nil hcs
  cases h with
  | root h | here h => exact h c (List.mem_append_right _ List.mem_cons_self)
  | segments h => exact h c (List.mem_append_right _ List.mem_cons_self)

lemma Proper.ofSegment?_name {name : String} (h : Proper cs) (hname : .name name ∈ cs) :
    Component.ofSegment? name = some (.name name) := by
  cases h with
  | root h | here h => exact (h _ (by simpa using hname)).1
  | segments h => exact (h _ hname).1

lemma Proper.slash_notMem (h : Proper cs) : ∀ s ∈ cs.map Component.text, '/' ∉ s.toList := by
  refine List.forall_mem_map.mpr ?_
  cases h with
  | root h => exact List.forall_mem_cons.mpr ⟨by decide, fun c hc => (h c hc).2⟩
  | here h => exact List.forall_mem_cons.mpr ⟨by decide, fun c hc => (h c hc).2⟩
  | segments h => exact fun c hc => (h c hc).2

/-- A path is absolute exactly if it begins with an empty segment and has others. -/
lemma isAbsolute_iff : p.isAbsolute ↔ ∃ rest, rest ≠ [] ∧ p.segments = "" :: rest := by
  rw [isAbsolute, segments, decide_eq_true_iff]
  cases p.text.toList with
  | nil => simp [Text.splitAt_nil]
  | cons c cs =>
    rw [List.head?_cons, Option.some.injEq]
    by_cases hc : c = '/'
    · subst hc
      simp [Text.splitAt_cons_self, Text.splitAt_ne_nil]
    · obtain ⟨part, parts, -, hcons⟩ := Text.exists_splitAt_cons hc cs
      simp [hc, hcons]

/-- The texts of such components give them back. -/
lemma filterMap_text (h : ∀ c ∈ cs, c.IsSegment) :
    (cs.map Component.text).filterMap Component.ofSegment? = cs := by
  induction cs with
  | nil => rfl
  | cons c cs ih =>
    obtain ⟨hc, hcs⟩ := List.forall_mem_cons.mp h
    rw [List.map_cons, List.filterMap_cons_some hc.1, ih hcs]

/-- The segments of a path made from components are their texts. -/
lemma segments_ofComponents (h : Proper cs) (hcs : cs ≠ []) (hroot : cs ≠ [.root]) :
    (ofComponents cs).segments = cs.map Component.text := by
  obtain ⟨c, cs, rfl⟩ := List.exists_cons_of_ne_nil hcs
  have hsplit := Text.splitAt_intercalate h.slash_notMem
  rw [ofComponents, segments]
  · change (Text.splitAt '/' ((String.singleton '/').intercalate _).toList).map _ = _
    rw [List.map_cons, hsplit, List.map_map, ← List.map_cons]
    simp
  · exact hroot

/-- The path of components has them as its components. -/
theorem components_ofComponents (h : Proper cs) : (ofComponents cs).components = cs := by
  -- the path of the root alone has no segment that is not empty
  by_cases hroot : cs = [.root]
  · subst hroot
    rfl
  cases h with
  | @root cs h =>
    have hsegments := segments_ofComponents (.root h) (List.cons_ne_nil _ _) hroot
    have habsolute : (ofComponents (.root :: cs)).isAbsolute :=
      isAbsolute_iff.mpr ⟨_, by simpa using hroot, hsegments⟩
    rw [components, if_pos habsolute, hsegments]
    exact congrArg (Component.root :: ·) (filterMap_text h)
  | @here cs h =>
    have hsegments := segments_ofComponents (.here h) (List.cons_ne_nil _ _) hroot
    have hrelative : ¬ (ofComponents (.here :: cs)).isAbsolute := by
      rw [isAbsolute_iff, hsegments]
      rintro ⟨rest, -, hrest⟩
      exact absurd (List.cons.inj hrest).1 (by decide)
    have hhead : ((Component.here :: cs).map Component.text).head? = some "." := rfl
    rw [components, if_neg hrelative, hsegments, if_pos hhead]
    exact congrArg (Component.here :: ·) (filterMap_text h)
  | segments h =>
    cases cs with
    | nil => rfl
    | cons c cs =>
      have hsegments := segments_ofComponents (.segments h) (List.cons_ne_nil _ _) hroot
      obtain ⟨hc, -⟩ := h c List.mem_cons_self
      have hrelative : ¬ (ofComponents (c :: cs)).isAbsolute := by
        rw [isAbsolute_iff, hsegments]
        rintro ⟨rest, -, hrest⟩
        rw [(List.cons.inj hrest).1] at hc
        cases hc
      have hhead : ((c :: cs).map Component.text).head? ≠ some "." := by
        intro hhead
        rw [Option.some.inj hhead] at hc
        cases hc
      rw [components, if_neg hrelative, hsegments, if_neg hhead, filterMap_text h]

/-- The parent of a path has all its components but the last. -/
lemma parent?_eq_some {q : Path} (h : p.parent? = some q) :
    ∃ above c, p.components = above ++ [c] ∧ q = ofComponents above := by
  rw [parent?] at h
  split at h
  · cases h
  · cases h
  · rename_i c above _ hreverse
    cases h
    refine ⟨above.reverse, c, ?_, rfl⟩
    rw [← List.reverse_reverse p.components, hreverse, List.reverse_cons]

/-! ### Joined paths -/

/-- The components of a path that leads on from somewhere: a dot at its start does not count. -/
def onward (p : Path) : List Component := p.segments.filterMap Component.ofSegment?

lemma isSegment_of_mem_onward {c : Component} (h : c ∈ p.onward) : c.IsSegment := by
  obtain ⟨s, hs, hsegment⟩ := List.mem_filterMap.mp h
  obtain rfl := Component.text_of_ofSegment? hsegment
  exact ⟨hsegment, slash_notMem_segments p _ hs⟩

/-- Without the dot that a relative path may begin with, its components are those of its segments.
-/
lemma filter_components (h : ¬ p.isAbsolute) : p.components.filter (· ≠ .here) = p.onward := by
  have honward : p.onward.filter (· ≠ .here) = p.onward := by
    refine List.filter_eq_self.mpr fun c hc => ?_
    have hsegment := (isSegment_of_mem_onward hc).1
    rw [decide_eq_true_eq]
    rintro rfl
    cases hsegment
  rw [components, if_neg h]
  split_ifs
  · rw [List.filter_cons_of_neg (by simp)]
    exact honward
  · exact honward

/-- A joined path goes on after a slash. -/
lemma join_text (hq : ¬ q.isAbsolute) (hp : p.text ≠ "") : ∃ before,
    (p.join q).text.toList = before ++ '/' :: q.text.toList ∧
      (p.text.toList = before ∨ p.text.toList = before ++ ['/']) := by
  rw [join, if_neg (not_or.mpr ⟨hq, hp⟩)]
  split_ifs with hslash
  · obtain ⟨before, hbefore⟩ := List.getLast?_eq_some_iff.mp hslash
    exact ⟨before, by simp [hbefore], .inr hbefore⟩
  · exact ⟨p.text.toList, by simp, .inl rfl⟩

/-- A path that leads on from another one has the components of both. -/
theorem components_join (hq : ¬ q.isAbsolute) (hp : p.text ≠ "") :
    (p.join q).components = p.components ++ q.onward := by
  obtain ⟨before, hjoin, hbefore⟩ := join_text hq hp
  have hne : p.text.toList ≠ [] := by simpa using hp
  obtain ⟨part, parts, hparts⟩ := List.exists_cons_of_ne_nil (Text.splitAt_ne_nil '/' before)
  have hsegments : (p.join q).segments
      = (part :: parts).map String.ofList ++ q.segments := by
    rw [segments, hjoin, Text.splitAt_append, List.map_append, hparts, segments]
  -- the first path may end with a slash, which adds an empty segment
  have hpSegments : p.segments = (part :: parts).map String.ofList ∨
      p.segments = (part :: parts).map String.ofList ++ [""] := by
    rcases hbefore with h | h
    · exact .inl (by rw [segments, h, hparts])
    · exact .inr (by rw [segments, h, Text.splitAt_append, hparts, List.map_append]; rfl)
  have habsolute : (p.join q).isAbsolute = p.isAbsolute := by
    rw [isAbsolute, isAbsolute, hjoin]
    rcases hbefore with h | h
    · obtain ⟨c, cs, hcs⟩ := List.exists_cons_of_ne_nil hne
      simp [← h, hcs]
    · cases before <;> simp [h]
  have hnamed : (p.join q).onward = p.onward ++ q.onward := by
    rw [onward, onward, onward, hsegments, List.filterMap_append]
    rcases hpSegments with h | h
    · rw [h]
    · rw [h, List.filterMap_append]
      simp [Component.ofSegment?]
  have hhead : (p.join q).segments.head? = p.segments.head? := by
    rw [hsegments]
    rcases hpSegments with h | h <;> simp [h]
  unfold onward at hnamed
  rw [components, habsolute, hnamed, hhead, components]
  split_ifs <;> rfl

/-! ### The last segment -/

/-- A text before the last segment of a path. -/
def IsDirectory (before : List Char) : Prop := before = [] ∨ ∃ above, before = above ++ ['/']

variable {before : List Char} {name extension : String}

/-- What follows the last slash is the last segment. -/
lemma getLast?_segments (hp : p.text.toList = before ++ name.toList) (hbefore : IsDirectory before)
    (hname : '/' ∉ name.toList) : p.segments.getLast? = some name := by
  rw [segments, hp]
  rcases hbefore with rfl | ⟨above, rfl⟩
  · rw [List.nil_append, Text.splitAt_of_notMem hname]
    simp
  · rw [List.append_assoc, List.singleton_append, Text.splitAt_append,
      Text.splitAt_of_notMem hname]
    simp

/-- A path ends in its last segment. -/
lemma exists_before (h : p.segments.getLast? = some name) : ∃ before,
    p.text.toList = before ++ name.toList ∧ IsDirectory before ∧ '/' ∉ name.toList := by
  obtain ⟨before, part, htext, hpart, hbefore⟩ := Text.exists_last_part '/' p.text.toList
  have hlast : p.segments.getLast? = some (String.ofList part) :=
    getLast?_segments (by simpa using htext) hbefore (by simpa using hpart)
  obtain rfl : String.ofList part = name := Option.some.inj (hlast.symm.trans h)
  exact ⟨before, by simpa using htext, hbefore, by simpa using hpart⟩

/-- The last segment gives the last component, if it counts at all. -/
lemma getLast?_components {c : Component} (h : p.segments.getLast? = some name)
    (hc : Component.ofSegment? name = some c) : p.components.getLast? = some c := by
  obtain ⟨segments, hsegments⟩ := List.getLast?_eq_some_iff.mp h
  rw [components, hsegments, List.filterMap_append, List.filterMap_cons_some hc,
    List.filterMap_nil]
  split_ifs
  · rw [← List.cons_append, List.getLast?_concat]
  · rw [← List.cons_append, List.getLast?_concat]
  · rw [List.getLast?_concat]

/-! ### Extensions -/

lemma eq_takeWhile_append {cs : List Char} (h : (cs.dropWhile (· ≠ '.')).drop 1 ≠ []) :
    cs = cs.takeWhile (· ≠ '.') ++ '.' :: (cs.dropWhile (· ≠ '.')).drop 1 := by
  have hsplit := (List.takeWhile_append_dropWhile (p := (· ≠ '.')) (l := cs)).symm
  have hhead := List.head?_dropWhile_not (· ≠ '.') cs
  cases hafter : cs.dropWhile (· ≠ '.') with
  | nil => exact (h (by rw [hafter, List.drop_nil])).elim
  | cons c after =>
    rw [hafter, List.head?_cons] at hhead
    obtain rfl : c = '.' := by simpa using hhead
    rwa [hafter] at hsplit

/-- A name with an extension is put together from its parts. -/
lemma splitExtension_some (h : (splitExtension name).2 = some extension) :
    (splitExtension name).1 ≠ "" ∧
      name.toList = (splitExtension name).1.toList ++ '.' :: extension.toList := by
  rw [splitExtension] at h ⊢
  split_ifs at h ⊢ with hbefore
  cases h
  have hname := congrArg List.reverse (eq_takeWhile_append hbefore)
  rw [List.reverse_reverse] at hname
  exact ⟨by simpa using hbefore, hname.trans (by simp)⟩

lemma splitExtension_none (h : (splitExtension name).2 = none) :
    (splitExtension name).1 = name := by
  rw [splitExtension] at h ⊢
  split_ifs at h ⊢
  rfl

/-- A dot at the end of a name begins an empty extension. -/
lemma splitExtension_dot (h : name ≠ "") : splitExtension (name ++ ".") = (name, some "") := by
  rw [splitExtension]
  simp [h]

lemma dropTail_of_name {c : Char} {cs : List Char} (hc : c ≠ '/')
    (hdot : c = '.' → cs.head? ≠ some '/') : dropTail (c :: cs) = c :: cs := by
  cases cs with
  | nil =>
    rw [dropTail]
    · rintro cs ⟨⟩
      exact hc rfl
    · rintro cs ⟨⟩
  | cons d cs =>
    rw [dropTail]
    · rintro cs ⟨⟩
      exact hc rfl
    · rintro cs ⟨⟩
      exact hdot rfl rfl

/-- Where a path ends in a name, its extension is set in this name. -/
lemma setExtension_eq (hp : p.text.toList = before ++ name.toList) (hbefore : IsDirectory before)
    (hname : Component.ofSegment? name = some (.name name)) (hslash : '/' ∉ name.toList)
    (extension : String) : (p.setExtension extension).text.toList
      = before ++ ((splitExtension name).1 ++ "." ++ extension).toList := by
  have hlast : p.fileName? = some name := by
    rw [fileName?, getLast?_components (getLast?_segments hp hbefore hslash) hname]
  -- a proper name leaves nothing at the end of the path that would be dropped
  have htail : dropTail p.text.toList.reverse = p.text.toList.reverse := by
    rw [hp, List.reverse_append]
    cases hreverse : name.toList.reverse with
    | nil =>
      obtain rfl : name = "" := by simpa using hreverse
      cases hname
    | cons c cs =>
      have hmem : ∀ d ∈ c :: cs, d ≠ '/' := by
        rintro _ hd rfl
        rw [← hreverse, List.mem_reverse] at hd
        exact hslash hd
      refine dropTail_of_name (hmem c List.mem_cons_self) ?_
      rintro rfl
      cases cs with
      | nil =>
        obtain rfl : name = "." := by
          rw [← String.toList_inj, ← List.reverse_inj, hreverse]
          rfl
        cases hname
      | cons d cs => simpa using hmem d (by simp)
  rw [setExtension, hlast]
  dsimp only
  rw [htail, List.reverse_reverse, hp]
  simp [String.length_toList]

/-- The temporary file beside a file has a name with the extension `tmp` in the same directory.
Where the extension of the file leaves only a dot there is none: its path leads upwards then. -/
theorem temporary_eq (hp : p.text.toList = before ++ name.toList) (hbefore : IsDirectory before)
    (hname : Component.ofSegment? name = some (.name name)) (hslash : '/' ∉ name.toList) :
    p.temporary.segments.getLast? = some ".." ∨
      ∃ stem, p.temporary.text.toList = before ++ (stem ++ ".tmp").toList ∧ '/' ∉ stem.toList := by
  have hlast : p.fileName? = some name := by
    rw [fileName?, getLast?_components (getLast?_segments hp hbefore hslash) hname]
  have hbind : (p.fileName?.bind fun name => (splitExtension name).2)
      = (splitExtension name).2 := by rw [hlast, Option.bind_some]
  rw [temporary, withExtension, hbind]
  cases hextension : (splitExtension name).2 with
  | none =>
    refine .inr ⟨name, ?_, hslash⟩
    dsimp only
    rw [setExtension_eq hp hbefore hname hslash, splitExtension_none hextension,
      String.append_assoc]
    rfl
  | some extension =>
    obtain ⟨hstem, hparts⟩ := splitExtension_some hextension
    generalize (splitExtension name).1 = stem at hstem hparts
    have hstemSlash : '/' ∉ stem.toList := by
      intro hmem
      exact hslash (hparts ▸ List.mem_append_left _ hmem)
    -- first the old extension is cut off, up to the dot
    have hcut : (p.text.dropEnd extension.length).toString.toList
        = before ++ (stem ++ ".").toList := by
      have htext : p.text.toList = before ++ (stem ++ ".").toList ++ extension.toList := by
        rw [hp, hparts]
        simp
      rw [String.Slice.toString_eq, String.toList_copy_dropEnd, htext, List.length_append,
        ← String.length_toList, Nat.add_sub_cancel, List.take_left]
    dsimp only
    generalize (p.text.dropEnd extension.length).toString = cut at hcut
    have hdotSlash : '/' ∉ (stem ++ ".").toList := by simpa using hstemSlash
    by_cases hdot : stem = "."
    · left
      subst hdot
      have hup := getLast?_segments (p := ⟨cut⟩) hcut hbefore hdotSlash
      rw [setExtension, fileName?, getLast?_components hup rfl]
      exact hup
    · right
      have hstemName : Component.ofSegment? (stem ++ ".") = some (.name (stem ++ ".")) := by
        have hne : stem ++ "." ≠ "" ∧ stem ++ "." ≠ "." ∧ stem ++ "." ≠ ".." := by
          refine ⟨?_, fun h => hstem ?_, fun h => hdot ?_⟩
          · simp
          · exact (String.append_left_inj _).mp h
          · exact (String.append_left_inj _).mp h
        rw [Component.ofSegment?, if_neg (not_or.mpr ⟨hne.1, hne.2.1⟩), if_neg hne.2.2]
      refine ⟨stem, ?_, hstemSlash⟩
      rw [setExtension_eq (p := ⟨cut⟩) hcut hbefore hstemName hdotSlash, splitExtension_dot hstem,
        String.append_assoc]
      rfl

end Patchbay.Path
