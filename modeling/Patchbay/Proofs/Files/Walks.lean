import Patchbay.Proofs.Files.Paths
import Patchbay.Proofs.Files.Saving
import Patchbay.Proofs.Lists

/-!
# Paths followed component by component

The segments of a path that do not count change nothing on the way, so a path leads where its
components lead. What a path leads to is there only if each of its names is.
-/

namespace Patchbay.FileTree

open Patchbay.Path (Component)

variable {t t' : FileTree} {r u : Trail} {cs ds : List Component} {p : Path} {target : Target}
  {d : Place} {name : String} {slash : Bool}

/-! ### Where components lead -/

/-- The directory that components lead to from another. -/
def walkFrom (t : FileTree) (r : Trail) (cs : List Component) : Except OsError Trail :=
  (cs.map Component.text).foldlM t.enter r

/-- The directory that components begin in. -/
def startOf (t : FileTree) (cs : List Component) : Except OsError Trail :=
  if cs.head? = some .root then .ok [] else t.workingDirectory.foldlM t.enter []

def walk (t : FileTree) (cs : List Component) : Except OsError Trail := do
  t.walkFrom (← t.startOf cs) cs

lemma walk_ok_iff :
    t.walk cs = .ok u ↔ ∃ start, t.startOf cs = .ok start ∧ t.walkFrom start cs = .ok u :=
  bind_eq_ok_iff

lemma walkFrom_append_ok_iff : t.walkFrom r (cs ++ ds) = .ok u ↔
    ∃ m, t.walkFrom r cs = .ok m ∧ t.walkFrom m ds = .ok u := by
  rw [walkFrom, List.map_append, List.foldlM_append, bind_eq_ok_iff]
  rfl

lemma walkFrom_singleton (r : Trail) (c : Component) : t.walkFrom r [c] = t.enter r c.text := by
  rw [walkFrom, List.map_singleton, List.foldlM_cons]
  cases t.enter r c.text <;> rfl

/-- Walking a path whose end begins no new path is walking its beginning first. -/
lemma walk_append_ok (h : t.walk (cs ++ ds) = .ok u) (hds : ds.head? ≠ some .root) :
    ∃ m, t.walk cs = .ok m ∧ t.walkFrom m ds = .ok u := by
  obtain ⟨start, hstart, h⟩ := walk_ok_iff.mp h
  obtain ⟨m, hm, hu⟩ := walkFrom_append_ok_iff.mp h
  refine ⟨m, walk_ok_iff.mpr ⟨start, ?_, hm⟩, hu⟩
  cases cs with
  | nil => rwa [startOf, List.nil_append, if_neg hds] at hstart
  | cons c cs => exact hstart

lemma leads_startOf (h : t.startOf cs = .ok u) : t.Leads u := by
  rw [startOf] at h
  split_ifs at h
  · cases h
    exact leads_nil t
  · exact (leads_nil t).enterAll h

lemma leads_walk (h : t.walk cs = .ok u) : t.Leads u := by
  obtain ⟨start, hstart, h⟩ := walk_ok_iff.mp h
  exact (leads_startOf hstart).enterAll h

namespace Keeps

/-- The start of a walk stays where it is while no directory is lost. -/
lemma startOf (h : Keeps t t') (hr : t.startOf cs = .ok r) :
    ∃ r', t'.startOf cs = .ok r' ∧ t'.Leads r' ∧ r'.place = r.place := by
  rw [FileTree.startOf] at hr ⊢
  split_ifs at hr ⊢
  · cases hr
    exact ⟨[], rfl, leads_nil t', rfl⟩
  · rw [h.workingDirectory]
    exact h.enterAll (leads_nil t) (leads_nil t') rfl hr

/-- Components lead to where they led before. -/
lemma walk (h : Keeps t t') (hr : t.walk cs = .ok r) :
    ∃ r', t'.walk cs = .ok r' ∧ t'.Leads r' ∧ r'.place = r.place := by
  obtain ⟨start, hstart, hr⟩ := walk_ok_iff.mp hr
  obtain ⟨start', hstart', hleads, hplace⟩ := h.startOf hstart
  obtain ⟨r', hr', hends⟩ := h.enterAll (leads_startOf hstart) hleads hplace hr
  exact ⟨r', walk_ok_iff.mpr ⟨start', hstart', hr'⟩, hends⟩

end Keeps

/-! ### Where paths lead -/

/-- A target is reached on a way: the components lead to it, or to the directory of the last one. -/
inductive Reaches (way : List Component → Except OsError Trail) :
    List Component → Target → Prop
  | directory {cs : List Component} {u : Trail} (h : way cs = .ok u) :
      Reaches way cs (.directory u.place)
  | entry {cs : List Component} {u : Trail} (h : way cs = .ok u) (name : String) (slash : Bool) :
      Reaches way (cs ++ [.name name]) (.entry u.place name slash)

/-- What is reached from the end of a way is reached from its start. -/
lemma Reaches.prepend {way way' : List Component → Except OsError Trail}
    (h : Reaches way cs target) (above : List Component)
    (hway : ∀ cs' u, cs' <+: cs → way cs' = .ok u → way' (above ++ cs') = .ok u) :
    Reaches way' (above ++ cs) target := by
  cases h with
  | directory h => exact .directory (hway _ _ (List.prefix_refl _) h)
  | entry h name slash =>
    rw [← List.append_assoc]
    exact .entry (hway _ _ (List.prefix_append _ _) h) name slash

/-- A segment that counts is walked as its component, and one that does not count is not walked. -/
lemma walkFrom_ofSegment? {segment : String} (h : t.enter r segment = .ok u) :
    t.walkFrom r (Component.ofSegment? segment).toList = .ok u := by
  cases hc : Component.ofSegment? segment with
  | none =>
    rw [Component.ofSegment?] at hc
    split_ifs at hc with hskipped
    rwa [enter, if_pos hskipped] at h
  | some c =>
    rw [Option.toList_some, walkFrom_singleton, Component.text_of_ofSegment? hc, h]

lemma filterMap_empty {segments : List String} (h : segments.all (· = "")) :
    segments.filterMap Component.ofSegment? = [] := by
  rw [List.filterMap_eq_nil_iff]
  intro s hs
  obtain rfl : s = "" := by simpa using List.all_eq_true.mp h s hs
  rfl

/-- The segments of a path lead to where their components lead. -/
lemma followFrom_reaches {segments : List String} (h : t.followFrom r segments = .ok target) :
    Reaches (t.walkFrom r) (segments.filterMap Component.ofSegment?) target := by
  induction segments generalizing r with
  | nil =>
    cases h
    exact .directory rfl
  | cons segment rest ih =>
    have hcons : (segment :: rest).filterMap Component.ofSegment?
        = (Component.ofSegment? segment).toList ++ rest.filterMap Component.ofSegment? := by
      cases hc : Component.ofSegment? segment <;> simp [hc]
    rw [followFrom] at h
    rw [hcons]
    split_ifs at h with hlast hhere hup
    · cases h
      -- a dot at the end, and a way up, leave the path at a directory
      subst hhere
      rw [filterMap_empty hlast.1]
      exact .directory rfl
    · cases h
      subst hup
      rw [filterMap_empty hlast.1]
      exact .directory rfl
    · cases h
      rw [filterMap_empty hlast.1, List.append_nil, Component.ofSegment?,
        if_neg (not_or.mpr ⟨hlast.2, hhere⟩), if_neg hup]
      have hend : t.walkFrom r [] = .ok r := rfl
      exact .entry hend segment _
    · obtain ⟨m, hm, h⟩ := bind_eq_ok_iff.mp h
      exact (ih h).prepend _ fun cs u _ hu =>
        walkFrom_append_ok_iff.mpr ⟨m, walkFrom_ofSegment? hm, hu⟩

/-- A path leads to where its components lead. -/
theorem follow_reaches (h : t.follow p = .ok target) : Reaches t.walk p.components target := by
  rw [follow] at h
  split_ifs at h with hnull hempty hlong habsolute
  · rw [Path.components, if_pos habsolute]
    refine (followFrom_reaches h).prepend [.root] fun cs u _ hu => ?_
    exact walk_ok_iff.mpr ⟨[], rfl, hu⟩
  · obtain ⟨start, hstart, h⟩ := bind_eq_ok_iff.mp h
    have hroot : ∀ cs, cs <+: p.segments.filterMap Component.ofSegment? →
        cs.head? ≠ some .root := by
      intro cs hcs hhead
      obtain ⟨segment, -, hsegment⟩ :=
        List.mem_filterMap.mp (hcs.subset (List.mem_of_head? hhead))
      rw [Component.ofSegment?] at hsegment
      split_ifs at hsegment <;> cases hsegment
    rw [Path.components, if_neg habsolute]
    split_ifs
    · refine (followFrom_reaches h).prepend [.here] fun cs u _ hu => ?_
      exact walk_ok_iff.mpr ⟨start, hstart, hu⟩
    · refine (followFrom_reaches h).prepend [] fun cs u hcs hu => ?_
      refine walk_ok_iff.mpr ⟨start, ?_, hu⟩
      rwa [startOf, List.nil_append, if_neg (hroot cs hcs)]

/-! ### Names on the way -/

/-- A segment that is a name leads into the directory of this name. -/
lemma enter_name (hname : Component.ofSegment? name = some (.name name))
    (h : t.enter r name = .ok u) :
    ∃ es, Keyed.get? name (t.entriesAt r) = some (.directory es) ∧ u = (name, es) :: r := by
  rw [Component.ofSegment?] at hname
  split_ifs at hname with hskipped hup
  · cases hname
  rw [enter, if_neg hskipped, if_neg hup] at h
  split_ifs at h
  split at h
  · cases h
  · cases h
    exact ⟨_, ‹_›, rfl⟩
  · cases h

/-- Every name on the way of a path that leads to something is there. -/
theorem exists_of_look {c : Content} (h : t.look p = .ok c)
    (hp : p.components = cs ++ .name name :: ds) :
    ∃ r e, t.walk cs = .ok r ∧ Keyed.get? name (t.entriesAt r) = some e := by
  have hname : Component.ofSegment? name = some (.name name) :=
    (Path.proper_components p).ofSegment?_name
      (hp ▸ List.mem_append_right _ List.mem_cons_self)
  -- a name that others follow is walked through
  have hpast : ∀ {rest u}, t.walk (cs ++ .name name :: rest) = .ok u →
      ∃ r e, t.walk cs = .ok r ∧ Keyed.get? name (t.entriesAt r) = some e := by
    intro rest u hu
    obtain ⟨r, hr, hrest⟩ := walk_append_ok hu (by simp)
    obtain ⟨m, hm, -⟩ := bind_eq_ok_iff.mp hrest
    obtain ⟨es, hes, -⟩ := enter_name hname hm
    exact ⟨r, _, hr, hes⟩
  obtain ⟨target, hfollow, hlook⟩ := bind_eq_ok_iff.mp h
  have hreaches := follow_reaches hfollow
  rw [hp] at hreaches
  generalize hall : cs ++ .name name :: ds = all at hreaches
  cases hreaches with
  | directory hu => exact hpast (hall ▸ hu)
  | @entry above u hu last slash =>
    rcases split_concat hall.symm with ⟨rest, rfl, -⟩ | ⟨rfl, hlast, -⟩
    · exact hpast hu
    · cases hlast
      dsimp only at hlook
      rw [(leads_walk hu).content?_name] at hlook
      cases hget : Keyed.get? name (t.entriesAt u) with
      | none =>
        rw [hget] at hlook
        cases hlook
      | some e => exact ⟨u, e, hu, hget⟩

/-- A path that leads to a name ends in it, or in a slash after it. -/
lemma followFrom_last {segments : List String}
    (h : t.followFrom r segments = .ok (.entry d name slash)) :
    segments.getLast? = some (if slash then "" else name) ∧
      Component.ofSegment? name = some (.name name) := by
  induction segments generalizing r with
  | nil => cases h
  | cons segment rest ih =>
    rw [followFrom] at h
    split_ifs at h with hlast hhere hup
    · cases h
    · cases h
    · cases h
      refine ⟨?_, ?_⟩
      · cases hrest : rest.getLast? with
        | none =>
          obtain rfl := List.getLast?_eq_none_iff.mp hrest
          rfl
        | some s =>
          have hs : s = "" := by
            simpa using List.all_eq_true.mp hlast.1 s (List.mem_of_getLast? hrest)
          have hne : rest ≠ [] := by
            rintro rfl
            cases hrest
          rw [List.getLast?_cons, hrest, hs]
          simp [hne]
      · rw [Component.ofSegment?, if_neg (not_or.mpr ⟨hlast.2, hhere⟩), if_neg hup]
    · obtain ⟨m, -, h⟩ := bind_eq_ok_iff.mp h
      obtain ⟨hrest, hname⟩ := ih h
      exact ⟨by rw [List.getLast?_cons, hrest]; rfl, hname⟩

/-- The entry that a path ends in has the last name of the path. -/
lemma follow_last (h : t.follow p = .ok (.entry d name slash)) :
    p.segments.getLast? = some (if slash then "" else name) ∧
      Component.ofSegment? name = some (.name name) := by
  rw [follow] at h
  split_ifs at h
  · exact followFrom_last h
  · obtain ⟨start, -, h⟩ := bind_eq_ok_iff.mp h
    exact followFrom_last h

/-- A file and the temporary file beside it have two names. -/
theorem temporary_name_ne {d' : Place} {name' : String} (hne : p.temporary ≠ p)
    (h : t.follow p = .ok (.entry d name false))
    (h' : t'.follow p.temporary = .ok (.entry d' name' slash)) : name' ≠ name := by
  rintro rfl
  obtain ⟨hlast, hname⟩ := follow_last h
  obtain ⟨hlast', -⟩ := follow_last h'
  obtain ⟨before, htext, hbefore, hslash⟩ := Path.exists_before hlast
  rcases Path.temporary_eq htext hbefore hname hslash with hup | ⟨stem, htemporary, hstem⟩
  · -- a temporary path that ends in a way up ends in no entry
    rw [hup] at hlast'
    cases slash with
    | true => simp at hlast'
    | false =>
      obtain rfl := Option.some.inj hlast'
      cases hname
  · have hlast'' := Path.getLast?_segments htemporary hbefore (by simpa using hstem)
    rw [hlast''] at hlast'
    cases slash with
    | true => simp at hlast'
    | false =>
      obtain rfl := Option.some.inj hlast'
      exact hne (congrArg Path.mk (String.toList_inj.mp (htemporary.trans htext.symm)))

end Patchbay.FileTree
