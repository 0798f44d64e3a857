import Mathlib.Tactic.Common
import Patchbay.Text.Split

/-!
# Names come back from a joined list

Names that are not empty and hold no comma are joined with commas and split again without a change.
So are the names in a path, which are joined by slashes.
-/

namespace Patchbay.Text

variable {sep c : Char} {cs : List Char}

lemma splitAt_nil (sep : Char) : splitAt sep [] = [[]] := rfl

lemma splitAt_cons_self (sep : Char) (cs : List Char) :
    splitAt sep (sep :: cs) = [] :: splitAt sep cs :=
  if_pos rfl

lemma splitAt_ne_nil (sep : Char) (cs : List Char) : splitAt sep cs ≠ [] := by
  cases cs with
  | nil => exact List.cons_ne_nil _ _
  | cons c cs =>
    rw [splitAt]
    split_ifs
    · exact List.cons_ne_nil _ _
    · split <;> exact List.cons_ne_nil _ _

/-- Any other character belongs to the first part. -/
lemma exists_splitAt_cons (hc : c ≠ sep) (cs : List Char) : ∃ part parts,
    splitAt sep cs = part :: parts ∧ splitAt sep (c :: cs) = (c :: part) :: parts := by
  obtain ⟨part, parts, hparts⟩ := List.exists_cons_of_ne_nil (splitAt_ne_nil sep cs)
  refine ⟨part, parts, hparts, (if_neg hc).trans ?_⟩
  rw [hparts]

lemma splitAt_of_notMem (h : sep ∉ cs) : splitAt sep cs = [cs] := by
  induction cs with
  | nil => rfl
  | cons c cs ih =>
    rw [List.mem_cons, not_or] at h
    obtain ⟨part, parts, hparts, hcons⟩ := exists_splitAt_cons (Ne.symm h.1) cs
    rw [ih h.2] at hparts
    cases hparts
    exact hcons

/-- At a separator a text comes apart into two. -/
lemma splitAt_append (sep : Char) (cs rest : List Char) :
    splitAt sep (cs ++ sep :: rest) = splitAt sep cs ++ splitAt sep rest := by
  induction cs with
  | nil => exact splitAt_cons_self sep rest
  | cons c cs ih =>
    rw [List.cons_append]
    by_cases hc : c = sep
    · subst hc
      rw [splitAt_cons_self, splitAt_cons_self, ih, List.cons_append]
    · obtain ⟨part, parts, hparts, hcons⟩ := exists_splitAt_cons hc cs
      obtain ⟨part', parts', hparts', hcons'⟩ := exists_splitAt_cons hc (cs ++ sep :: rest)
      rw [ih, hparts, List.cons_append] at hparts'
      cases hparts'
      rw [hcons', hcons, List.cons_append]

/-- No part that a text was split into holds the separator. -/
lemma sep_notMem_of_mem_splitAt {part : List Char} (h : part ∈ splitAt sep cs) : sep ∉ part := by
  induction cs generalizing part with
  | nil => simp [List.mem_singleton.mp h]
  | cons c cs ih =>
    by_cases hc : c = sep
    · subst hc
      rw [splitAt_cons_self] at h
      rcases List.mem_cons.mp h with rfl | h
      · exact List.not_mem_nil
      · exact ih h
    · obtain ⟨first, parts, hparts, hcons⟩ := exists_splitAt_cons hc cs
      rw [hcons] at h
      rw [hparts] at ih
      rcases List.mem_cons.mp h with rfl | h
      · exact List.not_mem_cons_of_ne_of_not_mem (Ne.symm hc) (ih List.mem_cons_self)
      · exact ih (List.mem_cons_of_mem _ h)

/-- Names that are joined by a separator which none of them holds are the parts of the text. -/
lemma splitAt_intercalate {name : String} {names : List String}
    (h : ∀ s ∈ name :: names, sep ∉ s.toList) :
    splitAt sep ((String.singleton sep).intercalate (name :: names)).toList
      = (name :: names).map String.toList := by
  induction names generalizing name with
  | nil =>
    rw [String.intercalate_singleton]
    exact splitAt_of_notMem (h name List.mem_cons_self)
  | cons next names ih =>
    have hrest := ih fun s hs => h s (List.mem_cons_of_mem _ hs)
    have htext : ((String.singleton sep).intercalate (name :: next :: names)).toList
        = name.toList ++ sep :: ((String.singleton sep).intercalate (next :: names)).toList := by
      rw [String.intercalate_cons_cons, String.toList_append, String.toList_append,
        String.toList_singleton, List.append_assoc, List.singleton_append]
    rw [htext, splitAt_append, splitAt_of_notMem (h name List.mem_cons_self), hrest]
    rfl

/-- The last part of a text follows the last separator, or it is the whole text. -/
lemma exists_last_part (sep : Char) (cs : List Char) :
    ∃ before part, cs = before ++ part ∧ sep ∉ part ∧
      (before = [] ∨ ∃ above, before = above ++ [sep]) := by
  by_cases hmem : sep ∈ cs
  · obtain ⟨part, above, hcs, hpart⟩ := List.eq_append_cons_of_mem (List.mem_reverse.mpr hmem)
    refine ⟨above.reverse ++ [sep], part.reverse, ?_, by simpa using hpart, .inr ⟨_, rfl⟩⟩
    rw [← List.reverse_reverse cs, hcs]
    simp
  · exact ⟨[], cs, rfl, hmem, .inl rfl⟩

/-- Joined names are split into the same names. -/
theorem splitNames_joinCommas {names : List String}
    (h : ∀ s ∈ names, s ≠ "" ∧ ',' ∉ s.toList) : splitNames (joinCommas names) = names := by
  cases names with
  | nil => rfl
  | cons name names =>
    have hsplit : splitAt ',' (joinCommas (name :: names)).toList
        = (name :: names).map String.toList := splitAt_intercalate fun s hs => (h s hs).2
    rw [splitNames, hsplit, List.filter_eq_self.mpr]
    · rw [List.map_map]
      simp
    · intro cs hcs
      obtain ⟨s, hs, rfl⟩ := List.mem_map.mp hcs
      simpa using (h s hs).1

end Patchbay.Text
