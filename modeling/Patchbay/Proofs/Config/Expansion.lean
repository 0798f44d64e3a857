import Patchbay.Environment
import Patchbay.Proofs.Files.Paths

/-!
# Paths that begin with a directory of the environment

What the text of a path stands for, component by component. After `~/` a path leads on from the
home directory, and after `$NAME/` from the directory in the variable, so that it stays there unless
it goes up again. The rest of the text has to be a relative path for this: one that begins with
another slash leads away from the directory.
-/

namespace Patchbay

namespace Path

/-- A path leads on from a directory along a path. An empty text is no directory to begin with. -/
def LeadsOn (q directory along : Path) : Prop :=
  if directory.text = "" then q = along
  else q.components = directory.components ++ along.components.filter (· ≠ .here)

/-- A path is at a directory or below it. -/
def IsWithin (q directory : Path) : Prop :=
  ∃ below, q.components = directory.components ++ below ∧ .root ∉ below ∧ .up ∉ below

variable {p s : Path}

lemma leadsOn_join (hs : ¬ s.isAbsolute) (p : Path) : (p.join s).LeadsOn p s := by
  by_cases hp : p.text = ""
  · rw [LeadsOn, if_pos hp, join, if_pos (.inr hp)]
  · rw [LeadsOn, if_neg hp, filter_components hs, components_join hs hp]

/-- A relative path never names the root. -/
lemma root_notMem_components (hs : ¬ s.isAbsolute) : .root ∉ s.components := by
  intro hroot
  have honward : .root ∈ s.onward := by
    rw [← filter_components hs]
    exact List.mem_filter.mpr ⟨hroot, rfl⟩
  cases (isSegment_of_mem_onward honward).1

/-- A path stays within the directory that it leads on from, unless it goes up. -/
lemma LeadsOn.isWithin {q : Path} (h : q.LeadsOn p s) (hs : ¬ s.isAbsolute)
    (hup : .up ∉ s.components) : q.IsWithin p := by
  have hroot := root_notMem_components hs
  rw [LeadsOn] at h
  split_ifs at h with hp
  · -- nothing is above the components of an empty path
    have hempty : p.components = [] := by
      simp [components, isAbsolute, segments, hp, Text.splitAt_nil, Component.ofSegment?]
    exact ⟨s.components, by rw [h, hempty, List.nil_append], hroot, hup⟩
  · exact ⟨_, h, fun hmem => hroot (List.mem_filter.mp hmem).1,
      fun hmem => hup (List.mem_filter.mp hmem).1⟩

end Path

namespace Environment

variable {env : Environment} {name w s : String} {home : Path}

/-! ### The forms of a text -/

/-- What a text that begins with a tilde stands for. -/
lemma expand_tilde {text : String} {rest : List Char} (h : text.toList = '~' :: '/' :: rest) :
    env.expand text = env.home?.elim ⟨text⟩ fun home => home.join ⟨String.ofList rest⟩ := by
  rw [expand, h]
  cases env.home? <;> rfl

lemma expand_home (h : env.home? = some home) (s : String) :
    env.expand ("~/" ++ s) = home.join ⟨s⟩ := by
  have htext : ("~/" ++ s).toList = '~' :: '/' :: s.toList := by simp
  rw [expand_tilde htext, h, Option.elim_some, String.ofList_toList]

lemma expand_homeless (h : env.home? = none) (s : String) :
    env.expand ("~/" ++ s) = ⟨"~/" ++ s⟩ := by
  have htext : ("~/" ++ s).toList = '~' :: '/' :: s.toList := by simp
  rw [expand_tilde htext, h, Option.elim_none]

/-- The name of a variable ends at the first slash. -/
lemma name_split (hname : '/' ∉ name.toList) (rest : List Char)
    (hrest : rest = [] ∨ ∃ below, rest = '/' :: below) :
    (name.toList ++ rest).takeWhile (· ≠ '/') = name.toList ∧
      (name.toList ++ rest).dropWhile (· ≠ '/') = rest := by
  have hall : ∀ c ∈ name.toList, decide (c ≠ '/') = true := by
    intro c hc
    rw [decide_eq_true_eq]
    rintro rfl
    exact hname hc
  rw [List.takeWhile_append_of_pos hall, List.dropWhile_append_of_pos hall]
  rcases hrest with rfl | ⟨below, rfl⟩ <;> simp

/-- What a text stands for that begins with a variable, to the end or to the first slash. -/
lemma expand_dollar (hname : '/' ∉ name.toList) {text : String} {rest : List Char}
    (hrest : rest = [] ∨ ∃ below, rest = '/' :: below)
    (h : text.toList = '$' :: (name.toList ++ rest)) :
    env.expand text = (env.value? name).elim ⟨text⟩ fun w =>
      if rest = [] then ⟨w⟩ else Path.join ⟨w⟩ ⟨String.ofList rest.tail⟩ := by
  obtain ⟨htake, hdrop⟩ := name_split hname rest hrest
  rw [expand, h]
  simp only [htake, hdrop, String.ofList_toList]
  cases env.value? name with
  | none => rfl
  | some w => cases rest <;> rfl

lemma expand_variable (hname : '/' ∉ name.toList) (h : env.value? name = some w) :
    env.expand ("$" ++ name) = ⟨w⟩ := by
  have htext : ("$" ++ name).toList = '$' :: (name.toList ++ []) := by simp
  rw [expand_dollar hname (.inl rfl) htext, h, Option.elim_some, if_pos rfl]

lemma expand_below (hname : '/' ∉ name.toList) (h : env.value? name = some w) (s : String) :
    env.expand ("$" ++ name ++ "/" ++ s) = Path.join ⟨w⟩ ⟨s⟩ := by
  have htext : ("$" ++ name ++ "/" ++ s).toList = '$' :: (name.toList ++ '/' :: s.toList) := by
    simp
  rw [expand_dollar hname (.inr ⟨s.toList, rfl⟩) htext, h, Option.elim_some,
    if_neg (List.cons_ne_nil _ _), List.tail_cons, String.ofList_toList]

/-- A variable that is not set leaves the text as it is. -/
lemma expand_unset (hname : '/' ∉ name.toList) (h : env.value? name = none) {rest : String}
    (hrest : rest = "" ∨ ∃ s, rest = "/" ++ s) :
    env.expand ("$" ++ name ++ rest) = ⟨"$" ++ name ++ rest⟩ := by
  have htext : ("$" ++ name ++ rest).toList = '$' :: (name.toList ++ rest.toList) := by simp
  have hbelow : rest.toList = [] ∨ ∃ below, rest.toList = '/' :: below := by
    rcases hrest with rfl | ⟨s, rfl⟩
    · exact .inl rfl
    · exact .inr ⟨s.toList, by simp⟩
  rw [expand_dollar hname hbelow htext, h, Option.elim_none]

lemma expand_plain {text : String} (htilde : ∀ s, text ≠ "~/" ++ s)
    (hdollar : ∀ s, text ≠ "$" ++ s) : env.expand text = ⟨text⟩ := by
  rw [expand]
  split
  · rename_i rest htext
    exact (htilde (String.ofList rest) (by rw [← String.toList_inj, htext]; simp)).elim
  · rename_i rest htext
    exact (hdollar (String.ofList rest) (by rw [← String.toList_inj, htext]; simp)).elim
  · rfl

/-! ### Every text -/

/-- What the texts of paths stand for. -/
structure Expands (env : Environment) : Prop where
  /-- A path after `~/` leads on from the home directory, -/
  home : ∀ home s, env.home? = some home → ¬ Path.isAbsolute ⟨s⟩ →
    (env.expand ("~/" ++ s)).LeadsOn home ⟨s⟩
  /-- and one after `$NAME/` from the directory in the variable. -/
  named : ∀ name w s, '/' ∉ name.toList → env.value? name = some w → ¬ Path.isAbsolute ⟨s⟩ →
    (env.expand ("$" ++ name ++ "/" ++ s)).LeadsOn ⟨w⟩ ⟨s⟩
  /-- It stays there if it does not go up. -/
  within_home : ∀ home s, env.home? = some home → ¬ Path.isAbsolute ⟨s⟩ →
    .up ∉ Path.components ⟨s⟩ → (env.expand ("~/" ++ s)).IsWithin home
  within_named : ∀ name w s, '/' ∉ name.toList → env.value? name = some w →
    ¬ Path.isAbsolute ⟨s⟩ → .up ∉ Path.components ⟨s⟩ →
    (env.expand ("$" ++ name ++ "/" ++ s)).IsWithin ⟨w⟩
  /-- A variable alone stands for the path in it. -/
  alone : ∀ name w, '/' ∉ name.toList → env.value? name = some w → env.expand ("$" ++ name) = ⟨w⟩
  /-- A text with a variable that is not set is the path itself, -/
  unset : ∀ name rest, '/' ∉ name.toList → env.value? name = none →
    (rest = "" ∨ ∃ s, rest = "/" ++ s) →
    env.expand ("$" ++ name ++ rest) = ⟨"$" ++ name ++ rest⟩
  /-- so is one after `~/` where there is no home directory, -/
  homeless : ∀ s, env.home? = none → env.expand ("~/" ++ s) = ⟨"~/" ++ s⟩
  /-- and any other text. -/
  plain : ∀ text, (∀ s, text ≠ "~/" ++ s) → (∀ s, text ≠ "$" ++ s) → env.expand text = ⟨text⟩
  /-- An absolute path leads away from the directory that is named before it. -/
  away : ∀ s, Path.isAbsolute ⟨s⟩ →
    (∀ home, env.home? = some home → env.expand ("~/" ++ s) = ⟨s⟩) ∧
      ∀ name w, '/' ∉ name.toList → env.value? name = some w →
        env.expand ("$" ++ name ++ "/" ++ s) = ⟨s⟩

/-- In every environment all texts are expanded component by component, but for absolute paths after
a directory. -/
theorem expand_componentwise (env : Environment) : env.Expands where
  home home s h hs := by
    rw [expand_home h]
    exact Path.leadsOn_join hs home
  named name w s hname h hs := by
    rw [expand_below hname h]
    exact Path.leadsOn_join hs ⟨w⟩
  within_home home s h hs hup := by
    rw [expand_home h]
    exact (Path.leadsOn_join hs home).isWithin hs hup
  within_named name w s hname h hs hup := by
    rw [expand_below hname h]
    exact (Path.leadsOn_join hs ⟨w⟩).isWithin hs hup
  alone name w hname h := expand_variable hname h
  unset name rest hname h hrest := expand_unset hname h hrest
  homeless s h := expand_homeless h s
  plain text htilde hdollar := expand_plain htilde hdollar
  away s hs := by
    refine ⟨fun home h => ?_, fun name w hname h => ?_⟩
    · rw [expand_home h, Path.join, if_pos (.inl hs)]
    · rw [expand_below hname h, Path.join, if_pos (.inl hs)]

/-- An environment with a home directory. -/
def settled : Environment := { bindings := [("HOME", "/home/cyperus")] }

/-- A second slash leads out of the home directory. -/
theorem not_within_home_of_slash : ¬ ∀ (env : Environment) (home : Path) (s : String),
    env.home? = some home → .up ∉ Path.components ⟨s⟩ →
      (env.expand ("~/" ++ s)).IsWithin home := by
  intro h
  obtain ⟨below, hbelow, -⟩ := h settled ⟨"/home/cyperus"⟩ "/abs" rfl (by decide)
  -- the join starts again at the root, away from the home directory
  have hexpanded : (settled.expand ("~/" ++ "/abs")).components = [.root, .name "abs"] := rfl
  have hhome : Path.components ⟨"/home/cyperus"⟩ = [.root, .name "home", .name "cyperus"] := rfl
  rw [hexpanded, hhome] at hbelow
  simp at hbelow

end Environment

end Patchbay
