import Mathlib.Data.List.Nodup
import Mathlib.Tactic.Common
import Patchbay.Graph.Basic

/-!
# Levels of a document

A document holds further documents as the subgraphs of its buses. Its levels are the document
itself and those of its subgraphs, bus after bus, so that a level comes before the levels in it and
these come before what follows the bus. Subgraphs of other nodes are no levels.
-/

namespace Patchbay

mutual

/-- A document and all levels in it. -/
def Document.levels : Document → List Document
  | ⟨nodes, links, busId, extra⟩ => ⟨nodes, links, busId, extra⟩ :: Node.levelsList nodes

def Node.levelsList : List Node → List Document
  | [] => []
  | n :: ns => Node.levels n ++ Node.levelsList ns

/-- The levels in a node, if it is a bus. -/
def Node.levels : Node → List Document
  | ⟨id, type, title, properties, subgraph, inputs, outputs, extra⟩ =>
    if (⟨id, type, title, properties, subgraph, inputs, outputs, extra⟩ : Node).bareTag = "bus/add"
    then Document.levelsChild subgraph
    else []

def Document.levelsChild : Option Document → List Document
  | none => []
  | some d => Document.levels d

end

/-- A level of a document, reached from it through buses only. -/
inductive Document.Reaches : Document → Document → Prop
  | root (d : Document) : Reaches d d
  | bus {d c m : Document} {n : Node} (node : n ∈ d.nodes) (tag : n.bareTag = "bus/add")
      (subgraph : n.subgraph = some c) (inside : Reaches c m) : Reaches d m

/-- Level `k` of a document in a bus, where the document itself is level `k₀` in `bus₀`: a bus
takes the numbers after those of the levels in the nodes before it. -/
inductive Document.LevelAt (m : Document) (bus : Option NodeKey) (k : Nat) :
    Document → Option NodeKey → Nat → Prop
  | root : LevelAt m bus k m bus k
  | bus {d c : Document} {bus₀ : Option NodeKey} {k₀ : Nat} {before after : List Node} {n : Node}
      (nodes : d.nodes = before ++ n :: after) (tag : n.bareTag = "bus/add")
      (subgraph : n.subgraph = some c)
      (inside : LevelAt m bus k c (some ⟨k₀, n.id⟩) (k₀ + 1 + (Node.levelsList before).length)) :
      LevelAt m bus k d bus₀ k₀

/-- A level that has a place in a document is reached from it. -/
lemma Document.LevelAt.reaches {m d : Document} {bus bus₀ : Option NodeKey} {k k₀ : Nat}
    (h : m.LevelAt bus k d bus₀ k₀) : d.Reaches m := by
  induction h with
  | root => exact .root m
  | bus nodes tag subgraph _ ih => exact .bus (by simp [nodes]) tag subgraph ih

/-! ### The list of levels -/

lemma Document.levels_eq (d : Document) : d.levels = d :: Node.levelsList d.nodes := by
  obtain ⟨nodes, links, busId, extra⟩ := d
  rw [levels]

@[simp] lemma Node.levelsList_nil : levelsList [] = [] := by rw [levelsList]

@[simp] lemma Node.levelsList_cons (n : Node) (ns : List Node) :
    levelsList (n :: ns) = n.levels ++ levelsList ns := by rw [levelsList]

lemma Node.levels_of_bus {n : Node} (h : n.bareTag = "bus/add") :
    n.levels = (n.subgraph.map Document.levels).getD [] := by
  obtain ⟨id, type, title, properties, _ | d, inputs, outputs, extra⟩ := n <;>
    rw [levels, if_pos h, Document.levelsChild] <;> rfl

lemma Node.levels_of_other {n : Node} (h : n.bareTag ≠ "bus/add") : n.levels = [] := by
  obtain ⟨id, type, title, properties, subgraph, inputs, outputs, extra⟩ := n
  rw [levels, if_neg h]

lemma Node.levelsList_append (ms ns : List Node) :
    levelsList (ms ++ ns) = levelsList ms ++ levelsList ns := by
  induction ms with
  | nil => rfl
  | cons m ms ih => simp [ih]

/-- The levels below nodes are those of the subgraphs of buses. -/
lemma Node.mem_levelsList {ns : List Node} {m : Document} :
    m ∈ levelsList ns ↔
      ∃ n ∈ ns, n.bareTag = "bus/add" ∧ ∃ c, n.subgraph = some c ∧ m ∈ c.levels := by
  induction ns with
  | nil => simp
  | cons n ns ih =>
    rw [levelsList_cons, List.mem_append, ih, List.exists_mem_cons_iff]
    refine or_congr_left ?_
    by_cases h : n.bareTag = "bus/add"
    · rw [levels_of_bus h]
      cases n.subgraph <;> simp [h]
    · simp [levels_of_other h, h]

/-! ### Reached levels -/

/-- What is reached through buses is among the levels. -/
lemma Document.mem_levels_of_reaches {d m : Document} (h : d.Reaches m) : m ∈ d.levels := by
  induction h with
  | root d => simp [levels_eq]
  | bus node tag subgraph _ ih =>
    rw [levels_eq]
    exact List.mem_cons_of_mem _ (Node.mem_levelsList.mpr ⟨_, node, tag, _, subgraph, ih⟩)

mutual

/-- A level is reached through buses. This is shown along with the levels of nodes, by recursion on
the document. -/
theorem Document.reaches_of_mem : ∀ {d m : Document}, m ∈ d.levels → d.Reaches m
  | ⟨nodes, links, busId, extra⟩, m, h => by
    rw [Document.levels] at h
    rcases List.mem_cons.mp h with rfl | h
    · exact .root _
    · obtain ⟨n, hn, htag, c, hc, h⟩ := Node.exists_bus_of_mem h
      exact .bus hn htag hc h

/-- One of the nodes is the bus that leads to a level. -/
theorem Node.exists_bus_of_mem : ∀ {ns : List Node} {m : Document}, m ∈ Node.levelsList ns →
    ∃ n ∈ ns, n.bareTag = "bus/add" ∧ ∃ c, n.subgraph = some c ∧ c.Reaches m
  | [], m, h => by simp at h
  | n :: ns, m, h => by
    rw [Node.levelsList_cons, List.mem_append] at h
    rcases h with h | h
    · exact ⟨n, List.mem_cons_self, Node.subgraph_reaches_of_mem h⟩
    · obtain ⟨n', hn', h⟩ := Node.exists_bus_of_mem h
      exact ⟨n', List.mem_cons_of_mem _ hn', h⟩

theorem Node.subgraph_reaches_of_mem : ∀ {n : Node} {m : Document}, m ∈ n.levels →
    n.bareTag = "bus/add" ∧ ∃ c, n.subgraph = some c ∧ c.Reaches m
  | ⟨id, type, title, properties, subgraph, inputs, outputs, extra⟩, m, h => by
    rw [Node.levels] at h
    split_ifs at h with htag
    · exact ⟨htag, Document.child_reaches_of_mem h⟩
    · cases h

theorem Document.child_reaches_of_mem : ∀ {sub : Option Document} {m : Document},
    m ∈ Document.levelsChild sub → ∃ c, sub = some c ∧ c.Reaches m
  | none, m, h => by
    rw [Document.levelsChild] at h
    cases h
  | some d, m, h => by
    rw [Document.levelsChild] at h
    exact ⟨d, rfl, Document.reaches_of_mem h⟩

end

/-- The levels of a document are those that are reached from it. -/
theorem Document.mem_levels_iff {d m : Document} : m ∈ d.levels ↔ d.Reaches m :=
  ⟨reaches_of_mem, mem_levels_of_reaches⟩

end Patchbay
