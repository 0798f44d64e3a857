import Patchbay.Proofs.Document.Levels
import Patchbay.Proofs.Document.Meaning
import Patchbay.Proofs.Graph.Keys

/-!
# Graphs show their documents

A graph shows all levels of the document that it is built from, in their order, and of each level
all nodes and links. The level that a bus holds is the one that the bus's subgraph was built to.
-/

namespace Patchbay

/-- A node of a graph shows a node of the document that the graph was built from, and the level that
it holds is the one that stands for the node's subgraph. -/
structure GraphNode.Depicts (d : Document) (g : Graph) (l : Level) (n : Node) (v : GraphNode) :
    Prop extends v.Shows l.id n where
  child_iff : v.child.isSome ↔ n.bareTag = "bus/add"
  child_level : g.childLevel? v.key = v.child.map Level.id
  child : ∀ c, v.child = some c → l.id < c.id ∧ g.levels[c.id]? = some c ∧
    d.levels[c.id]? = n.subgraph ∧ c.parent = some v.key ∧ c.depth = l.depth + 1

/-- A level of a graph shows a level of the document that the graph was built from. -/
structure Level.Depicts (d : Document) (g : Graph) (m : Document) (l : Level) : Prop where
  nodes : List.Forall₂ (GraphNode.Depicts d g l) m.nodes l.nodes
  links : l.links = m.links.mapIdx (GraphLink.ofLink l.id)
  ends : ∀ k ∈ l.links, ∀ e, ∃ v ∈ l.nodes, v.key = k.node e
  ports : ∀ d, l.portNodes d = (m.ports d).map Node.id

/-- A graph shows a document. -/
structure Graph.Flattens (g : Graph) (d : Document) : Prop where
  levels : List.Forall₂ (Level.Depicts d g) d.levels g.levels
  ids : g.levels.map Level.id = List.range g.levels.length
  root : g.root.parent = none ∧ g.root.depth = 0
  owner : ∀ l ∈ g.levels, l.id ≠ 0 →
    ∃! v, v ∈ g.levels.flatMap Level.nodes ∧ v.child.map Level.id = some l.id
  node : ∀ key v, g.node? key = some v ↔ v ∈ g.levels.flatMap Level.nodes ∧ v.key = key

/-! ### Levels and the documents that they are built from -/

/-- A node is built from one of a document; if it holds a level then `pairs` has this level with the
document that it is built from. -/
structure GraphNode.Unfolds (pairs : List (Document × Level)) (level : Nat) (n : Node)
    (v : GraphNode) : Prop extends v.Shows level n where
  child : ∀ c, v.child = some c → ∃ s, n.subgraph = some s ∧ (s, c) ∈ pairs

/-- A level is built from a document, as its nodes are. -/
structure Level.Unfolds (pairs : List (Document × Level)) (m : Document) (l : Level) : Prop where
  nodes : List.Forall₂ (GraphNode.Unfolds pairs l.id) m.nodes l.nodes
  links : l.links = linksFrom l.id 0 m.links

/-- More levels of a document beside those of a graph do no harm. -/
lemma GraphNode.Unfolds.mono {pairs pairs' : List (Document × Level)} {level : Nat} {n : Node}
    {v : GraphNode} (h : v.Unfolds pairs level n) (hp : pairs ⊆ pairs') :
    v.Unfolds pairs' level n where
  toShows := h.toShows
  child := by
    intro c hc
    obtain ⟨s, hs, hmem⟩ := h.child c hc
    exact ⟨s, hs, hp hmem⟩

lemma Level.Unfolds.mono {pairs pairs' : List (Document × Level)} {m : Document} {l : Level}
    (h : l.Unfolds pairs m) (hp : pairs ⊆ pairs') : l.Unfolds pairs' m :=
  ⟨h.nodes.imp fun _ _ hv => hv.mono hp, h.links⟩

namespace Level

mutual

/-- The levels in a level are built from those in its document. -/
theorem build_unfolds {parent : Option NodeKey} {depth next : Nat} :
    ∀ {d : Document} {l : Level} {after : Nat}, build parent depth next d = .ok (l, after) →
      List.Forall₂ (Unfolds (d.levels.zip l.flatten)) d.levels l.flatten
  | ⟨nodes, links, busId, extra⟩, l, after, h => by
    rw [build] at h
    obtain ⟨⟨vs, after'⟩, hvs, h⟩ := bind_eq_ok_iff.mp h
    obtain ⟨ks, hks, h⟩ := bind_eq_ok_iff.mp h
    cases h
    obtain ⟨hnodes, hlevels⟩ := buildNodes_unfold hvs
    rw [flatten_mk, Document.levels_eq, List.zip_cons_cons]
    refine .cons ⟨hnodes.imp fun _ _ hv => hv.mono ?_, (buildLinks_ok hks).1⟩
      (hlevels.imp fun _ _ hm => hm.mono ?_)
    all_goals exact List.subset_cons_self _ _

/-- Nodes stand for those they are built from, one each, and so do the levels in them. -/
theorem buildNodes_unfold {parent : Option NodeKey} {depth id : Nat} :
    ∀ {ns : List Node} {earlier vs : List GraphNode} {next after : Nat},
      buildNodes parent depth id earlier next ns = .ok (vs, after) →
      List.Forall₂ (GraphNode.Unfolds ((Node.levelsList ns).zip (flattenNodes vs)) id) ns vs ∧
        List.Forall₂ (Unfolds ((Node.levelsList ns).zip (flattenNodes vs)))
          (Node.levelsList ns) (flattenNodes vs)
  | [], earlier, vs, next, after, h => by
    rw [buildNodes] at h
    cases h
    rw [Node.levelsList_nil, flattenNodes_nil]
    exact ⟨.nil, .nil⟩
  | n :: ns, earlier, vs, next, after, h => by
    rw [buildNodes] at h
    obtain ⟨⟨v, mid⟩, hv, h⟩ := bind_eq_ok_iff.mp h
    obtain ⟨⟨ws, after'⟩, hws, h⟩ := bind_eq_ok_iff.mp h
    cases h
    obtain ⟨hnode, hinside⟩ := buildNode_unfolds hv
    obtain ⟨hnodes, hlevels⟩ := buildNodes_unfold hws
    -- the pairs of the first node come before those of the rest, so both parts are among them
    rw [Node.levelsList_cons, flattenNodes_cons, List.zip_append hinside.length_eq]
    refine ⟨.cons (hnode.mono ?_) (hnodes.imp fun _ _ hw => hw.mono ?_),
      List.rel_append (hinside.imp fun _ _ hm => hm.mono ?_)
        (hlevels.imp fun _ _ hm => hm.mono ?_)⟩
    · exact List.subset_append_left _ _
    · exact List.subset_append_right _ _
    · exact List.subset_append_left _ _
    · exact List.subset_append_right _ _

/-- A node stands for the one it is built from. If it is a bus, its levels stand for those of the
subgraph. -/
theorem buildNode_unfolds {parent : Option NodeKey} {depth id : Nat} :
    ∀ {n : Node} {earlier : List GraphNode} {v : GraphNode} {next after : Nat},
      buildNode parent depth id earlier next n = .ok (v, after) →
      v.Unfolds (n.levels.zip (flattenNode v)) id n ∧
        List.Forall₂ (Unfolds (n.levels.zip (flattenNode v))) n.levels (flattenNode v)
  | ⟨nodeId, type, title, properties, subgraph, inputs, outputs, extra⟩, earlier, v, next,
      after, h => by
    obtain ⟨hv, hchild⟩ := buildNode_ok h
    have hbus := (Node.classify_eq_ok_iff.mp hv.kind).exists_busAdd_iff
    rw [flattenNode_eq]
    -- either a bus with its subgraph, or a node that holds no level
    rcases buildChild_unfolds hchild with ⟨title', s, c, hkind, hsub, hc, hlevels⟩ | ⟨hc, hnone⟩
    · rw [Node.levels_of_bus (hbus.mp ⟨title', hkind⟩), hsub, hc]
      refine ⟨⟨hv.toShows, ?_⟩, hlevels⟩
      intro c' hc'
      obtain rfl : c = c' := Option.some.inj (hc.symm.trans hc')
      refine ⟨s, hsub, ?_⟩
      rw [Option.map_some, Option.map_some, Option.getD_some, Option.getD_some,
        Document.levels_eq, flatten_eq, List.zip_cons_cons]
      exact List.mem_cons_self
    · rw [hc]
      refine ⟨⟨hv.toShows, by simp [hc]⟩, ?_⟩
      rw [Node.levels_of_other]
      · exact .nil
      · intro htag
        obtain ⟨title', hkind⟩ := hbus.mpr htag
        obtain ⟨s, hs⟩ := Node.subgraph_of_classify (hkind ▸ hv.kind)
        rw [hnone title' hkind] at hs
        cases hs

/-- A level is built for a bus and for no other node. -/
theorem buildChild_unfolds {key : NodeKey} {depth : Nat} {kind : NodeKind} :
    ∀ {sub : Option Document} {child : Option Level} {next after : Nat},
      buildChild key depth next kind sub = .ok (child, after) →
      (∃ title s c, kind = .busAdd title ∧ sub = some s ∧ child = some c ∧
          List.Forall₂ (Unfolds (s.levels.zip c.flatten)) s.levels c.flatten) ∨
        child = none ∧ ∀ title, kind = .busAdd title → sub = none
  | none, child, next, after, h => by
    rcases buildChild_ok h with ⟨_, _, _, -, hsub, -⟩ | ⟨hnone, -⟩
    · cases hsub
    · exact .inr ⟨hnone, fun _ _ => rfl⟩
  | some s, child, next, after, h => by
    rcases buildChild_ok h with ⟨title, _, c, hkind, ⟨⟩, hc, hbuild⟩ | ⟨hc, -, hnone⟩
    · exact .inl ⟨title, s, c, hkind, rfl, hc, build_unfolds hbuild⟩
    · exact .inr ⟨hc, hnone⟩

end

end Level

/-! ### What a built graph shows -/

/-- Links are numbered by their positions. -/
lemma linksFrom_eq_mapIdx (level : Nat) (ls : List Link) :
    ∀ index, linksFrom level index ls = ls.mapIdx fun i => GraphLink.ofLink level (index + i) := by
  induction ls with
  | nil => simp [linksFrom]
  | cons l ls ih =>
    intro index
    rw [linksFrom, ih, List.mapIdx_cons]
    simp [Nat.add_comm 1, Nat.add_assoc]

/-- The ports of a level are the nodes whose tags say so. -/
lemma portNodes_of_unfolds {pairs : List (Document × Level)} {level : Nat} {ns : List Node}
    {vs : List GraphNode} (h : List.Forall₂ (GraphNode.Unfolds pairs level) ns vs)
    (d : Direction) : (passThroughs d vs).map Prod.fst =
      (ns.filter fun n => n.bareTag = d.portTag).map Node.id := by
  induction h with
  | nil => rfl
  | @cons n v ns vs hv _ ih =>
    have hport := (Node.classify_eq_ok_iff.mp hv.kind).isSome_passThrough?_iff (d := d)
    unfold passThroughs at ih ⊢
    rw [List.filterMap_cons, List.filter_cons]
    cases hd : v.kind.passThrough? d with
    | none => simpa [← hport, hd] using ih
    | some name => simpa [← hport, hd, hv.key] using ih

namespace Graph

variable {d : Document} {g : Graph} {l : Level} {v : GraphNode}

/-- Numbers are positions, so levels at one position are found there by the number. -/
lemma WellFormed.getElem?_of_mem_zip (hg : g.WellFormed) {m : Document}
    (h : (m, l) ∈ d.levels.zip g.levels) : d.levels[l.id]? = some m := by
  obtain ⟨i, hi⟩ := List.mem_iff_getElem?.mp h
  obtain ⟨hm, hl⟩ := List.getElem?_zip_eq_some.mp hi
  rwa [hg.id_of_getElem? hl]

/-- What a node is built from it also shows. -/
lemma WellFormed.depicts (hg : g.WellFormed) (hl : l ∈ g.levels) (hv : v ∈ l.nodes) {n : Node}
    (h : v.Unfolds (d.levels.zip g.levels) l.id n) : v.Depicts d g l n where
  toShows := h.toShows
  child_iff := by
    have hfit := (hg.fits l hl).node v hv
    rw [← (Node.classify_eq_ok_iff.mp h.kind).exists_busAdd_iff]
    constructor
    · intro hsome
      obtain ⟨c, hc⟩ := Option.isSome_iff_exists.mp hsome
      exact hfit.bus_of_child c hc
    · rintro ⟨title, hkind⟩
      exact Option.isSome_iff_exists.mpr (hfit.child_of_bus title hkind)
  child_level := hg.childLevel?_of_mem hl hv
  child := by
    intro c hc
    have hfit := (hg.fits l hl).node v hv
    obtain ⟨s, hs, hmem⟩ := h.child c hc
    exact ⟨hg.id_lt_child hl hv hc, hg.getElem?_levels (WellFormed.child_mem hl hv hc),
      (hg.getElem?_of_mem_zip hmem).trans hs.symm, hfit.child_parent c hc, hfit.child_depth c hc⟩

/-- The nodes of a level stand for the authored ones, in their order. -/
lemma WellFormed.nodes_depicted (hg : g.WellFormed) (hl : l ∈ g.levels) {m : Document}
    (h : l.Unfolds (d.levels.zip g.levels) m) :
    List.Forall₂ (GraphNode.Depicts d g l) m.nodes l.nodes := by
  rw [List.forall₂_iff_zip]
  refine ⟨h.nodes.length_eq, fun hnv => ?_⟩
  exact hg.depicts hl (List.of_mem_zip hnv).2 (List.forall₂_zip h.nodes hnv)

/-- Every level but the root is held by one node. -/
lemma WellFormed.existsUnique_owner (hg : g.WellFormed) (hl : l ∈ g.levels) (h : l.id ≠ 0) :
    ∃! v, v ∈ g.levels.flatMap Level.nodes ∧ v.child.map Level.id = some l.id := by
  have hchild : ∀ m ∈ g.levels, ∀ v ∈ m.nodes, v.child.map Level.id = some l.id →
      v.child = some l := by
    intro m hm v hv hc
    obtain ⟨c, hc, hid⟩ := Option.map_eq_some_iff.mp hc
    rw [hc, hg.level_unique (WellFormed.child_mem hm hv hc) hl hid]
  rcases Level.exists_owner hl with rfl | ⟨m, hm, v, hv, hc⟩
  · exact (h hg.root_id).elim
  · refine ⟨v, ⟨List.mem_flatMap.mpr ⟨m, hm, hv⟩, by rw [hc]; rfl⟩, ?_⟩
    rintro w ⟨hw, hwc⟩
    obtain ⟨m', hm', hw⟩ := List.mem_flatMap.mp hw
    exact (hg.owner_unique hm' hm hw hv (hchild m' hm' w hw hwc) hc).2

/-- The levels of a graph are built one by one from those of the document. -/
lemma levels_unfold (h : Graph.build d = .ok g) :
    List.Forall₂ (Level.Unfolds (d.levels.zip g.levels)) d.levels g.levels := by
  obtain ⟨⟨l, after⟩, hl, h⟩ := bind_eq_ok_iff.mp h
  cases h
  exact Level.build_unfolds hl

/-- The levels of a graph are built from those of the document, each from the one in its place. -/
lemma build_unfolds (h : Graph.build d = .ok g) :
    (d, g.root) ∈ d.levels.zip g.levels ∧ ∀ m l, (m, l) ∈ d.levels.zip g.levels →
      l ∈ g.levels ∧ l.Unfolds (d.levels.zip g.levels) m := by
  obtain ⟨⟨l, after⟩, hl, h⟩ := bind_eq_ok_iff.mp h
  cases h
  refine ⟨?_, fun m l' hmem => ?_⟩
  · rw [Graph.levels, Document.levels_eq, Level.flatten_eq, List.zip_cons_cons]
    exact List.mem_cons_self
  · exact ⟨(List.of_mem_zip hmem).2, List.forall₂_zip (Level.build_unfolds hl) hmem⟩

/-- A graph shows the document that it is built from. -/
theorem build_flattens (h : Graph.build d = .ok g) : g.Flattens d := by
  have hg := build_wellFormed h
  obtain ⟨⟨l, after⟩, hl, h⟩ := bind_eq_ok_iff.mp h
  cases h
  have hlevels := Level.build_unfolds hl
  refine ⟨?_, hg.ids, ⟨hg.root_parent, hg.root_depth⟩, fun m hm => hg.existsUnique_owner hm,
    fun _ _ => hg.node?_eq_some_iff⟩
  rw [List.forall₂_iff_zip] at hlevels ⊢
  refine ⟨hlevels.1, fun {m l'} hmem => ?_⟩
  have hm := hlevels.2 hmem
  have hl' := (List.of_mem_zip hmem).2
  refine ⟨?_, ?_, ?_, portNodes_of_unfolds hm.nodes⟩
  · rw [List.forall₂_iff_zip]
    refine ⟨hm.nodes.length_eq, fun {n v} hnv => ?_⟩
    exact hg.depicts hl' (List.of_mem_zip hnv).2 ((List.forall₂_iff_zip.mp hm.nodes).2 hnv)
  · simpa [linksFrom_eq_mapIdx] using hm.links
  · intro k hk e
    obtain ⟨v, hv, hkey, -⟩ := hg.exists_end hl' hk e
    exact ⟨v, hv, hkey⟩

end Graph

/-- A bus in a bus, and a bus after both. -/
def nest : Document where
  nodes :=
    [⟨7, "bus/add", some "outer", [], some ⟨[⟨3, "bus/add", some "inner", [], some wireBus, none,
        none, []⟩], [], none, []⟩, none, none, []⟩,
      ⟨1, "bus/add", some "other", [], some wireBus, none, none, []⟩]
  links := [⟨4, 1, 0, 1, 0, .null, .null, []⟩]
  busId := none
  extra := []

theorem nest_flattens : ∃ g, Graph.build nest = .ok g ∧ g.Flattens nest ∧
    g.levels.map Level.parent = [none, some ⟨0, 7⟩, some ⟨1, 3⟩, some ⟨0, 1⟩] :=
  ⟨_, rfl, Graph.build_flattens rfl, rfl⟩

end Patchbay
