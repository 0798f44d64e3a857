import Patchbay.Proofs.Document.Rearranged

/-!
# Levels at the same place

Two levels of two graphs are at the same place if nodes with the same ids lead to them from the
roots. The graph of a document and that of the document in another order have the same nodes and
links at the same places; only the numbers of the levels differ, since a bus takes its number where
it stands.
-/

namespace Patchbay

/-! ### Nodes, links and levels -/

/-- A node of the same id and kind, which declares the same names. -/
structure GraphNode.Twin (v v' : GraphNode) : Prop where
  id : v'.key.id = v.key.id
  kind : v'.kind = v.kind
  inputNames : v'.inputNames = v.inputNames
  outputNames : v'.outputNames = v.outputNames

/-- A link of the same id between the same slots of nodes of the same ids. -/
structure GraphLink.Twin (k k' : GraphLink) : Prop where
  id : k'.id = k.id
  node : ∀ e, (k'.node e).id = (k.node e).id
  slot : ∀ e, k'.slot e = k.slot e

/-- A level with the same nodes and links, in whatever order. The ports of its bus stay in their
order. -/
structure Level.Twin (l l' : Level) : Prop where
  nodes : UpToOrder GraphNode.Twin l.nodes l'.nodes
  portNodes : ∀ d, l'.portNodes d = l.portNodes d
  portNames : ∀ d, l'.portNames d = l.portNames d
  links : UpToOrder GraphLink.Twin l.links l'.links

lemma GraphNode.Twin.symm {v v' : GraphNode} (h : v.Twin v') : v'.Twin v :=
  ⟨h.id.symm, h.kind.symm, h.inputNames.symm, h.outputNames.symm⟩

lemma GraphLink.Twin.symm {k k' : GraphLink} (h : k.Twin k') : k'.Twin k :=
  ⟨h.id.symm, fun e => (h.node e).symm, fun e => (h.slot e).symm⟩

lemma Level.Twin.symm {l l' : Level} (h : l.Twin l') : l'.Twin l where
  nodes := h.nodes.symm.imp fun _ _ _ _ hv => hv.symm
  portNodes d := (h.portNodes d).symm
  portNames d := (h.portNames d).symm
  links := h.links.symm.imp fun _ _ _ _ hk => hk.symm

/-! ### Places -/

namespace Graph

/-- Two levels of two graphs are at the same place: they are the roots, or nodes of the same id hold
them, in levels at the same place. -/
inductive SamePlace (g g' : Graph) : Level → Level → Prop
  | root : SamePlace g g' g.root g'.root
  | inside {l l' c c' : Level} {v v' : GraphNode} (outer : SamePlace g g' l l') (hv : v ∈ l.nodes)
      (hv' : v' ∈ l'.nodes) (id : v'.key.id = v.key.id) (child : v.child = some c)
      (child' : v'.child = some c') : SamePlace g g' c c'

/-- Two graphs have the same nodes and links at the same places. -/
def Twin (g g' : Graph) : Prop := ∀ l l', g.SamePlace g' l l' → l.Twin l'

variable {g g' : Graph} {l l' m' : Level} {v v' : GraphNode} {k k' : GraphLink}

namespace SamePlace

/-- What is at the same place is among the levels. -/
lemma mem (h : g.SamePlace g' l l') : l ∈ g.levels := by
  induction h with
  | root => exact WellFormed.root_mem g
  | inside _ hv _ _ child _ ih => exact WellFormed.child_mem ih hv child

lemma symm (h : g.SamePlace g' l l') : g'.SamePlace g l' l := by
  induction h with
  | root => exact .root
  | inside _ hv hv' id child child' ih => exact .inside ih hv' hv id.symm child' child

lemma mem' (h : g.SamePlace g' l l') : l' ∈ g'.levels := h.symm.mem

/-- There is one level only at a place. -/
lemma right_unique (hg : g.WellFormed) (hg' : g'.WellFormed) (h : g.SamePlace g' l l')
    (h' : g.SamePlace g' l m') : l' = m' := by
  induction h generalizing m' with
  | root =>
    generalize hroot : g.root = r at h'
    cases h' with
    | root => rfl
    | inside outer hv _ _ child => exact (hg.child_ne_root outer.mem hv (hroot ▸ child)).elim
  | @inside l l' c c' v v' outer hv hv' id child child' ih =>
    cases h' with
    | root => exact (hg.child_ne_root outer.mem hv child).elim
    | @inside n n' _ _ w w' outer' hw hw' id' wchild wchild' =>
      obtain ⟨rfl, rfl⟩ := hg.owner_unique outer.mem outer'.mem hv hw child wchild
      obtain rfl := ih outer'
      obtain rfl := List.inj_on_of_nodup_map (hg'.fits l' outer.mem').ids_nodup hv' hw'
        (id.trans id'.symm)
      exact Option.some.inj (child'.symm.trans wchild')

/-- Levels at the same place are equally deep. -/
lemma depth_eq (hg : g.WellFormed) (hg' : g'.WellFormed) (h : g.SamePlace g' l l') :
    l'.depth = l.depth := by
  induction h with
  | root => rw [hg.root_depth, hg'.root_depth]
  | inside outer hv hv' _ child child' ih =>
    rw [((hg.fits _ outer.mem).node _ hv).child_depth _ child,
      ((hg'.fits _ outer.mem').node _ hv').child_depth _ child', ih]

end SamePlace

lemma Twin.symm (h : g.Twin g') : g'.Twin g := fun l l' hl => (h l' l hl.symm).symm

/-- Each level of a graph has one at its place. -/
lemma Twin.exists_right (h : g.Twin g') (hg : g.WellFormed) (hg' : g'.WellFormed)
    (hl : l ∈ g.levels) : ∃ l', g.SamePlace g' l l' := by
  induction hid : l.id using Nat.strong_induction_on generalizing l with
  | _ id ih =>
    rcases Level.exists_owner hl with rfl | ⟨m, hm, v, hv, hc⟩
    · exact ⟨g'.root, .root⟩
    · obtain ⟨m', hmm'⟩ := ih m.id (hid ▸ hg.id_lt_child hm hv hc) hm rfl
      obtain ⟨v', hv', hvv'⟩ := (h m m' hmm').nodes.exists_right hv
      obtain ⟨title, hkind⟩ := ((hg.fits m hm).node v hv).bus_of_child l hc
      obtain ⟨l', hc'⟩ := ((hg'.fits m' hmm'.mem').node v' hv').child_of_bus title
        (hvv'.kind.trans hkind)
      exact ⟨l', .inside hmm' hv hv' hvv'.id hc hc'⟩

lemma Twin.exists_left (h : g.Twin g') (hg : g.WellFormed) (hg' : g'.WellFormed)
    (hl' : l' ∈ g'.levels) : ∃ l, g.SamePlace g' l l' := by
  obtain ⟨l, hl⟩ := h.symm.exists_right hg' hg hl'
  exact ⟨l, hl.symm⟩

/-! ### Numbers -/

/-- Levels at the same place have numbers that a function takes to each other. -/
def Renumbers (π : Nat → Nat) (g g' : Graph) : Prop :=
  ∀ l l', g.SamePlace g' l l' → l'.id = π l.id

/-- Some map of numbers takes every level to the one at its place. -/
lemma exists_renumbering (hg : g.WellFormed) (hg' : g'.WellFormed) : ∃ π, Renumbers π g g' := by
  classical
  refine ⟨fun i => if h : ∃ p : Level × Level, g.SamePlace g' p.1 p.2 ∧ p.1.id = i
    then h.choose.2.id else i, fun l l' hl => ?_⟩
  have h : ∃ p : Level × Level, g.SamePlace g' p.1 p.2 ∧ p.1.id = l.id := ⟨(l, l'), hl, rfl⟩
  obtain ⟨hplace, hid⟩ := h.choose_spec
  have hone := hg.level_unique hplace.mem hl.mem hid
  exact ((dif_pos h).trans (congrArg Level.id ((hone ▸ hplace).right_unique hg hg' hl))).symm

/-- Numbers stay different. -/
lemma Renumbers.injective {π : Nat → Nat} (hπ : Renumbers π g g') (h : g.Twin g')
    (hg : g.WellFormed) (hg' : g'.WellFormed) {m : Level} (hl : l ∈ g.levels) (hm : m ∈ g.levels)
    (hid : π l.id = π m.id) : l = m := by
  obtain ⟨l', hl'⟩ := h.exists_right hg hg' hl
  obtain ⟨m', hm'⟩ := h.exists_right hg hg' hm
  rw [← hπ l l' hl', ← hπ m m' hm'] at hid
  obtain rfl := hg'.level_unique hl'.mem' hm'.mem' hid
  exact hl'.symm.right_unique hg' hg hm'.symm

/-- The numbers of the one graph are taken to those of the other one. -/
lemma Renumbers.perm {π : Nat → Nat} (hπ : Renumbers π g g') (h : g.Twin g') (hg : g.WellFormed)
    (hg' : g'.WellFormed) : (g.levels.map fun l => π l.id).Perm (g'.levels.map Level.id) := by
  refine (List.perm_ext_iff_of_nodup ?_ ?_).mpr fun i => ?_
  · exact hg.levels_nodup.map_on fun l hl m hm hid => hπ.injective h hg hg' hl hm hid
  · exact hg'.ids ▸ List.nodup_range
  · rw [List.mem_map, List.mem_map]
    constructor
    · rintro ⟨l, hl, rfl⟩
      obtain ⟨l', hl'⟩ := h.exists_right hg hg' hl
      exact ⟨l', hl'.mem', hπ l l' hl'⟩
    · rintro ⟨l', hl', rfl⟩
      obtain ⟨l, hl⟩ := h.exists_left hg hg' hl'
      exact ⟨l, hl.mem, (hπ l l' hl).symm⟩

/-- The levels of two graphs are related one to one by their places. -/
lemma Twin.levels_related (h : g.Twin g') (hg : g.WellFormed) (hg' : g'.WellFormed) :
    UpToOrder (g.SamePlace g') g.levels g'.levels := by
  obtain ⟨π, hπ⟩ := exists_renumbering hg hg'
  refine (UpToOrder.of_map_perm (hπ.perm h hg hg')).imp fun l hl m' hm' hid => ?_
  obtain ⟨l', hl'⟩ := h.exists_right hg hg' hl
  rwa [hg'.level_unique hm' hl'.mem' (hid.symm.trans (hπ l l' hl').symm)]

end Graph

/-! ### Nodes and links at the same place -/

def NodeKey.renumber (π : Nat → Nat) (key : NodeKey) : NodeKey := ⟨π key.level, key.id⟩

namespace Graph

/-- The same node, in levels at the same place. -/
structure SameNode (g g' : Graph) (l : Level) (v : GraphNode) (l' : Level) (v' : GraphNode) :
    Prop where
  place : g.SamePlace g' l l'
  mem : v ∈ l.nodes
  mem' : v' ∈ l'.nodes
  twin : v.Twin v'

/-- The same link, in levels at the same place. -/
structure SameLink (g g' : Graph) (l : Level) (k : GraphLink) (l' : Level) (k' : GraphLink) :
    Prop where
  place : g.SamePlace g' l l'
  mem : k ∈ l.links
  mem' : k' ∈ l'.links
  twin : k.Twin k'

variable {g g' : Graph} {l l' m' : Level} {v v' w' : GraphNode} {k k' : GraphLink} {e : LinkEnd}
  {π : Nat → Nat}

/-- The nodes of levels at the same place are related up to their order. -/
lemma Twin.nodes_related (h : g.Twin g') (hl : g.SamePlace g' l l') :
    UpToOrder (fun v v' => g.SameNode g' l v l' v') l.nodes l'.nodes :=
  (h l l' hl).nodes.imp fun _ hv _ hv' hvv' => ⟨hl, hv, hv', hvv'⟩

/-- Nodes of the same id at the same place are the same node. -/
lemma Twin.sameNode (h : g.Twin g') (hg' : g'.WellFormed) (hl : g.SamePlace g' l l')
    (hv : v ∈ l.nodes) (hv' : v' ∈ l'.nodes) (hid : v'.key.id = v.key.id) :
    g.SameNode g' l v l' v' := by
  obtain ⟨w', hw', hw⟩ := (h.nodes_related hl).exists_right hv
  obtain rfl := List.inj_on_of_nodup_map (hg'.fits l' hl.mem').ids_nodup hw' hv'
    (hw.twin.id.trans hid.symm)
  exact hw

lemma Twin.links_related (h : g.Twin g') (hl : g.SamePlace g' l l') :
    UpToOrder (fun k k' => g.SameLink g' l k l' k') l.links l'.links :=
  (h l l' hl).links.imp fun _ hk _ hk' hkk' => ⟨hl, hk, hk', hkk'⟩

namespace SameNode

lemma key_level (h : g.SameNode g' l v l' v') (hg : g.WellFormed) : v.key.level = l.id :=
  ((hg.fits l h.place.mem).node v h.mem).key_level

lemma key_level' (h : g.SameNode g' l v l' v') (hg' : g'.WellFormed) : v'.key.level = l'.id :=
  ((hg'.fits l' h.place.mem').node v' h.mem').key_level

/-- The same node has the same key after its level is renumbered. -/
lemma key_eq (h : g.SameNode g' l v l' v') (hg : g.WellFormed) (hg' : g'.WellFormed)
    (hπ : Renumbers π g g') : v'.key = v.key.renumber π := by
  have hlevel : v'.key.level = π v.key.level := by
    rw [h.key_level' hg', h.key_level hg, hπ l l' h.place]
  exact congrArg₂ NodeKey.mk hlevel h.twin.id

/-- There is one node only of an id at a place. -/
lemma right_unique (h : g.SameNode g' l v l' v') (hg : g.WellFormed) (hg' : g'.WellFormed)
    (h' : g.SameNode g' l v m' w') : l' = m' ∧ v' = w' := by
  obtain rfl := h.place.right_unique hg hg' h'.place
  exact ⟨rfl, List.inj_on_of_nodup_map (hg'.fits l' h.place.mem').ids_nodup h.mem' h'.mem'
    (h.twin.id.trans h'.twin.id.symm)⟩

end SameNode

namespace SameLink

lemma level_eq (h : g.SameLink g' l k l' k') (hg : g.WellFormed) (e : LinkEnd) :
    (k.node e).level = l.id :=
  (hg.fits l h.place.mem).link_level k h.mem e

lemma level_eq' (h : g.SameLink g' l k l' k') (hg' : g'.WellFormed) (e : LinkEnd) :
    (k'.node e).level = l'.id :=
  (hg'.fits l' h.place.mem').link_level k' h.mem' e

lemma node_eq (h : g.SameLink g' l k l' k') (hg : g.WellFormed) (hg' : g'.WellFormed)
    (hπ : Renumbers π g g') (e : LinkEnd) : k'.node e = (k.node e).renumber π := by
  have hlevel : (k'.node e).level = π (k.node e).level := by
    rw [h.level_eq' hg', h.level_eq hg, hπ l l' h.place]
  exact congrArg₂ NodeKey.mk hlevel (h.twin.node e)

/-- A link ends at a node exactly if the link in its place does so at the node in its place. -/
lemma ends_iff (h : g.SameLink g' l k l' k') (hg : g.WellFormed) (hg' : g'.WellFormed)
    (hv : g.SameNode g' l v l' v') : v.key = k.node e ↔ v'.key = k'.node e := by
  have hid : v.key.id = (k.node e).id ↔ v'.key.id = (k'.node e).id := by
    rw [hv.twin.id, h.twin.node]
  constructor
  · intro heq
    have hlevel : v'.key.level = (k'.node e).level :=
      (hv.key_level' hg').trans (h.level_eq' hg' e).symm
    exact congrArg₂ NodeKey.mk hlevel (hid.mp (congrArg NodeKey.id heq))
  · intro heq
    have hlevel : v.key.level = (k.node e).level := (hv.key_level hg).trans (h.level_eq hg e).symm
    exact congrArg₂ NodeKey.mk hlevel (hid.mpr (congrArg NodeKey.id heq))

/-- A link is left out of one graph just if the same link is left out of the other. -/
lemma leavesOut_iff (h : g.SameLink g' l k l' k') (hg : g.WellFormed) (hg' : g'.WellFormed)
    (hgg' : g.Twin g') : l.LeavesOut k ↔ l'.LeavesOut k' := by
  refine exists_congr fun e => (hgg'.nodes_related h.place).exists_iff fun v _ v' _ hv => ?_
  rw [h.ends_iff hg hg' hv, hv.twin.kind]

end SameLink

end Graph

/-! ### Graphs of documents in another order -/

section Documents

variable {d d' m m' : Document} {g g' : Graph} {l l' : Level}
  {pairs pairs' : List (Document × Level)}

lemma portNames_of_unfolds (h : l.Unfolds pairs m) (dir : Direction) :
    l.portNames dir = (m.ports dir).filterMap (Node.portName? dir) := by
  have hshows : List.Forall₂ (GraphNode.Shows l.id) m.nodes l.nodes :=
    h.nodes.imp fun _ _ hv => hv.toShows
  rw [Level.portNames, portNames_of_shows hshows, Document.ports, List.filterMap_filter]
  refine List.filterMap_congr fun n _ => ?_
  by_cases htag : n.bareTag = dir.portTag <;> simp [htag, Node.portName?]

/-- Levels of documents in another order have the same nodes and links. -/
lemma Level.Unfolds.twin (h : l.Unfolds pairs m) (h' : l'.Unfolds pairs' m')
    (hm : m.Rearranged m') : l.Twin l' where
  nodes := by
    -- from the first graph to its document, on to the other document, and to its graph
    have hnodes := ((UpToOrder.of_forall₂ h.nodes).symm.trans hm.nodes_related).trans
      (UpToOrder.of_forall₂ h'.nodes)
    refine hnodes.imp ?_
    rintro v - v' - ⟨n', -, ⟨n, -, hv, hn⟩, hv'⟩
    have hkind := hn.means (Node.classify_eq_ok_iff.mp hv.kind)
    refine ⟨?_, ?_, ?_, ?_⟩
    · rw [hv.key, hv'.key]
      exact hn.id_eq
    · exact (Node.classify_eq_ok_iff.mp hv'.kind).unique hkind
    · rw [hv.inputNames, hv'.inputNames, hn.inputNames_eq]
    · rw [hv.outputNames, hv'.outputNames, hn.outputNames_eq]
  portNodes dir := by
    rw [Level.portNodes, Level.portNodes, portNodes_of_unfolds h.nodes,
      portNodes_of_unfolds h'.nodes]
    have hports : List.Forall₂ (fun n n' => n'.id = n.id) (m.ports dir) (m'.ports dir) :=
      (hm.ports_related dir).imp fun _ _ hn => hn.id_eq
    exact (List.forall₂_eq_eq_eq ▸ List.forall₂_map_left_iff.mpr
      (List.forall₂_map_right_iff.mpr hports.flip))
  portNames dir := by
    rw [portNames_of_unfolds h, portNames_of_unfolds h']
    have hports := hm.ports_related dir
    -- ports are not reordered, so their names are compared one by one
    generalize m.ports dir = ns, m'.ports dir = ns' at hports
    induction hports with
    | nil => rfl
    | cons hn _ ih => rw [List.filterMap_cons, List.filterMap_cons, hn.portName?_eq, ih]
  links := by
    have hlinks : ∀ {m : Document} {l : Level} {pairs : List (Document × Level)},
        l.Unfolds pairs m →
        List.Forall₂ (fun link k => ∃ i, k = GraphLink.ofLink l.id i link) m.links l.links := by
      intro m l pairs h
      rw [h.links, linksFrom_eq_mapIdx]
      exact List.forall₂_iff_get.mpr ⟨by simp, fun i hi hi' => ⟨0 + i, by simp⟩⟩
    have hrelated := (UpToOrder.of_forall₂ (hlinks h)).symm.trans
      ((UpToOrder.of_forall₂ (hlinks h')).perm_left hm.links_perm)
    refine hrelated.imp ?_
    rintro k - k' - ⟨link, -, ⟨i, rfl⟩, ⟨i', rfl⟩⟩
    refine ⟨rfl, fun e => ?_, fun e => ?_⟩
    · rw [GraphLink.node_ofLink, GraphLink.node_ofLink]
    · rw [GraphLink.slot_ofLink, GraphLink.slot_ofLink]

/-- Levels at the same place are built from levels of which one is the other one rearranged. -/
lemma Graph.SamePlace.rearranged (h : d.Rearranged d') (hd : Graph.build d = .ok g)
    (hd' : Graph.build d' = .ok g') (hl : g.SamePlace g' l l') :
    ∃ m m', (m, l) ∈ d.levels.zip g.levels ∧ (m', l') ∈ d'.levels.zip g'.levels ∧
      m.Rearranged m' := by
  obtain ⟨hroot, hunfolds⟩ := Graph.build_unfolds hd
  obtain ⟨hroot', hunfolds'⟩ := Graph.build_unfolds hd'
  induction hl with
  | root => exact ⟨d, d', hroot, hroot', h⟩
  | @inside l l' c c' v v' outer hv hv' id child child' ih =>
    obtain ⟨m, m', hml, hml', hm⟩ := ih
    obtain ⟨n, hn, hnv⟩ := forall₂_exists_right (hunfolds m l hml).2.nodes.flip hv
    obtain ⟨n', hn', hnv'⟩ := forall₂_exists_right (hunfolds' m' l' hml').2.nodes.flip hv'
    obtain ⟨s, hs, hsc⟩ := hnv.child c child
    obtain ⟨s', hs', hsc'⟩ := hnv'.child c' child'
    -- the node that `n` is rearranged to is the one with its id
    obtain ⟨n'', hn'', hnn''⟩ := hm.nodes_related.exists_right hn
    have hvalid : m'.Valid :=
      Graph.valid_of_build hd' (Document.mem_levels_iff.mp (List.of_mem_zip hml').1)
    have hid : n''.id = n'.id := by
      have hkey := congrArg NodeKey.id hnv.key
      have hkey' := congrArg NodeKey.id hnv'.key
      exact (hnn''.id_eq.trans hkey.symm).trans (id.symm.trans hkey')
    obtain rfl := List.inj_on_of_nodup_map hvalid.ids_nodup hn'' hn' hid
    have hsub := hnn''.subgraph_rel
    rw [hs, hs'] at hsub
    cases hsub with
    | some hinside => exact ⟨s, s', hsc, hsc', hinside⟩

/-- The graph of a document in another order has the same nodes and links at the same places. -/
theorem Document.Rearranged.twin (h : d.Rearranged d') (hd : Graph.build d = .ok g)
    (hd' : Graph.build d' = .ok g') : g.Twin g' := by
  intro l l' hl
  obtain ⟨m, m', hml, hml', hm⟩ := hl.rearranged h hd hd'
  exact ((Graph.build_unfolds hd).2 m l hml).2.twin ((Graph.build_unfolds hd').2 m' l' hml').2 hm

structure Document.Renumbers (π : Nat → Nat) (d d' : Document) : Prop where
  root : π 0 = 0
  bijOn : Set.BijOn π {i | i < d.levels.length} {i | i < d'.levels.length}
  level : ∀ i m, d.levels[i]? = some m → ∃ m', d'.levels[π i]? = some m' ∧ m.Rearranged m'

/-- The levels at the same places in the graphs are the same levels of the documents. -/
lemma Graph.Renumbers.documents {π : Nat → Nat} (hπ : Graph.Renumbers π g g')
    (h : d.Rearranged d') (hd : Graph.build d = .ok g) (hd' : Graph.build d' = .ok g') :
    Document.Renumbers π d d' := by
  have hg := Graph.build_wellFormed hd
  have hg' := Graph.build_wellFormed hd'
  have htwin := h.twin hd hd'
  have hlength : d.levels.length = g.levels.length := (Graph.levels_unfold hd).length_eq
  have hlength' : d'.levels.length = g'.levels.length := (Graph.levels_unfold hd').length_eq
  -- the numbers of levels are just those below their count
  have hlevel : ∀ {g : Graph} (hg : g.WellFormed) {i : Nat}, i < g.levels.length →
      ∃ l ∈ g.levels, l.id = i := by
    intro g hg i hi
    exact ⟨g.levels[i], List.getElem_mem hi, hg.id_of_getElem? (List.getElem?_eq_getElem hi)⟩
  have hlt : ∀ {g : Graph} (hg : g.WellFormed) {l : Level}, l ∈ g.levels →
      l.id < g.levels.length := fun hg _ hl =>
    (List.getElem?_eq_some_iff.mp (hg.getElem?_levels hl)).1
  refine ⟨?_, ⟨?_, ?_, ?_⟩, ?_⟩
  · rw [← hg.root_id, ← hπ g.root g'.root .root, hg'.root_id, hg.root_id]
  · intro i hi
    obtain ⟨l, hl, rfl⟩ := hlevel hg (hlength ▸ hi)
    obtain ⟨l', hl'⟩ := htwin.exists_right hg hg' hl
    change π l.id < d'.levels.length
    rw [← hπ l l' hl', hlength']
    exact hlt hg' hl'.mem'
  · intro i hi j hj hij
    obtain ⟨l, hl, rfl⟩ := hlevel hg (hlength ▸ hi)
    obtain ⟨m, hm, rfl⟩ := hlevel hg (hlength ▸ hj)
    rw [hπ.injective htwin hg hg' hl hm hij]
  · intro i hi
    obtain ⟨l', hl', rfl⟩ := hlevel hg' (hlength' ▸ hi)
    obtain ⟨l, hl⟩ := htwin.exists_left hg hg' hl'
    exact ⟨l.id, hlength ▸ hlt hg hl.mem, (hπ l l' hl).symm⟩
  · intro i m hm
    obtain ⟨hi, -⟩ := List.getElem?_eq_some_iff.mp hm
    obtain ⟨l, hl, rfl⟩ := hlevel hg (hlength ▸ hi)
    obtain ⟨l', hl'⟩ := htwin.exists_right hg hg' hl
    obtain ⟨m₁, m', hml, hml', hrearranged⟩ := hl'.rearranged h hd hd'
    obtain rfl := Option.some.inj (hm.symm.trans (hg.getElem?_of_mem_zip hml))
    exact ⟨m', hπ l l' hl' ▸ hg'.getElem?_of_mem_zip hml', hrearranged⟩

end Documents

end Patchbay
