import Patchbay.Proofs.Graph.WellFormed

/-!
# Keys of a well-formed graph

A number names one level and a key one node of a well-formed graph, the levels that its buses hold
are its levels, and every level but the root is held by one node.
-/

namespace Patchbay

namespace Level

mutual

/-- The levels in a level stand together among those of the whole, in the same order. -/
theorem flatten_sublist : ∀ {l m : Level}, m ∈ l.flatten → m.flatten.Sublist l.flatten
  | ⟨id, parent, depth, nodes, links⟩, m, h => by
    rw [flatten_mk] at h ⊢
    rcases List.mem_cons.mp h with rfl | h
    · rw [flatten_mk]
    · exact (flattenNodes_sublist h).cons _

theorem flattenNodes_sublist : ∀ {vs : List GraphNode} {m : Level},
    m ∈ flattenNodes vs → m.flatten.Sublist (flattenNodes vs)
  | [], m, h => by simp at h
  | v :: vs, m, h => by
    rw [flattenNodes_cons, List.mem_append] at h
    rw [flattenNodes_cons]
    rcases h with h | h
    · exact (flattenNode_sublist h).trans (List.sublist_append_left _ _)
    · exact (flattenNodes_sublist h).trans (List.sublist_append_right _ _)

theorem flattenNode_sublist : ∀ {v : GraphNode} {m : Level},
    m ∈ flattenNode v → m.flatten.Sublist (flattenNode v)
  | ⟨key, kind, inputNames, outputNames, none⟩, m, h => by simp [flattenNode] at h
  | ⟨key, kind, inputNames, outputNames, some l⟩, m, h => by
    simp only [flattenNode] at h ⊢
    exact flatten_sublist h

end

lemma child_mem_flatten {l : Level} {v : GraphNode} {c : Level} (hv : v ∈ l.nodes)
    (hc : v.child = some c) : c ∈ flattenNodes l.nodes :=
  mem_flattenNodes.mpr ⟨v, hv, c, hc, mem_flatten_self c⟩

mutual

/-- A level in another one is held by a node there. -/
theorem exists_owner : ∀ {l m : Level}, m ∈ l.flatten →
    m = l ∨ ∃ n ∈ l.flatten, ∃ v ∈ n.nodes, v.child = some m
  | ⟨id, parent, depth, nodes, links⟩, m, h => by
    rw [flatten_mk] at h ⊢
    rcases List.mem_cons.mp h with rfl | h
    · exact .inl rfl
    · rcases exists_owner_nodes h with ⟨v, hv, hc⟩ | ⟨n, hn, hv⟩
      · exact .inr ⟨_, List.mem_cons_self, v, hv, hc⟩
      · exact .inr ⟨n, List.mem_cons_of_mem _ hn, hv⟩

theorem exists_owner_nodes : ∀ {vs : List GraphNode} {m : Level}, m ∈ flattenNodes vs →
    (∃ v ∈ vs, v.child = some m) ∨ ∃ n ∈ flattenNodes vs, ∃ v ∈ n.nodes, v.child = some m
  | [], m, h => by simp at h
  | v :: vs, m, h => by
    rw [flattenNodes_cons, List.mem_append] at h
    simp only [flattenNodes_cons, List.mem_append]
    rcases h with h | h
    · rcases exists_owner_node h with hc | ⟨n, hn, hw⟩
      · exact .inl ⟨v, List.mem_cons_self, hc⟩
      · exact .inr ⟨n, .inl hn, hw⟩
    · rcases exists_owner_nodes h with ⟨w, hw, hc⟩ | ⟨n, hn, hw⟩
      · exact .inl ⟨w, List.mem_cons_of_mem _ hw, hc⟩
      · exact .inr ⟨n, .inr hn, hw⟩

theorem exists_owner_node : ∀ {v : GraphNode} {m : Level}, m ∈ flattenNode v →
    v.child = some m ∨ ∃ n ∈ flattenNode v, ∃ w ∈ n.nodes, w.child = some m
  | ⟨key, kind, inputNames, outputNames, none⟩, m, h => by simp [flattenNode] at h
  | ⟨key, kind, inputNames, outputNames, some l⟩, m, h => by
    simp only [flattenNode] at h ⊢
    rcases exists_owner h with rfl | h
    · exact .inl rfl
    · exact .inr h

end

/-- The id of a node finds this node, where ids name one node each. -/
lemma node?_of_mem {l : Level} (hl : l.Fits) {v : GraphNode} (hv : v ∈ l.nodes) :
    l.node? v.key.id = some v := by
  have huniq : ∀ w ∈ l.nodes, w.key.id = v.key.id → w = v := fun w hw h =>
    List.inj_on_of_nodup_map hl.ids_nodup hw hv h
  cases h : l.node? v.key.id with
  | none =>
    have := List.find?_eq_none.mp h v hv
    simp at this
  | some w =>
    have hw : w.key.id = v.key.id := by simpa using List.find?_some h
    rw [huniq w (List.mem_of_find?_eq_some h) hw]

lemma mem_of_node? {l : Level} {id : Int} {v : GraphNode} (h : l.node? id = some v) :
    v ∈ l.nodes ∧ v.key.id = id :=
  ⟨List.mem_of_find?_eq_some h, by simpa using List.find?_some h⟩

/-! ### Ports of a level's bus -/

/-- The ports of a bus are the pass-throughs of the level in it. -/
lemma mem_portNodes {l : Level} {d : Direction} {id : Int} :
    id ∈ l.portNodes d ↔ ∃ v ∈ l.nodes, v.key.id = id ∧ (v.kind.passThrough? d).isSome := by
  simp only [portNodes, passThroughs, List.map_filterMap, List.mem_filterMap, Option.map_map]
  constructor
  · rintro ⟨v, hv, h⟩
    cases hp : v.kind.passThrough? d with
    | none => simp [hp] at h
    | some name => exact ⟨v, hv, by simpa [hp] using h, by simp [hp]⟩
  · rintro ⟨v, hv, rfl, h⟩
    obtain ⟨name, hp⟩ := Option.isSome_iff_exists.mp h
    exact ⟨v, hv, by simp [hp]⟩

lemma length_portNames (l : Level) (d : Direction) :
    (l.portNames d).length = (l.portNodes d).length := by simp [portNames, portNodes]

/-- A pass-through is a port of the bus in one direction only. -/
lemma passThrough_unique {kind : NodeKind} (hi : (kind.passThrough? .input).isSome)
    (ho : (kind.passThrough? .output).isSome) : False := by
  cases kind <;> simp [NodeKind.passThrough?] at hi ho

lemma portNodes_nodup {l : Level} (hl : l.Fits) (d : Direction) : (l.portNodes d).Nodup := by
  have hsub : (l.portNodes d).Sublist (l.nodes.map fun v => v.key.id) := by
    unfold portNodes passThroughs
    induction l.nodes with
    | nil => exact List.Sublist.refl _
    | cons v vs ih =>
      cases h : v.kind.passThrough? d with
      | none => simpa [h] using ih.cons v.key.id
      | some name => simpa [h] using ih
  exact hl.ids_nodup.sublist hsub

/-- No node is a port in both directions. -/
lemma portNodes_disjoint {l : Level} (hl : l.Fits) {id : Int} (hi : id ∈ l.portNodes .input)
    (ho : id ∈ l.portNodes .output) : False := by
  obtain ⟨v, hv, rfl, hvi⟩ := mem_portNodes.mp hi
  obtain ⟨w, hw, hid, hwo⟩ := mem_portNodes.mp ho
  obtain rfl := List.inj_on_of_nodup_map hl.ids_nodup hw hv hid
  exact passThrough_unique hvi hwo

end Level

namespace Graph.WellFormed

variable {g : Graph} {l m : Level} {v w : GraphNode}

lemma root_mem (g : Graph) : g.root ∈ g.levels := Level.mem_flatten_self g.root

/-- A number names one level. -/
lemma level_unique (hg : g.WellFormed) (hl : l ∈ g.levels) (hm : m ∈ g.levels)
    (h : l.id = m.id) : l = m :=
  List.inj_on_of_nodup_map (hg.ids ▸ List.nodup_range) hl hm h

lemma levels_nodup (hg : g.WellFormed) : g.levels.Nodup :=
  List.Nodup.of_map _ (hg.ids ▸ List.nodup_range)

/-- The number of a level is its position. -/
lemma id_of_getElem? (hg : g.WellFormed) {i : Nat} (h : g.levels[i]? = some l) : l.id = i := by
  have hid : (g.levels.map Level.id)[i]? = some l.id := by
    rw [List.getElem?_map, h, Option.map_some]
  obtain ⟨hi, -⟩ := List.getElem?_eq_some_iff.mp h
  rw [hg.ids, List.getElem?_range hi] at hid
  exact (Option.some.inj hid).symm

lemma getElem?_levels (hg : g.WellFormed) (hl : l ∈ g.levels) : g.levels[l.id]? = some l := by
  obtain ⟨i, hi⟩ := List.mem_iff_getElem?.mp hl
  rwa [hg.id_of_getElem? hi]

lemma root_id (hg : g.WellFormed) : g.root.id = 0 := by
  have h := congrArg List.head? hg.ids
  have hlevels : g.levels = g.root :: Level.flattenNodes g.root.nodes := Level.flatten_eq g.root
  rw [hlevels, List.length_cons, List.range_succ_eq_map] at h
  simpa using h

/-- A key names one node, and one level where it stands. -/
lemma node_unique (hg : g.WellFormed) (hl : l ∈ g.levels) (hm : m ∈ g.levels)
    (hv : v ∈ l.nodes) (hw : w ∈ m.nodes) (h : v.key = w.key) : l = m ∧ v = w := by
  have hlevel : l.id = m.id := by
    rw [← ((hg.fits l hl).node v hv).key_level, h, ((hg.fits m hm).node w hw).key_level]
  obtain rfl := hg.level_unique hl hm hlevel
  exact ⟨rfl, List.inj_on_of_nodup_map (hg.fits l hl).ids_nodup hv hw (congrArg NodeKey.id h)⟩

lemma child_mem (hl : l ∈ g.levels) (hv : v ∈ l.nodes) (hc : v.child = some m) :
    m ∈ g.levels := by
  refine (Level.flatten_sublist hl).subset ?_
  rw [Level.flatten_eq]
  exact List.mem_cons_of_mem _ (Level.child_mem_flatten hv hc)

/-- A level's number is below those of the levels in it. -/
lemma id_lt_child (hg : g.WellFormed) (hl : l ∈ g.levels) (hv : v ∈ l.nodes)
    (hc : v.child = some m) : l.id < m.id := by
  have hsorted : (g.levels.map Level.id).Pairwise (· < ·) := by
    rw [hg.ids]
    exact List.pairwise_lt_range
  have hinner := hsorted.sublist ((Level.flatten_sublist hl).map Level.id)
  rw [Level.flatten_eq, List.map_cons, List.pairwise_cons] at hinner
  exact hinner.1 m.id (List.mem_map_of_mem (Level.child_mem_flatten hv hc))

/-- A level with a parent is held by the node that this key names. -/
lemma exists_owner (hg : g.WellFormed) (hm : m ∈ g.levels) {k : NodeKey}
    (h : m.parent = some k) :
    ∃ l ∈ g.levels, ∃ v ∈ l.nodes, v.child = some m ∧ v.key = k := by
  rcases Level.exists_owner hm with rfl | ⟨l, hl, v, hv, hc⟩
  · rw [hg.root_parent] at h
    cases h
  · have hk := ((hg.fits l hl).node v hv).child_parent m hc
    rw [h] at hk
    exact ⟨l, hl, v, hv, hc, (Option.some.inj hk).symm⟩

/-- Only the root is held by no node. -/
lemma eq_root_of_parent (hg : g.WellFormed) (hm : m ∈ g.levels) (h : m.parent = none) :
    m = g.root := by
  rcases Level.exists_owner hm with rfl | ⟨l, hl, v, hv, hc⟩
  · rfl
  · have hk := ((hg.fits l hl).node v hv).child_parent m hc
    rw [h] at hk
    cases hk

/-- Two nodes that hold the same level are the same node. -/
lemma owner_unique (hg : g.WellFormed) {c : Level} (hl : l ∈ g.levels) (hm : m ∈ g.levels)
    (hv : v ∈ l.nodes) (hw : w ∈ m.nodes) (hvc : v.child = some c) (hwc : w.child = some c) :
    l = m ∧ v = w := by
  apply hg.node_unique hl hm hv hw
  have hkv := ((hg.fits l hl).node v hv).child_parent c hvc
  have hkw := ((hg.fits m hm).node w hw).child_parent c hwc
  exact Option.some.inj (hkv.symm.trans hkw)

lemma node?_of_mem (hg : g.WellFormed) (hl : l ∈ g.levels) (hv : v ∈ l.nodes) :
    g.node? v.key = some v := by
  have hkey := ((hg.fits l hl).node v hv).key_level
  simp [Graph.node?, hkey, hg.getElem?_levels hl, Level.node?_of_mem (hg.fits l hl) hv]

/-- Looking up a key finds the node that has it, at whatever depth. -/
lemma node?_eq_some_iff (hg : g.WellFormed) {key : NodeKey} :
    g.node? key = some v ↔ v ∈ g.levels.flatMap Level.nodes ∧ v.key = key := by
  constructor
  · intro h
    obtain ⟨l, hl, h⟩ := Option.bind_eq_some_iff.mp h
    obtain ⟨hv, hid⟩ := Level.mem_of_node? h
    have hmem := List.mem_of_getElem? hl
    have hlevel := ((hg.fits l hmem).node v hv).key_level
    rw [hg.id_of_getElem? hl] at hlevel
    exact ⟨List.mem_flatMap.mpr ⟨l, hmem, hv⟩, congrArg₂ NodeKey.mk hlevel hid⟩
  · rintro ⟨hv, rfl⟩
    obtain ⟨l, hl, hv⟩ := List.mem_flatMap.mp hv
    exact hg.node?_of_mem hl hv

/-- The number that is looked up for a node is that of the level it holds. -/
lemma childLevel?_of_mem (hg : g.WellFormed) (hl : l ∈ g.levels) (hv : v ∈ l.nodes) :
    g.childLevel? v.key = v.child.map Level.id := by
  simp only [Graph.childLevel?, hg.node?_of_mem hl hv]
  cases h : v.child <;> simp [h]

/-- A level and the levels in it have different numbers. -/
lemma child_level_ne (hg : g.WellFormed) (hl : l ∈ g.levels) (hv : v ∈ l.nodes) {c : Level}
    (hc : v.child = some c) : v.key.level ≠ c.id := by
  rw [((hg.fits l hl).node v hv).key_level]
  exact (hg.id_lt_child hl hv hc).ne

/-- The root lies in no node. -/
lemma child_ne_root (hg : g.WellFormed) (hl : l ∈ g.levels) (hv : v ∈ l.nodes) :
    v.child ≠ some g.root := by
  intro hchild
  have hparent := ((hg.fits l hl).node v hv).child_parent g.root hchild
  rw [hg.root_parent] at hparent
  cases hparent

/-- A key of a level's node names this node. -/
lemma eq_of_key (hg : g.WellFormed) (hl : l ∈ g.levels) (hm : m ∈ g.levels) (hv : v ∈ l.nodes)
    (hw : w ∈ m.nodes) (hlevel : v.key.level = m.id) (hid : w.key.id = v.key.id) :
    l = m ∧ v = w := by
  apply hg.node_unique hl hm hv hw
  rw [← ((hg.fits m hm).node w hw).key_level] at hlevel
  exact congrArg₂ NodeKey.mk hlevel hid.symm

lemma link_unique (hg : g.WellFormed) (hl : l ∈ g.levels) {k k' : GraphLink}
    (hk : k ∈ l.links) (hk' : k' ∈ l.links) (h : k.index = k'.index) : k = k' :=
  List.inj_on_of_nodup_map ((hg.fits l hl).link_index ▸ List.nodup_range) hk hk' h

/-- No two nodes of a graph have one key. -/
lemma keys_nodup (hg : g.WellFormed) :
    ((g.levels.flatMap Level.nodes).map GraphNode.key).Nodup := by
  rw [List.map_flatMap, List.nodup_flatMap]
  constructor
  · intro l hl
    have hids := (hg.fits l hl).ids_nodup
    refine List.Nodup.of_map NodeKey.id ?_
    rwa [List.map_map]
  · refine List.Pairwise.imp_of_mem ?_ hg.levels_nodup
    intro l m hl hm hne key hkl hkm
    obtain ⟨v, hv, rfl⟩ := List.mem_map.mp hkl
    obtain ⟨w, hw, hk⟩ := List.mem_map.mp hkm
    exact hne (hg.node_unique hl hm hv hw hk.symm).1

/-- Both ends of a link are nodes of its level, with slots for the link. -/
lemma exists_end (hg : g.WellFormed) (hl : l ∈ g.levels) {k : GraphLink} (hk : k ∈ l.links)
    (e : LinkEnd) :
    ∃ v ∈ l.nodes, v.key = k.node e ∧ l.node? (k.node e).id = some v ∧
      (v.slots e = .any ∨ ∃ n, v.slots e = .below n ∧ k.slot e < n) := by
  have hend := (hg.fits l hl).link_end k hk e
  simp only [GraphLink.checkEnd] at hend
  split at hend
  · cases hend
  · -- the check has found the node by its id, in the level that the link is of
    rename_i v hfind
    have hv : l.node? (k.node e).id = some v := hfind
    obtain ⟨hvl, hid⟩ := Level.mem_of_node? hv
    have hlevel : v.key.level = (k.node e).level := by
      rw [((hg.fits l hl).node v hvl).key_level, (hg.fits l hl).link_level k hk e]
    have hkey : v.key = k.node e := congrArg₂ NodeKey.mk hlevel hid
    refine ⟨v, hvl, hkey, hv, ?_⟩
    split at hend
    · exact .inl ‹_›
    · cases hend
    · split_ifs at hend with hslot
      exact .inr ⟨_, ‹_›, hslot⟩

end Graph.WellFormed

/-! ### Links that are left out -/

/-- A link of a level touches a node that the engine knows nothing like. -/
def Level.LeavesOut (l : Level) (k : GraphLink) : Prop :=
  ∃ e, ∃ v ∈ l.nodes, v.key = k.node e ∧ ∃ tag, v.kind = .unsupported tag

instance (kind : NodeKind) : Decidable (∃ tag, kind = .unsupported tag) :=
  match kind with
  | .unsupported tag => isTrue ⟨tag, rfl⟩
  | .mainInputs _ | .mainOutputs _ | .busAdd _ | .busInput _ | .busOutput _ | .processing _ =>
    isFalse fun ⟨_, h⟩ => nomatch h

instance (l : Level) (k : GraphLink) : Decidable (l.LeavesOut k) :=
  decidable_of_iff (∃ e ∈ [LinkEnd.origin, .target], ∃ v ∈ l.nodes, v.key = k.node e ∧
    ∃ tag, v.kind = .unsupported tag) (exists_congr fun e => by cases e <;> simp)

end Patchbay
