import Mathlib.Data.List.Nodup
import Mathlib.Data.List.Range
import Patchbay.Graph.Build
import Patchbay.Proofs.Document.Meaning

/-!
# Well-formed graphs

What holds of every graph that a document is built to: its levels are numbered in order, a node
holds a level exactly if it is a bus, keys name one node each, and the ends of links fit.
-/

namespace Patchbay

/-- A node that fits a level of a number and depth. -/
structure GraphNode.Fits (level depth : Nat) (v : GraphNode) : Prop where
  key_level : v.key.level = level
  child_of_bus : ∀ title, v.kind = .busAdd title → ∃ c, v.child = some c
  bus_of_child : ∀ c, v.child = some c → ∃ title, v.kind = .busAdd title
  child_parent : ∀ c, v.child = some c → c.parent = some v.key
  child_depth : ∀ c, v.child = some c → c.depth = depth + 1

/-- Nodes that can stand in one level. -/
structure NodesFit (level depth : Nat) (vs : List GraphNode) : Prop where
  node : ∀ v ∈ vs, v.Fits level depth
  ids_nodup : (vs.map fun v => v.key.id).Nodup
  port_nodup : ∀ d, ((passThroughs d vs).map Prod.snd).Nodup
  port_valid : ∀ d, ∀ name ∈ (passThroughs d vs).map Prod.snd, validPortName name = true

/-- A level whose nodes and links fit together. -/
structure Level.Fits (l : Level) : Prop extends NodesFit l.id l.depth l.nodes where
  link_index : l.links.map GraphLink.index = List.range l.links.length
  link_level : ∀ k ∈ l.links, ∀ e, (k.node e).level = l.id
  link_end : ∀ k ∈ l.links, ∀ e, k.checkEnd l.nodes e = .ok ()

/-- A graph whose levels fit, numbered from the root on. -/
structure Graph.WellFormed (g : Graph) : Prop where
  root_parent : g.root.parent = none
  root_depth : g.root.depth = 0
  ids : g.levels.map Level.id = List.range g.levels.length
  fits : ∀ l ∈ g.levels, l.Fits

/-! ### Levels in levels -/

namespace Level

@[simp] lemma flatten_mk (id : Nat) (parent : Option NodeKey) (depth : Nat)
    (nodes : List GraphNode) (links : List GraphLink) :
    flatten ⟨id, parent, depth, nodes, links⟩
      = ⟨id, parent, depth, nodes, links⟩ :: flattenNodes nodes := by
  simp [flatten]

lemma flatten_eq (l : Level) : l.flatten = l :: flattenNodes l.nodes := by
  obtain ⟨id, parent, depth, nodes, links⟩ := l
  exact flatten_mk id parent depth nodes links

@[simp] lemma flattenNodes_nil : flattenNodes [] = [] := by simp [flattenNodes]

@[simp] lemma flattenNodes_cons (v : GraphNode) (vs : List GraphNode) :
    flattenNodes (v :: vs) = flattenNode v ++ flattenNodes vs := by simp [flattenNodes]

lemma flattenNode_eq (v : GraphNode) :
    flattenNode v = (v.child.map flatten).getD [] := by
  obtain ⟨key, kind, inputNames, outputNames, _ | l⟩ := v <;> simp [flattenNode]

lemma mem_flatten_self (l : Level) : l ∈ l.flatten := by simp [flatten_eq]

/-- The levels below nodes are those of the levels that the nodes hold. -/
lemma mem_flattenNodes {vs : List GraphNode} {m : Level} :
    m ∈ flattenNodes vs ↔ ∃ v ∈ vs, ∃ c, v.child = some c ∧ m ∈ c.flatten := by
  induction vs with
  | nil => simp
  | cons v vs ih =>
    rw [flattenNodes_cons, List.mem_append, ih, List.exists_mem_cons_iff, flattenNode_eq]
    cases v.child <;> simp

end Level

/-! ### What is built fits -/

/-- Levels that fit, with numbers from `first` on, up to before `next`. -/
structure LevelsFit (ls : List Level) (first next : Nat) : Prop where
  ids : ls.map Level.id = List.range' first ls.length
  next_eq : next = first + ls.length
  fits : ∀ l ∈ ls, l.Fits

namespace LevelsFit

lemma nil (first : Nat) : LevelsFit [] first first := ⟨rfl, rfl, by simp⟩

/-- Numbers go on where those of the levels before end. -/
lemma append {ls ms : List Level} {first mid next : Nat} (h : LevelsFit ls first mid)
    (h' : LevelsFit ms mid next) : LevelsFit (ls ++ ms) first next where
  ids := by rw [List.map_append, h.ids, h'.ids, h.next_eq, List.length_append, List.range'_append_1]
  next_eq := by rw [h'.next_eq, h.next_eq, List.length_append, Nat.add_assoc]
  fits := by
    intro l hl
    rcases List.mem_append.mp hl with hl | hl
    · exact h.fits l hl
    · exact h'.fits l hl

/-- A level comes before all levels in it, and takes the first number. -/
lemma cons {l : Level} {ls : List Level} {next : Nat} (hl : l.Fits)
    (h : LevelsFit ls (l.id + 1) next) : LevelsFit (l :: ls) l.id next where
  ids := by rw [List.map_cons, h.ids, List.length_cons, List.range'_succ]
  next_eq := by rw [h.next_eq, List.length_cons]; omega
  fits := by
    intro m hm
    rcases List.mem_cons.mp hm with rfl | hm
    · exact hl
    · exact h.fits m hm

end LevelsFit

lemma passThroughs_append (d : Direction) (vs ws : List GraphNode) :
    passThroughs d (vs ++ ws) = passThroughs d vs ++ passThroughs d ws :=
  List.filterMap_append

/-- A name that passes the check is new among the ports of the bus that have its direction. -/
lemma checkPort_passThrough {bus : NodeKey} {earlier : List GraphNode} {kind : NodeKind}
    (h : checkPort bus earlier kind = .ok ()) {d : Direction} {name : String}
    (hd : kind.passThrough? d = some name) :
    validPortName name = true ∧ name ∉ (passThroughs d earlier).map Prod.snd := by
  have hc : checkPortName bus d name earlier = .ok () := by
    cases kind <;> cases d <;> simp_all [NodeKind.passThrough?, checkPort]
  unfold checkPortName at hc
  split_ifs at hc with hv hn
  exact ⟨by simpa using hv, by simpa using hn⟩

lemma NodesFit.nil (level depth : Nat) : NodesFit level depth [] := by
  constructor <;> simp [passThroughs]

/-- A node fits after others if its id is new and its port may be named so. -/
lemma NodesFit.concat {level depth : Nat} {vs : List GraphNode} {v : GraphNode}
    {bus : NodeKey} (h : NodesFit level depth vs) (hv : v.Fits level depth)
    (hid : ∀ w ∈ vs, w.key.id ≠ v.key.id) (hp : checkPort bus vs v.kind = .ok ()) :
    NodesFit level depth (vs ++ [v]) where
  node := by
    intro w hw
    rcases List.mem_append.mp hw with hw | hw
    · exact h.node w hw
    · rwa [List.mem_singleton.mp hw]
  ids_nodup := by
    rw [List.map_append, List.nodup_append]
    refine ⟨h.ids_nodup, by simp, ?_⟩
    simpa using hid
  port_nodup := by
    intro d
    -- only a port of direction `d` adds a name, and the check has compared it with the earlier ones
    rw [passThroughs_append, List.map_append]
    cases hd : v.kind.passThrough? d with
    | none => simpa [passThroughs, hd] using h.port_nodup d
    | some name =>
      have hnew := (checkPort_passThrough hp hd).2
      simp only [passThroughs, List.filterMap_cons, List.filterMap_nil, hd, Option.map_some,
        List.map_cons, List.map_nil]
      rw [List.nodup_append]
      refine ⟨h.port_nodup d, by simp, ?_⟩
      intro a ha b hb
      rw [List.mem_singleton.mp hb]
      rintro rfl
      exact hnew ha
  port_valid := by
    intro d name hname
    rw [passThroughs_append, List.map_append, List.mem_append] at hname
    rcases hname with hname | hname
    · exact h.port_valid d name hname
    · cases hd : v.kind.passThrough? d with
      | none => simp [passThroughs, hd] at hname
      | some name' =>
        obtain rfl : name = name' := by simpa [passThroughs, hd] using hname
        exact (checkPort_passThrough hp hd).1

/-- A bus is classified as such only if it holds a document. -/
lemma Node.subgraph_of_classify {n : Node} {title : String}
    (h : n.classify = .ok (.busAdd title)) : ∃ d, n.subgraph = some d := by
  cases Node.classify_eq_ok_iff.mp h with
  | busAdd _ d _ subgraph => exact ⟨d, subgraph⟩

/-- A node of a level shows a node of a document. -/
structure GraphNode.Shows (level : Nat) (n : Node) (v : GraphNode) : Prop where
  key : v.key = ⟨level, n.id⟩
  kind : n.classify = .ok v.kind
  inputNames : v.inputNames = n.inputNames
  outputNames : v.outputNames = n.outputNames

/-- What was checked of a node that was built. -/
structure GraphNode.BuiltFrom (n : Node) (bus : Option NodeKey) (level : Nat)
    (earlier : List GraphNode) (v : GraphNode) : Prop extends v.Shows level n where
  new : ∀ w ∈ earlier, w.key.id ≠ n.id
  port : checkPort (bus.getD v.key) earlier v.kind = .ok ()

/-- What it takes for a node to be built, apart from the level that it holds. -/
lemma Level.buildNode_ok {n : Node} {parent : Option NodeKey} {depth id next after : Nat}
    {earlier : List GraphNode} {v : GraphNode}
    (h : buildNode parent depth id earlier next n = .ok (v, after)) :
    v.BuiltFrom n parent id earlier ∧
      buildChild v.key depth next v.kind n.subgraph = .ok (v.child, after) := by
  obtain ⟨nodeId, type, title, properties, subgraph, inputs, outputs, extra⟩ := n
  simp only [buildNode] at h
  split_ifs at h with hid
  · obtain ⟨_, h, -⟩ := bind_eq_ok_iff.mp h
    cases h
  · obtain ⟨kind, hkind, h⟩ := bind_eq_ok_iff.mp h
    obtain ⟨⟨⟩, hport, h⟩ := bind_eq_ok_iff.mp h
    obtain ⟨⟨child, next'⟩, hchild, h⟩ := bind_eq_ok_iff.mp h
    cases h
    refine ⟨⟨⟨rfl, mapError_eq_ok_iff.mp hkind, rfl, rfl⟩, ?_, hport⟩, hchild⟩
    simpa using hid

/-- A node with which nothing is wrong is built, if what it holds is. -/
lemma Level.buildNode_of_builtFrom {n : Node} {parent : Option NodeKey} {depth id next after : Nat}
    {earlier : List GraphNode} {v : GraphNode} (hv : v.BuiltFrom n parent id earlier)
    (hchild : buildChild v.key depth next v.kind n.subgraph = .ok (v.child, after)) :
    buildNode parent depth id earlier next n = .ok (v, after) := by
  obtain ⟨nodeId, type, title, properties, subgraph, inputs, outputs, extra⟩ := n
  obtain ⟨key, kind, inputNames, outputNames, child⟩ := v
  obtain ⟨⟨rfl, hkind, rfl, rfl⟩, hnew, hport⟩ := hv
  simp only [buildNode]
  rw [if_neg (by simpa using hnew)]
  refine bind_eq_ok_iff.mpr ⟨kind, mapError_eq_ok_iff.mpr hkind, ?_⟩
  exact bind_eq_ok_iff.mpr ⟨(), hport, bind_eq_ok_iff.mpr ⟨_, hchild, rfl⟩⟩

/-- Only a bus holds a level, the one that its document is built to. -/
lemma Level.buildChild_ok {key : NodeKey} {depth next after : Nat} {kind : NodeKind}
    {sub : Option Document} {child : Option Level}
    (h : buildChild key depth next kind sub = .ok (child, after)) :
    (∃ title d l, kind = .busAdd title ∧ sub = some d ∧ child = some l ∧
        build (some key) (depth + 1) next d = .ok (l, after)) ∨
      (child = none ∧ after = next ∧ ∀ title, kind = .busAdd title → sub = none) := by
  unfold buildChild at h
  split at h
  · cases h
    exact .inr ⟨rfl, rfl, fun _ _ => rfl⟩
  · split at h
    · obtain ⟨⟨l, after'⟩, hl, h⟩ := bind_eq_ok_iff.mp h
      cases h
      exact .inl ⟨_, _, l, rfl, rfl, rfl, hl⟩
    · rename_i hne
      cases h
      exact .inr ⟨rfl, rfl, fun title ht => (hne title ht).elim⟩

/-- The link of a document as a link of a level. -/
def GraphLink.ofLink (level index : Nat) (l : Link) : GraphLink :=
  ⟨index, l.id, ⟨level, l.originId⟩, l.originSlot, ⟨level, l.targetId⟩, l.targetSlot⟩

lemma GraphLink.node_ofLink (level index : Nat) (l : Link) (e : LinkEnd) :
    (GraphLink.ofLink level index l).node e = ⟨level, l.node e⟩ := by
  cases e <;> rfl

lemma GraphLink.slot_ofLink (level index : Nat) (l : Link) (e : LinkEnd) :
    (GraphLink.ofLink level index l).slot e = l.slot e := by
  cases e <;> rfl

/-- The links of a document as links of a level, from a position on. -/
def linksFrom (level index : Nat) : List Link → List GraphLink
  | [] => []
  | l :: ls => GraphLink.ofLink level index l :: linksFrom level (index + 1) ls

/-- Links that are built are the authored ones with their positions, each with both ends checked. -/
lemma buildLinks_ok {level : Nat} {nodes : List GraphNode} {ls : List Link} :
    ∀ {index : Nat} {ks : List GraphLink}, buildLinks level nodes index ls = .ok ks →
      ks = linksFrom level index ls ∧ ks.map GraphLink.index = List.range' index ks.length ∧
        (∀ k ∈ ks, ∀ e, (k.node e).level = level) ∧
        ∀ k ∈ ks, ∀ e, k.checkEnd nodes e = .ok () := by
  induction ls with
  | nil =>
    intro index ks h
    cases h
    simp [linksFrom]
  | cons l ls ih =>
    intro index ks h
    rw [buildLinks] at h
    obtain ⟨⟨⟩, horigin, h⟩ := bind_eq_ok_iff.mp h
    obtain ⟨⟨⟩, htarget, h⟩ := bind_eq_ok_iff.mp h
    obtain ⟨ks', hks, h⟩ := bind_eq_ok_iff.mp h
    cases h
    obtain ⟨rfl, hindex, hlevel, hend⟩ := ih hks
    refine ⟨rfl, ?_, ?_, ?_⟩
    · -- the positions of the others begin one further
      rw [List.map_cons, hindex, List.length_cons, List.range'_succ]
    · intro k hk e
      rcases List.mem_cons.mp hk with rfl | hk
      · exact congrArg NodeKey.level (GraphLink.node_ofLink level index l e)
      · exact hlevel k hk e
    · intro k hk e
      rcases List.mem_cons.mp hk with rfl | hk
      · cases e
        · exact horigin
        · exact htarget
      · exact hend k hk e

mutual

/-- A level that is built fits, and all levels in it have the numbers from its own on. The proof is
by recursion on the document and has a theorem for each of the functions that build. -/
theorem Level.build_fits {parent : Option NodeKey} {depth next : Nat} :
    ∀ {d : Document} {l : Level} {after : Nat}, build parent depth next d = .ok (l, after) →
      (l.id = next ∧ l.parent = parent ∧ l.depth = depth) ∧ LevelsFit l.flatten next after
  | ⟨nodes, links, busId, extra⟩, l, after, h => by
    rw [build] at h
    obtain ⟨⟨vs, after'⟩, hvs, h⟩ := bind_eq_ok_iff.mp h
    obtain ⟨ks, hks, h⟩ := bind_eq_ok_iff.mp h
    cases h
    obtain ⟨hnodes, hlevels⟩ := buildNodes_fits hvs (NodesFit.nil next depth)
    obtain ⟨-, hindex, hlevel, hend⟩ := buildLinks_ok hks
    refine ⟨⟨rfl, rfl, rfl⟩, ?_⟩
    rw [flatten_mk]
    refine LevelsFit.cons ⟨hnodes, ?_, hlevel, hend⟩ hlevels
    rw [hindex, List.range_eq_range']

/-- If the earlier nodes fit, they do so together with those that are built. -/
theorem Level.buildNodes_fits {parent : Option NodeKey} {depth id : Nat} :
    ∀ {ns : List Node} {earlier vs : List GraphNode} {next after : Nat},
      buildNodes parent depth id earlier next ns = .ok (vs, after) →
      NodesFit id depth earlier →
      NodesFit id depth (earlier ++ vs) ∧ LevelsFit (flattenNodes vs) next after
  | [], earlier, vs, next, after, h, hearlier => by
    rw [buildNodes] at h
    cases h
    simpa using ⟨hearlier, LevelsFit.nil next⟩
  | n :: ns, earlier, vs, next, after, h, hearlier => by
    rw [buildNodes] at h
    obtain ⟨⟨v, mid⟩, hv, h⟩ := bind_eq_ok_iff.mp h
    obtain ⟨⟨ws, after'⟩, hws, h⟩ := bind_eq_ok_iff.mp h
    cases h
    obtain ⟨hnode, hlevels⟩ := buildNode_fits hv hearlier
    -- the next node's levels are numbered from where this node's end
    obtain ⟨hnodes, hlevels'⟩ := buildNodes_fits hws hnode
    rw [flattenNodes_cons]
    exact ⟨by simpa using hnodes, hlevels.append hlevels'⟩

/-- A node that is built goes with the earlier ones, and the levels in it have the next numbers. -/
theorem Level.buildNode_fits {parent : Option NodeKey} {depth id : Nat} :
    ∀ {n : Node} {earlier : List GraphNode} {v : GraphNode} {next after : Nat},
      buildNode parent depth id earlier next n = .ok (v, after) →
      NodesFit id depth earlier →
      NodesFit id depth (earlier ++ [v]) ∧ LevelsFit (flattenNode v) next after
  | ⟨nodeId, type, title, properties, subgraph, inputs, outputs, extra⟩, earlier, v, next,
      after, h, hearlier => by
    obtain ⟨hv, hchild⟩ := buildNode_ok h
    obtain ⟨hlevels, hbus⟩ := buildChild_fits hchild
    have hfit : v.Fits id depth := by
      refine ⟨by rw [hv.key], ?_, fun c hc => (hbus c hc).1, fun c hc => (hbus c hc).2.1,
        fun c hc => (hbus c hc).2.2⟩
      -- a bus has a subgraph, so that a level was built for it
      intro t ht
      obtain ⟨d, rfl⟩ : ∃ d, subgraph = some d := Node.subgraph_of_classify (ht ▸ hv.kind)
      rcases buildChild_ok hchild with ⟨_, _, l, -, -, hl, -⟩ | ⟨-, -, hnone⟩
      · exact ⟨l, hl⟩
      · cases hnone t ht
    refine ⟨hearlier.concat hfit ?_ hv.port, ?_⟩
    · rw [hv.key]
      exact hv.new
    · rw [flattenNode_eq]
      exact hlevels

/-- Only a bus holds a level. Its numbers begin where those before end. -/
theorem Level.buildChild_fits {key : NodeKey} {depth : Nat} {kind : NodeKind} :
    ∀ {sub : Option Document} {child : Option Level} {next after : Nat},
      buildChild key depth next kind sub = .ok (child, after) →
      LevelsFit ((child.map flatten).getD []) next after ∧
        ∀ c, child = some c →
          (∃ title, kind = .busAdd title) ∧ c.parent = some key ∧ c.depth = depth + 1
  | none, child, next, after, h => by
    rcases buildChild_ok h with ⟨_, _, _, -, hsub, -⟩ | ⟨rfl, rfl, -⟩
    · cases hsub
    · exact ⟨LevelsFit.nil after, by simp⟩
  | some d, child, next, after, h => by
    rcases buildChild_ok h with ⟨title, _, l, rfl, ⟨⟩, rfl, hl⟩ | ⟨rfl, rfl, -⟩
    · obtain ⟨⟨-, hparent, hdepth⟩, hlevels⟩ := build_fits hl
      refine ⟨hlevels, ?_⟩
      rintro c ⟨⟩
      exact ⟨⟨title, rfl⟩, hparent, hdepth⟩
    · exact ⟨LevelsFit.nil after, by simp⟩

end

/-- A graph that a document is built to is well-formed. -/
theorem Graph.build_wellFormed {d : Document} {g : Graph} (h : Graph.build d = .ok g) :
    g.WellFormed := by
  obtain ⟨⟨l, after⟩, hl, h⟩ := bind_eq_ok_iff.mp h
  cases h
  obtain ⟨⟨hid, hparent, hdepth⟩, hlevels⟩ := Level.build_fits hl
  exact ⟨hparent, hdepth, by rw [Graph.levels, hlevels.ids, List.range_eq_range'], hlevels.fits⟩

/-- A bus that passes its input on. -/
def wireBus : Document where
  nodes :=
    [⟨1, "bus/input", none, [("name", .string "in")], none, none, none, []⟩,
      ⟨2, "bus/output", none, [("name", .string "out")], none, none, none, []⟩]
  links := [⟨5, 1, 0, 2, 0, .null, .null, []⟩]
  busId := none
  extra := []

/-- A physical input that leads through a bus to a physical output. -/
def wire : Document where
  nodes :=
    [⟨1, "main/inputs", none, [("ids", .array [.null])], none, none, none, []⟩,
      ⟨2, "bus/add", some "wire", [], some wireBus, none, none, []⟩,
      ⟨3, "main/outputs", none, [("ids", .array [.null])], none, none, none, []⟩]
  links := [⟨5, 1, 0, 2, 0, .null, .null, []⟩, ⟨6, 2, 0, 3, 0, .null, .null, []⟩]
  busId := none
  extra := []

example : ∃ g, Graph.build wire = .ok g ∧ g.levels.length = 2 := ⟨_, rfl, rfl⟩

end Patchbay
