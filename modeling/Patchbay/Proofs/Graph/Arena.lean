import Patchbay.Graph.Arena
import Patchbay.Proofs.Graph.Validity
import Patchbay.Proofs.Lists

/-!
# The arena of a graph

The arena that a document is built to holds just the levels of the graph that it is built to, each
at its number, and where the one is refused so is the other, with the same error.

While an arena is built, its list of levels ends in those that have come from the nodes so far; what
stood before them stays as it is. So a level that is filled is still at its number, and those that
its buses hold are where the numbers of these buses say.
-/

namespace Patchbay

/-! ### Graphs as arenas -/

/-- The node with the number of the level that it holds. -/
def GraphNode.flat (v : GraphNode) : ArenaNode :=
  ⟨v.key, v.kind, v.inputNames, v.outputNames, v.child.map Level.id⟩

def nodePositions (vs : List GraphNode) : List (Int × Nat) := (vs.map fun v => v.key.id).zipIdx

/-- The level as one of an arena. -/
def Level.flat (l : Level) : ArenaLevel where
  id := l.id
  parent := l.parent
  depth := l.depth
  nodes := l.nodes.map GraphNode.flat
  links := l.links
  inputs := l.portNodes .input
  outputs := l.portNodes .output
  positions := nodePositions l.nodes

def Graph.flat (g : Graph) : Arena := ⟨g.levels.map Level.flat⟩

lemma Level.portNodes_flat (l : Level) (d : Direction) : l.flat.portNodes d = l.portNodes d := by
  cases d <;> rfl

/-- Looking an id up gives the position of the first node that has it. -/
lemma lookup_nodePositions (vs : List GraphNode) (id : Int) :
    (nodePositions vs).lookup id = vs.findIdx? fun v => v.key.id = id := by
  rw [nodePositions, lookup_zipIdx, List.findIdx?_map]
  simp [Function.comp_def, beq_eq_decide]

/-- A node is found at the place of its id. -/
lemma getElem?_nodePositions (vs : List GraphNode) (id : Int) :
    (((nodePositions vs).lookup id).bind fun i => (vs.map GraphNode.flat)[i]?)
      = (vs.find? fun v => v.key.id = id).map GraphNode.flat := by
  simp only [lookup_nodePositions, List.find?_eq_bind_findIdx?_getElem?, Option.map_bind,
    List.getElem?_map, Function.comp_def]

lemma isSome_lookup_nodePositions (vs : List GraphNode) (id : Int) :
    ((nodePositions vs).lookup id).isSome = vs.any fun v => v.key.id = id := by
  rw [lookup_nodePositions, List.findIdx?_isSome]

lemma Level.node?_flat (l : Level) (id : Int) :
    l.flat.node? id = (l.node? id).map GraphNode.flat :=
  getElem?_nodePositions l.nodes id

namespace Arena

variable {a : Arena} {levels : List ArenaLevel} {vs earlier : List GraphNode} {v : GraphNode}

/-! ### Links -/

/-- A level with certain nodes stands in an arena, and so do those that the nodes hold. -/
structure Holds (a : Arena) (level : Nat) (vs : List GraphNode) : Prop where
  node : ∀ id, a.node? ⟨level, id⟩ = (vs.find? fun v => v.key.id = id).map GraphNode.flat
  child : ∀ v ∈ vs, ∀ c, v.child = some c → a.levels[c.id]? = some c.flat

/-- A node of an arena that holds its level offers what the node of the graph does: the ports of a
bus are counted where its number says. -/
lemma Holds.slots {level : Nat} (h : a.Holds level vs) (hv : v ∈ vs) (e : LinkEnd) :
    a.slots v.flat e = v.slots e := by
  have hinside : ((v.flat.child.bind fun c => a.levels[c]?).map
      fun l => (l.portNodes e.direction).length)
      = v.child.map fun l => (l.portNodes e.direction).length := by
    cases hc : v.child with
    | none => simp [GraphNode.flat, hc]
    | some c => simp [GraphNode.flat, hc, h.child v hv c hc, Level.portNodes_flat]
  obtain ⟨key, kind, inputNames, outputNames, child⟩ := v
  cases kind with
  | busAdd title => exact congrArg (fun inside => Slots.below (inside.getD 0)) hinside
  | _ => cases e <;> rfl

/-- An end of a link is checked with the same result. -/
lemma Holds.checkEnd {level : Nat} (h : a.Holds level vs) {k : GraphLink} {e : LinkEnd}
    (hk : (k.node e).level = level) : a.checkEnd k e = k.checkEnd vs e := by
  have hnode : a.node? (k.node e)
      = (vs.find? fun v => v.key.id = (k.node e).id).map GraphNode.flat := by
    rw [← h.node, ← hk]
  unfold Arena.checkEnd GraphLink.checkEnd
  simp only [hnode]
  cases hfind : vs.find? fun v => v.key.id = (k.node e).id with
  | none => rfl
  | some v =>
    simp only [Option.map_some, h.slots (List.mem_of_find?_eq_some hfind)]
    rfl

lemma Holds.checkLinks {level : Nat} (h : a.Holds level vs) (index : Nat) (ls : List Link) :
    a.checkLinks level index ls = buildLinks level vs index ls := by
  induction ls generalizing index with
  | nil => rfl
  | cons l ls ih =>
    rw [Arena.checkLinks, buildLinks, h.checkEnd rfl, h.checkEnd rfl, ih]

/-! ### Nodes -/

/-- What is known of a level after some of its nodes. -/
def Filling.of (vs : List GraphNode) : Filling where
  nodes := vs.map GraphNode.flat
  positions := nodePositions vs
  inputs := (passThroughs .input vs).map Prod.fst
  outputs := (passThroughs .output vs).map Prod.fst
  inputNames := (passThroughs .input vs).map Prod.snd
  outputNames := (passThroughs .output vs).map Prod.snd

/-- What is known with a port more that a node gives the level's bus. -/
def Filling.withPort (f : Filling) (id : Int) : NodeKind → Filling
  | .busInput name =>
    { f with inputs := f.inputs ++ [id], inputNames := f.inputNames ++ [name] }
  | .busOutput name =>
    { f with outputs := f.outputs ++ [id], outputNames := f.outputNames ++ [name] }
  | _ => f

/-- A name is taken just if it passes the check, and comes after the earlier ones. -/
lemma takeName_eq (bus : NodeKey) (d : Direction) (name : String) :
    Filling.takeName bus d name ((passThroughs d earlier).map Prod.snd)
      = (checkPortName bus d name earlier).map fun _ =>
          (passThroughs d earlier).map Prod.snd ++ [name] := by
  unfold Filling.takeName checkPortName
  split_ifs <;> rfl

/-- The port of a node is refused just if the graph refuses it. -/
lemma takePort_of (bus : NodeKey) (id : Int) (kind : NodeKind) :
    ((Filling.of earlier).takeId id).takePort bus id kind
      = (checkPort bus earlier kind).map fun _ =>
          ((Filling.of earlier).takeId id).withPort id kind := by
  cases kind with
  | busInput name =>
    refine (congrArg (Bind.bind · _) (takeName_eq bus .input name)).trans ?_
    rw [checkPort]
    cases checkPortName bus .input name earlier <;> rfl
  | busOutput name =>
    refine (congrArg (Bind.bind · _) (takeName_eq bus .output name)).trans ?_
    rw [checkPort]
    cases checkPortName bus .output name earlier <;> rfl
  | _ => rfl

lemma nodePositions_concat (vs : List GraphNode) (v : GraphNode) :
    nodePositions (vs ++ [v]) = nodePositions vs ++ [(v.key.id, vs.length)] := by
  simp [nodePositions, List.zipIdx_append]

/-- With its id, its port and what else there is to know of it, a node is taken in. -/
lemma takeNode_of (v : GraphNode) :
    (((Filling.of earlier).takeId v.key.id).withPort v.key.id v.kind).takeNode v.flat
      = Filling.of (earlier ++ [v]) := by
  obtain ⟨key, kind, inputNames, outputNames, child⟩ := v
  cases kind <;> simp [Filling.of, Filling.takeId, Filling.withPort, Filling.takeNode,
    nodePositions_concat, passThroughs, NodeKind.passThrough?]

/-! ### Levels -/

/-- A level that was filled stands at its number, and those that its nodes hold come after it. -/
lemma holds_of_filled {f : ArenaLevel} {next : Nat}
    (hnodes : f.nodes = vs.map GraphNode.flat) (hpositions : f.positions = nodePositions vs)
    (hlevels : LevelsFit (Level.flattenNodes vs) (levels.length + 1) next) :
    Holds ⟨levels ++ f :: (Level.flattenNodes vs).map Level.flat⟩ levels.length vs := by
  constructor
  · intro id
    have hlevel : (levels ++ f :: (Level.flattenNodes vs).map Level.flat)[levels.length]?
        = some f := by
      simp
    simp only [Arena.node?, hlevel, Option.bind_some, ArenaLevel.node?, hnodes, hpositions]
    exact getElem?_nodePositions vs id
  · intro v hv c hc
    have hmem : c ∈ Level.flattenNodes vs :=
      Level.mem_flattenNodes.mpr ⟨v, hv, c, hc, Level.mem_flatten_self c⟩
    obtain ⟨i, hi⟩ := List.mem_iff_getElem?.mp hmem
    obtain ⟨hlt, -⟩ := List.getElem?_eq_some_iff.mp hi
    -- the levels in the nodes come right after this one, in the order of their numbers
    have hid : c.id = levels.length + (i + 1) := by
      have hids := congrArg (fun ids => ids[i]?) hlevels.ids
      simp only [List.getElem?_map, hi, Option.map_some, List.getElem?_range' hlt] at hids
      rw [Option.some.inj hids]
      omega
    rw [hid, List.getElem?_append_right (Nat.le_add_right _ _), Nat.add_sub_cancel_left,
      List.getElem?_cons_succ, List.getElem?_map, hi, Option.map_some]

/-- A level whose nodes are known is closed with its links just if these fit its nodes. -/
lemma close_eq {parent : Option NodeKey} {depth next : Nat} {links : List Link}
    (hlevels : LevelsFit (Level.flattenNodes vs) (levels.length + 1) next) :
    close levels.length (.of vs) (levels ++ [{ id := levels.length, parent, depth }] ++
        (Level.flattenNodes vs).map Level.flat) links
      = (buildLinks levels.length vs 0 links).map fun ks =>
          levels ++ Level.flat ⟨levels.length, parent, depth, vs, ks⟩ ::
            (Level.flattenNodes vs).map Level.flat := by
  rw [List.append_assoc, List.singleton_append, close, modify_append_cons]
  have hholds : Holds ⟨levels ++ (Filling.of vs).fill { id := levels.length, parent, depth } ::
      (Level.flattenNodes vs).map Level.flat⟩ levels.length vs := holds_of_filled rfl rfl hlevels
  rw [hholds.checkLinks]
  cases buildLinks levels.length vs 0 links with
  | error e => rfl
  | ok ks => exact congrArg Except.ok (modify_append_cons _ _ _ _)

mutual

/-- A level is added just if it is built, and what is added is the level and all levels in it, in
the order of their numbers. The recursion is that of the two functions; `levels` is what came
before. -/
theorem addLevel_eq : ∀ (parent : Option NodeKey) (depth : Nat) (levels : List ArenaLevel)
    (d : Document), addLevel parent depth levels d
      = (Level.build parent depth levels.length d).map fun p =>
          (p.1.id, levels ++ p.1.flatten.map Level.flat)
  | parent, depth, levels, ⟨nodes, links, busId, extra⟩ => by
    rw [addLevel, Level.build]
    have hnodes := addNodes_eq parent depth levels.length (.nil _ _)
      (levels ++ [{ id := levels.length, parent, depth }]) nodes
    rw [List.length_append, List.length_singleton] at hnodes
    refine (congrArg (Bind.bind · _) hnodes).trans ?_
    cases hvs : Level.buildNodes parent depth levels.length [] (levels.length + 1) nodes with
    | error e => rfl
    | ok p =>
      obtain ⟨vs, next⟩ := p
      -- only here is the level filled in that was put down before its nodes
      obtain ⟨-, hlevels⟩ := Level.buildNodes_fits hvs (.nil _ _)
      change (close levels.length (.of vs) (levels ++ [_] ++ _) links >>= _)
        = Except.map _ (buildLinks levels.length vs 0 links >>= _)
      rw [close_eq hlevels]
      cases buildLinks levels.length vs 0 links with
      | error e => rfl
      | ok ks =>
        refine congrArg (fun ls => Except.ok (levels.length, levels ++ ls)) ?_
        rw [Level.flatten_mk, List.map_cons]

/-- Nodes are added after the `earlier` ones, which are in the filling. What stands in `levels`
stays where it is. -/
theorem addNodes_eq (parent : Option NodeKey) (depth id : Nat) {earlier : List GraphNode}
    (hearlier : NodesFit id depth earlier) (levels : List ArenaLevel) :
    ∀ ns : List Node, addNodes parent depth id (.of earlier) levels ns
      = (Level.buildNodes parent depth id earlier levels.length ns).map fun p =>
          (.of (earlier ++ p.1), levels ++ (Level.flattenNodes p.1).map Level.flat)
  | [] => by simp [addNodes, Level.buildNodes, Except.map]
  | n :: ns => by
    rw [addNodes, Level.buildNodes, addNode_eq]
    cases hv : Level.buildNode parent depth id earlier levels.length n with
    | error e => rfl
    | ok p =>
      obtain ⟨v, next⟩ := p
      obtain ⟨hnode, hlevels⟩ := Level.buildNode_fits hv hearlier
      -- the next number is the length of the list, so the rest starts at the same one
      have hlength : (levels ++ (Level.flattenNode v).map Level.flat).length = next := by
        rw [List.length_append, List.length_map, hlevels.next_eq]
      have hrest := addNodes_eq parent depth id hnode
        (levels ++ (Level.flattenNode v).map Level.flat) ns
      rw [hlength] at hrest
      refine hrest.trans ?_
      change _ = Except.map _ (Level.buildNodes parent depth id (earlier ++ [v]) next ns >>= _)
      cases Level.buildNodes parent depth id (earlier ++ [v]) next ns with
      | error e => rfl
      | ok q => simp [Except.map, bind, Except.bind, pure, Except.pure]

/-- A node is checked in the same order: its id, what it means, its name as a port, then the level
in it. -/
theorem addNode_eq (parent : Option NodeKey) (depth id : Nat) (earlier : List GraphNode)
    (levels : List ArenaLevel) :
    ∀ n : Node, addNode parent depth id (.of earlier) levels n
      = (Level.buildNode parent depth id earlier levels.length n).map fun p =>
          (.of (earlier ++ [p.1]), levels ++ (Level.flattenNode p.1).map Level.flat)
  | ⟨nodeId, type, title, properties, subgraph, inputs, outputs, extra⟩ => by
    have hany : ((Filling.of earlier).positions.lookup nodeId).isSome
        = earlier.any fun v => v.key.id = nodeId := isSome_lookup_nodePositions earlier nodeId
    simp only [addNode, Level.buildNode, hany]
    split_ifs with hid
    · rfl
    generalize (Node.classify _).mapError _ = kind
    cases kind with
    | error e => rfl
    | ok kind =>
      change (((Filling.of earlier).takeId nodeId).takePort _ nodeId kind >>= _)
        = Except.map _ (checkPort _ earlier kind >>= _)
      rw [takePort_of]
      cases checkPort (parent.getD ⟨id, nodeId⟩) earlier kind with
      | error e => rfl
      | ok =>
        change (addChild _ depth levels kind subgraph >>= _)
          = Except.map _ (Level.buildChild _ depth levels.length kind subgraph >>= _)
        rw [addChild_eq]
        cases Level.buildChild ⟨id, nodeId⟩ depth levels.length kind subgraph with
        | error e => rfl
        | ok p =>
          obtain ⟨child, next⟩ := p
          refine congrArg Except.ok (Prod.ext ?_ ?_)
          · exact takeNode_of ⟨⟨id, nodeId⟩, kind, _, _, child⟩
          · exact congrArg (fun ls => levels ++ List.map Level.flat ls)
              (Level.flattenNode_eq ⟨⟨id, nodeId⟩, kind, _, _, child⟩).symm

/-- A bus is given the number of the level that it holds. -/
theorem addChild_eq (key : NodeKey) (depth : Nat) (levels : List ArenaLevel) (kind : NodeKind) :
    ∀ sub : Option Document, addChild key depth levels kind sub
      = (Level.buildChild key depth levels.length kind sub).map fun p =>
          (p.1.map Level.id, levels ++ ((p.1.map Level.flatten).getD []).map Level.flat)
  | none => by simp [addChild, Level.buildChild, Except.map]
  | some d => by
    unfold addChild Level.buildChild
    cases kind with
    | busAdd title =>
      simp only [addLevel_eq]
      cases Level.build (some key) (depth + 1) levels.length d <;> rfl
    | _ => simp [Except.map]

end

/-- The arena of a document is that of its graph, and it is refused with the same error. -/
theorem build_eq (d : Document) : Arena.build d = (Graph.build d).map Graph.flat := by
  rw [Arena.build, Graph.build, addLevel_eq]
  cases Level.build none 0 0 d <;> rfl

end Arena

/-! ### What is looked up -/

namespace Graph

variable {g : Graph}

lemma getElem?_flat (g : Graph) (level : Nat) :
    g.flat.levels[level]? = (g.levels[level]?).map Level.flat :=
  List.getElem?_map

/-- A key names the same node in a graph and in its arena. -/
theorem node?_flat (g : Graph) (k : NodeKey) : g.flat.node? k = (g.node? k).map GraphNode.flat := by
  rw [Arena.node?, getElem?_flat, Graph.node?]
  cases g.levels[k.level]? with
  | none => rfl
  | some l => exact l.node?_flat k.id

/-- The arena tells the number of the level that a bus holds. -/
theorem childLevel?_flat (g : Graph) (k : NodeKey) :
    (g.flat.node? k).bind ArenaNode.child = g.childLevel? k := by
  rw [node?_flat, Graph.childLevel?]
  cases g.node? k with
  | none => rfl
  | some v =>
    cases hc : v.child <;> simp [GraphNode.flat, hc]

theorem maxDepth_flat (g : Graph) : g.flat.maxDepth = g.maxDepth := by
  have hlevels : g.levels = g.root :: Level.flattenNodes g.root.nodes := Level.flatten_eq g.root
  have hdepths : g.flat.levels.map ArenaLevel.depth = g.levels.map Level.depth := by
    simp [Graph.flat, Level.flat, Function.comp_def]
  rw [Arena.maxDepth, hdepths, Graph.maxDepth, hlevels, List.map_cons, List.max?_cons',
    Option.getD_some, List.foldl_cons, Nat.zero_max, List.foldl_map]

lemma portName?_of_passThrough? {k : NodeKind} {d : Direction} {name : String}
    (h : k.passThrough? d = some name) : k.portName? = some name := by
  cases d <;> cases k <;> first | exact h | cases h

/-- The names of ports, which an arena looks up by the ids of their nodes. -/
theorem portNames_flat (hg : g.WellFormed) {l : Level} (hl : l ∈ g.levels) (d : Direction) :
    l.flat.portNames d = l.portNames d := by
  rw [ArenaLevel.portNames, Level.portNodes_flat, Level.portNodes, Level.portNames,
    List.filterMap_map, ← List.filterMap_eq_map]
  refine List.filterMap_congr fun p hp => ?_
  obtain ⟨v, hv, hport⟩ := List.mem_filterMap.mp hp
  obtain ⟨name, hname, rfl⟩ := Option.map_eq_some_iff.mp hport
  rw [Function.comp_apply, Level.node?_flat, Level.node?_of_mem (hg.fits l hl) hv]
  exact portName?_of_passThrough? hname

end Graph

end Patchbay
