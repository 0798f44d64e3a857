import Mathlib.Algebra.GroupWithZero.Nat
import Patchbay.Proofs.Compile.Order
import Patchbay.Proofs.Graph.Flattening
import Patchbay.Proofs.Orders

/-!
# What there is to make

The steps of building a graph make a bus for each bus of the document, a module for each module, and
a connection for each link that touches no node that is left out. They enter the levels in the order
of their numbers, and the deepest one lies in as many buses as are nested in the document.
-/

namespace Patchbay

/-- What an engine is asked to make. -/
inductive Thing where
  | bus
  | module
  | connection
deriving DecidableEq, Repr

def NodeKind.thing? : NodeKind → Option Thing
  | .busAdd _ => some .bus
  | .processing _ => some .module
  | .mainInputs _ | .mainOutputs _ | .busInput _ | .busOutput _ | .unsupported _ => none

def BuildStep.thing? : BuildStep → Option Thing
  | .enter _ => none
  | .visit _ v => v.kind.thing?
  | .connect l k => if l.LeavesOut k then none else some .connection

def BuildStep.isLink : BuildStep → Bool
  | .connect .. => true
  | .enter _ | .visit .. => false

def BuildStep.entered? : BuildStep → Option Level
  | .enter l => some l
  | .visit .. | .connect .. => none

namespace Document

/-- How many things of a sort a level asks for, without the levels in it. -/
def count (m : Document) : Thing → Nat
  | .bus => m.nodes.countP fun n => n.bareTag = "bus/add"
  | .module => m.nodes.countP fun n => (ModuleType.ofTag? n.bareTag).isSome
  | .connection => m.links.countP fun l => ¬ m.LeavesOut l

/-- How many things of a sort a document asks for in all its levels. -/
def total (d : Document) (x : Thing) : Nat := (d.levels.map (count · x)).sum

def linkCount (d : Document) : Nat := (d.levels.map fun m => m.links.length).sum

end Document

mutual

def Document.nesting : Document → Nat
  | ⟨nodes, _, _, _⟩ => Node.nestingList nodes

def Node.nestingList : List Node → Nat
  | [] => 0
  | n :: ns => max n.nesting (Node.nestingList ns)

/-- How deep buses are nested in a node, itself included. -/
def Node.nesting : Node → Nat
  | ⟨id, type, title, properties, subgraph, inputs, outputs, extra⟩ =>
    if (⟨id, type, title, properties, subgraph, inputs, outputs, extra⟩ : Node).bareTag = "bus/add"
    then Document.nestingChild subgraph
    else 0

def Document.nestingChild : Option Document → Nat
  | none => 0
  | some d => d.nesting + 1

end

/-! ### Things of a level -/

lemma Node.Means.thing?_eq_bus_iff {n : Node} {kind : NodeKind} (h : n.Means kind) :
    kind.thing? = some .bus ↔ n.bareTag = "bus/add" := by
  rw [← h.exists_busAdd_iff]
  cases kind <;> simp [NodeKind.thing?]

/-- A node makes a module if its tag is that of a type. -/
lemma Node.Means.thing?_eq_module_iff {n : Node} {kind : NodeKind} (h : n.Means kind) :
    kind.thing? = some .module ↔ (ModuleType.ofTag? n.bareTag).isSome := by
  cases h with
  | mainInputs _ tag | mainOutputs _ tag | busAdd _ _ tag | busInput _ tag | busOutput _ tag =>
    refine iff_of_false (by simp [NodeKind.thing?]) ?_
    rw [tag]
    decide
  | processing _ _ tag => simp [NodeKind.thing?, tag]
  | unsupported _ _ _ module => simp [NodeKind.thing?, module]

section Levels

variable {d m : Document} {g : Graph} {l : Level} {pairs : List (Document × Level)}

/-- A link of a level touches a node that is left out exactly if it does so in the document. -/
lemma Level.Unfolds.leavesOut_iff (h : l.Unfolds pairs m) (i : Nat) (link : Link) :
    l.LeavesOut (.ofLink l.id i link) ↔ m.LeavesOut link := by
  constructor
  · rintro ⟨e, v, hv, hkey, tag, hkind⟩
    obtain ⟨n, hn, hshows⟩ := forall₂_exists_right h.nodes.flip hv
    have hid : n.id = link.node e := by
      rw [hshows.key, GraphLink.node_ofLink] at hkey
      exact congrArg NodeKey.id hkey
    refine ⟨n, hn, ?_, tag, hkind ▸ Node.classify_eq_ok_iff.mp hshows.kind⟩
    cases e
    · exact .inl hid
    · exact .inr hid
  · rintro ⟨n, hn, hid, tag, hmeans⟩
    obtain ⟨v, hv, hshows⟩ := forall₂_exists_right h.nodes hn
    have hkind : v.kind = .unsupported tag :=
      Except.ok.inj (hshows.kind.symm.trans hmeans.classify)
    rcases hid with hid | hid
    · exact ⟨.origin, v, hv, hshows.key.trans (hid ▸ rfl), tag, hkind⟩
    · exact ⟨.target, v, hv, hshows.key.trans (hid ▸ rfl), tag, hkind⟩

/-- The steps of a level make what the document asks for there. -/
lemma Level.Unfolds.countP_ownSteps (h : l.Unfolds pairs m) (x : Thing) :
    l.ownSteps.countP (fun t => t.thing? = some x) = m.count x := by
  have hnode : ∀ (n : Node) (v : GraphNode), v.Unfolds pairs l.id n → n.Means v.kind :=
    fun n v hv => Node.classify_eq_ok_iff.mp hv.kind
  have hvisit : ∀ y ≠ Thing.connection,
      l.links.countP ((fun t : BuildStep => decide (t.thing? = some y)) ∘ .connect l) = 0 := by
    intro y hy
    simp [List.countP_eq_zero, BuildStep.thing?, hy.symm]
  rw [ownSteps, List.countP_cons_of_neg (by simp [BuildStep.thing?]), List.countP_append,
    List.countP_map, List.countP_map]
  -- buses and modules are counted over the nodes, connections over the links
  cases x with
  | bus =>
    rw [hvisit .bus (by decide), Nat.add_zero]
    refine (forall₂_countP_eq h.nodes fun n v hv => ?_).symm
    rw [Function.comp_apply, decide_eq_true_iff, decide_eq_true_iff]
    exact (hnode n v hv).thing?_eq_bus_iff.symm
  | module =>
    rw [hvisit .module (by decide), Nat.add_zero]
    refine (forall₂_countP_eq h.nodes fun n v hv => ?_).symm
    rw [Function.comp_apply, decide_eq_true_iff]
    exact (hnode n v hv).thing?_eq_module_iff.symm
  | connection =>
    have hnodes : l.nodes.countP
        ((fun t : BuildStep => decide (t.thing? = some .connection)) ∘ .visit l) = 0 := by
      rw [List.countP_eq_zero]
      intro v _
      cases hv : v.kind <;> simp [BuildStep.thing?, NodeKind.thing?, hv]
    have hlinks : List.Forall₂ (fun link k => l.LeavesOut k ↔ m.LeavesOut link)
        m.links l.links := by
      rw [h.links, linksFrom_eq_mapIdx]
      refine List.forall₂_iff_get.mpr ⟨by simp, fun i hi hi' => ?_⟩
      simpa using h.leavesOut_iff (0 + i) m.links[i]
    rw [hnodes, Nat.zero_add]
    refine (forall₂_countP_eq hlinks fun link k hk => ?_).symm
    simp [BuildStep.thing?, hk]

/-- Steps of a graph are counted level by level. -/
lemma Graph.countP_steps_eq_sum (hd : Graph.build d = .ok g) {p : BuildStep → Bool}
    {f : Document → Nat}
    (h : ∀ (m : Document) (l : Level), l.Unfolds (d.levels.zip g.levels) m →
      l.ownSteps.countP p = f m) :
    g.steps.countP p = (d.levels.map f).sum := by
  rw [steps, (Level.steps_perm g.root).countP_eq, List.countP_flatMap]
  have hlevels : List.Forall₂ (fun m l => f m = l.ownSteps.countP p) d.levels g.levels :=
    (levels_unfold hd).imp fun m l hl => (h m l hl).symm
  exact congrArg List.sum (List.forall₂_eq_eq_eq ▸ List.forall₂_map_left_iff.mpr
    (List.forall₂_map_right_iff.mpr hlevels)).symm

/-- What all steps of a graph make is what its document asks for. -/
lemma Graph.countP_steps (hd : Graph.build d = .ok g) (x : Thing) :
    g.steps.countP (fun t => t.thing? = some x) = d.total x :=
  countP_steps_eq_sum hd fun _ _ h => h.countP_ownSteps x

/-- Every link has a step, also one that is left out. -/
lemma Graph.countP_isLink (hd : Graph.build d = .ok g) :
    g.steps.countP BuildStep.isLink = d.linkCount := by
  refine countP_steps_eq_sum hd fun m l h => ?_
  have hnodes : (l.nodes.map (BuildStep.visit l)).countP BuildStep.isLink = 0 := by
    simp [List.countP_eq_zero, BuildStep.isLink]
  have hlinks : (l.links.map (BuildStep.connect l)).countP BuildStep.isLink = l.links.length := by
    rw [← List.length_map (f := BuildStep.connect l), List.countP_eq_length]
    simp [BuildStep.isLink]
  rw [Level.ownSteps, List.countP_cons_of_neg (by simp [BuildStep.isLink]), List.countP_append,
    hnodes, hlinks, h.links, linksFrom_eq_mapIdx, List.length_mapIdx, Nat.zero_add]

end Levels

/-! ### Levels that are entered -/

section Entered

namespace Level

mutual

/-- Levels are entered in the order of their numbers. -/
theorem entered_steps : ∀ l : Level, l.steps.filterMap BuildStep.entered? = l.flatten
  | ⟨id, parent, depth, nodes, links⟩ => by
    have hlinks : (links.map (BuildStep.connect ⟨id, parent, depth, nodes, links⟩)).filterMap
        BuildStep.entered? = [] := by
      simp [List.filterMap_eq_nil_iff, BuildStep.entered?]
    rw [steps, flatten_mk, List.filterMap_cons_some (f := BuildStep.entered?) rfl,
      List.filterMap_append, entered_nodesSteps, hlinks, List.append_nil]

theorem entered_nodesSteps (l : Level) : ∀ vs : List GraphNode,
    (l.nodesSteps vs).filterMap BuildStep.entered? = flattenNodes vs
  | [] => by rw [nodesSteps_nil, flattenNodes_nil, List.filterMap_nil]
  | v :: vs => by
    rw [nodesSteps_cons, flattenNodes_cons, List.filterMap_cons_none rfl, List.filterMap_append,
      entered_childSteps, entered_nodesSteps]

theorem entered_childSteps : ∀ v : GraphNode,
    (childSteps v).filterMap BuildStep.entered? = flattenNode v
  | ⟨_, _, _, _, none⟩ => by rw [childSteps, flattenNode, List.filterMap_nil]
  | ⟨_, _, _, _, some l⟩ => by rw [childSteps, flattenNode, entered_steps]

end

end Level

/-- The depth of the deepest level among levels and a depth that was reached before. -/
def maxDepthFrom (depth : Nat) (ls : List Level) : Nat :=
  ls.foldl (fun n l => max n l.depth) depth

lemma maxDepthFrom_append (depth : Nat) (ls ms : List Level) :
    maxDepthFrom depth (ls ++ ms) = maxDepthFrom (maxDepthFrom depth ls) ms :=
  List.foldl_append

namespace Level

mutual

/-- The levels of a document lie as deep as its buses are nested. -/
theorem maxDepthFrom_build {parent : Option NodeKey} {depth next : Nat} :
    ∀ {d : Document} {l : Level} {after reached : Nat},
      build parent depth next d = .ok (l, after) →
      maxDepthFrom reached l.flatten = max reached (depth + d.nesting)
  | ⟨nodes, links, busId, extra⟩, l, after, reached, h => by
    rw [build] at h
    obtain ⟨⟨vs, after'⟩, hvs, h⟩ := bind_eq_ok_iff.mp h
    obtain ⟨ks, hks, h⟩ := bind_eq_ok_iff.mp h
    cases h
    have hnodes := maxDepthFrom_buildNodes hvs (Nat.le_max_right reached depth)
    rw [flatten_mk, Document.nesting]
    change maxDepthFrom (max reached depth) (flattenNodes vs) = _
    omega

/-- The depth that has been reached grows by what nodes hold. -/
theorem maxDepthFrom_buildNodes {parent : Option NodeKey} {depth id : Nat} :
    ∀ {ns : List Node} {earlier vs : List GraphNode} {next after reached : Nat},
      buildNodes parent depth id earlier next ns = .ok (vs, after) → depth ≤ reached →
      maxDepthFrom reached (flattenNodes vs) = max reached (depth + Node.nestingList ns)
  | [], earlier, vs, next, after, reached, h, hreached => by
    rw [buildNodes] at h
    cases h
    rw [flattenNodes_nil, Node.nestingList, maxDepthFrom, List.foldl_nil]
    omega
  | n :: ns, earlier, vs, next, after, reached, h, hreached => by
    rw [buildNodes] at h
    obtain ⟨⟨v, mid⟩, hv, h⟩ := bind_eq_ok_iff.mp h
    obtain ⟨⟨ws, after'⟩, hws, h⟩ := bind_eq_ok_iff.mp h
    cases h
    have hnode := maxDepthFrom_buildNode hv hreached
    have hnodes := maxDepthFrom_buildNodes hws
      (hreached.trans (Nat.le_max_left reached (depth + n.nesting)))
    rw [flattenNodes_cons, maxDepthFrom_append, hnode, hnodes, Node.nestingList]
    omega

theorem maxDepthFrom_buildNode {parent : Option NodeKey} {depth id : Nat} :
    ∀ {n : Node} {earlier : List GraphNode} {v : GraphNode} {next after reached : Nat},
      buildNode parent depth id earlier next n = .ok (v, after) → depth ≤ reached →
      maxDepthFrom reached (flattenNode v) = max reached (depth + n.nesting)
  | ⟨nodeId, type, title, properties, subgraph, inputs, outputs, extra⟩, earlier, v, next,
      after, reached, h, hreached => by
    obtain ⟨hv, hchild⟩ := buildNode_ok h
    have hbus := (Node.classify_eq_ok_iff.mp hv.kind).exists_busAdd_iff
    have hinside := maxDepthFrom_buildChild hreached hchild
    rw [flattenNode_eq, Node.nesting]
    split_ifs with htag
    · exact hinside.1 (hbus.mpr htag)
    · rw [hinside.2 fun h => htag (hbus.mp h)]
      omega

/-- Only a subgraph that belongs to a bus counts as deeper. -/
theorem maxDepthFrom_buildChild {key : NodeKey} {depth reached : Nat} {kind : NodeKind}
    (hreached : depth ≤ reached) :
    ∀ {sub : Option Document} {child : Option Level} {next after : Nat},
      buildChild key depth next kind sub = .ok (child, after) →
      ((∃ title, kind = .busAdd title) → maxDepthFrom reached ((child.map flatten).getD [])
          = max reached (depth + Document.nestingChild sub)) ∧
        ((¬ ∃ title, kind = .busAdd title) →
          maxDepthFrom reached ((child.map flatten).getD []) = reached)
  | none, child, next, after, h => by
    rcases buildChild_ok h with ⟨_, _, _, -, hsub, -⟩ | ⟨rfl, -⟩
    · cases hsub
    · rw [Document.nestingChild]
      exact ⟨fun _ => (Nat.max_eq_left hreached).symm, fun _ => rfl⟩
  | some s, child, next, after, h => by
    rcases buildChild_ok h with ⟨title, _, c, rfl, ⟨⟩, rfl, hc⟩ | ⟨rfl, -, hnone⟩
    · have hdepth : maxDepthFrom reached c.flatten = max reached (depth + 1 + s.nesting) :=
        maxDepthFrom_build hc
      rw [Document.nestingChild]
      refine ⟨fun _ => ?_, fun hno => (hno ⟨title, rfl⟩).elim⟩
      rw [Option.map_some, Option.getD_some, hdepth, Nat.add_assoc, Nat.add_comm 1]
    · refine ⟨fun ⟨title, hkind⟩ => ?_, fun _ => rfl⟩
      cases hnone title hkind

end

end Level

/-- The deepest level of a graph lies in as many buses as are nested in the document. -/
lemma Graph.maxDepth_eq {d : Document} {g : Graph} (hd : Graph.build d = .ok g) :
    g.maxDepth = d.nesting := by
  obtain ⟨⟨root, after⟩, hroot, hd⟩ := bind_eq_ok_iff.mp hd
  cases hd
  have hdepth : maxDepthFrom 0 root.flatten = max 0 (0 + d.nesting) :=
    Level.maxDepthFrom_build hroot
  rwa [Nat.zero_add, Nat.zero_max] at hdepth

end Entered

end Patchbay
