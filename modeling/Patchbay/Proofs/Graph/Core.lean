import Patchbay.Compile
import Patchbay.Graph.Build
import Patchbay.Proofs.Graph.WellFormed

/-!
# The core of a graph

Of the names that nodes declare for their slots only those of modules are ever looked at. A graph
without the others is checked in the same way and compiles to the same.
-/

namespace Patchbay

def NodeKind.declared : NodeKind → List String → List String
  | .processing _, names => names
  | _, _ => []

mutual

/-- A level without the names that nothing looks at. -/
def Level.core : Level → Level
  | ⟨id, parent, depth, nodes, links⟩ => ⟨id, parent, depth, GraphNode.coreList nodes, links⟩

def GraphNode.coreList : List GraphNode → List GraphNode
  | [] => []
  | v :: vs => GraphNode.core v :: GraphNode.coreList vs

def GraphNode.core : GraphNode → GraphNode
  | ⟨key, kind, inputNames, outputNames, child⟩ =>
    ⟨key, kind, kind.declared inputNames, kind.declared outputNames, Level.coreChild child⟩

def Level.coreChild : Option Level → Option Level
  | none => none
  | some l => some (Level.core l)

end

def Graph.core (g : Graph) : Graph := ⟨g.root.core⟩

/-! ### Fields -/

lemma Level.coreChild_eq_map (child : Option Level) : coreChild child = child.map core := by
  cases child <;> rw [coreChild] <;> rfl

namespace GraphNode

variable (v : GraphNode)

lemma core_eq : v.core = ⟨v.key, v.kind, v.kind.declared v.inputNames,
    v.kind.declared v.outputNames, v.child.map Level.core⟩ := by
  obtain ⟨key, kind, inputNames, outputNames, child⟩ := v
  rw [core, Level.coreChild_eq_map]

@[simp] lemma core_key : v.core.key = v.key := by rw [core_eq]

@[simp] lemma core_kind : v.core.kind = v.kind := by rw [core_eq]

@[simp] lemma core_inputNames : v.core.inputNames = v.kind.declared v.inputNames := by
  rw [core_eq]

@[simp] lemma core_outputNames : v.core.outputNames = v.kind.declared v.outputNames := by
  rw [core_eq]

@[simp] lemma core_child : v.core.child = v.child.map Level.core := by rw [core_eq]

lemma coreList_eq_map (vs : List GraphNode) : coreList vs = vs.map core := by
  induction vs with
  | nil => rw [coreList, List.map_nil]
  | cons v vs ih => rw [coreList, ih, List.map_cons]

end GraphNode

/-- Pass-throughs are no modules, so that the ports of a bus stay. -/
@[simp] lemma passThroughs_core (d : Direction) (vs : List GraphNode) :
    passThroughs d (vs.map GraphNode.core) = passThroughs d vs := by
  rw [passThroughs, passThroughs, List.filterMap_map]
  refine List.filterMap_congr fun v _ => ?_
  simp

namespace Level

variable (l : Level)

lemma core_eq : l.core = ⟨l.id, l.parent, l.depth, l.nodes.map GraphNode.core, l.links⟩ := by
  obtain ⟨id, parent, depth, nodes, links⟩ := l
  rw [core, GraphNode.coreList_eq_map]

@[simp] lemma core_id : l.core.id = l.id := by rw [core_eq]

@[simp] lemma core_nodes : l.core.nodes = l.nodes.map GraphNode.core := by
  rw [core_eq]

@[simp] lemma portNodes_core (d : Direction) : l.core.portNodes d = l.portNodes d := by
  simp [portNodes]

@[simp] lemma portNames_core (d : Direction) : l.core.portNames d = l.portNames d := by
  simp [portNames]

lemma node?_core (id : Int) : l.core.node? id = (l.node? id).map GraphNode.core := by
  have hid : (fun v : GraphNode => decide (v.key.id = id)) ∘ GraphNode.core =
      fun v => decide (v.key.id = id) := by
    funext v
    rw [Function.comp_apply, GraphNode.core_key]
  rw [node?, core_nodes, List.find?_map, hid, node?]

end Level

/-! ### Checks -/

/-- The names that are dropped are none that are checked. -/
lemma checkPort_core (bus : NodeKey) (earlier : List GraphNode) (kind : NodeKind) :
    checkPort bus (earlier.map GraphNode.core) kind = checkPort bus earlier kind := by
  cases kind with
  | busInput | busOutput => simp only [checkPort, checkPortName, passThroughs_core]
  | mainInputs | mainOutputs | busAdd | processing | unsupported => rfl

lemma GraphNode.slots_core (v : GraphNode) (e : LinkEnd) : v.core.slots e = v.slots e := by
  unfold slots
  rw [core_kind]
  cases hkind : v.kind with
  | busAdd title => simp [Option.map_map, Function.comp_def]
  | processing spec => cases e <;> simp [hkind, NodeKind.declared]
  | mainInputs | mainOutputs | busInput | busOutput | unsupported => cases e <;> rfl

/-- A link fits the nodes without their other names just if it fits the nodes. -/
lemma GraphLink.checkEnd_core (vs : List GraphNode) (l : GraphLink) (e : LinkEnd) :
    l.checkEnd (vs.map GraphNode.core) e = l.checkEnd vs e := by
  simp only [checkEnd, List.find?_map, Function.comp_def, GraphNode.core_key]
  cases vs.find? fun v => v.key.id = (l.node e).id with
  | none => rfl
  | some v => simp only [Option.map_some, GraphNode.slots_core, GraphNode.core_kind]

lemma buildLinks_core (level : Nat) (vs : List GraphNode) (ls : List Link) (index : Nat) :
    buildLinks level (vs.map GraphNode.core) index ls = buildLinks level vs index ls := by
  induction ls generalizing index with
  | nil => rfl
  | cons l ls ih => simp only [buildLinks, GraphLink.checkEnd_core, ih]

/-! ### Compiling -/

mutual

/-- Levels are numbered and ordered as before. -/
theorem Level.flatten_core : ∀ l : Level, l.core.flatten = l.flatten.map Level.core
  | ⟨id, parent, depth, nodes, links⟩ => by
    rw [core, flatten, flatten, flattenNodes_coreList nodes, List.map_cons, core]

theorem Level.flattenNodes_coreList :
    ∀ vs : List GraphNode, flattenNodes (GraphNode.coreList vs) = (flattenNodes vs).map Level.core
  | [] => by simp [GraphNode.coreList, flattenNodes]
  | v :: vs => by
    rw [GraphNode.coreList, flattenNodes, flattenNodes, flattenNode_core v,
      flattenNodes_coreList vs, List.map_append]

theorem Level.flattenNode_core :
    ∀ v : GraphNode, flattenNode v.core = (flattenNode v).map Level.core
  | ⟨_, _, _, _, none⟩ => by simp [GraphNode.core, coreChild, flattenNode]
  | ⟨_, _, _, _, some l⟩ => by
    rw [GraphNode.core, coreChild, flattenNode, flattenNode, flatten_core l]

end

/-- The same ports are bound in a graph without these names. -/
lemma bindMains_core (mains : MainPorts) (b : Bindings) (vs : List GraphNode) :
    bindMains mains b (vs.map GraphNode.core) = bindMains mains b vs := by
  have hmain : ∀ (b : Bindings) (v : GraphNode), bindMain mains b v.core = bindMain mains b v :=
    fun b v => by simp only [bindMain, GraphNode.core_kind, GraphNode.core_key]
  simp only [bindMains, List.foldlM_map, hmain]

lemma bindInside_core (child : Option Level) :
    bindInside (child.map Level.core) = bindInside child := by
  funext ids b
  cases child <;> simp [bindInside]

lemma childPortNames_core (child : Option Level) (d : Direction) :
    childPortNames (child.map Level.core) d = childPortNames child d := by
  cases child <;> simp [childPortNames]

/-- The address of an end, or the error, does not depend on the names that are left out. -/
lemma resolveEnd_core (l : Level) (b : Bindings) (k : GraphLink) (e : LinkEnd) :
    resolveEnd l.core b k e = resolveEnd l b k e := by
  simp only [resolveEnd, Level.node?_core, Level.core_id]
  cases l.node? (k.node e).id with
  | none => rfl
  | some v =>
    cases b.node? (k.node e) with
    | none => rfl
    | some binding => simp only [Option.map_some, GraphNode.core_kind]

namespace Compiler

variable {σ : Type} (engine : Engine σ)

lemma connectLinks_core (l : Level) (ks : List GraphLink) :
    connectLinks engine l.core ks = connectLinks engine l ks := by
  induction ks with
  | nil => rfl
  | cons k ks ih =>
    simp only [connectLinks, ih, connectLink, resolveEnd_core, Level.core_id]

/-- A bus is given the names of its ports, and these are names of pass-throughs. -/
lemma createBus_core (parent : String) (key : NodeKey) (title : String) (child : Option Level) :
    createBus engine parent key title (child.map Level.core)
      = createBus engine parent key title child := by
  simp only [createBus, childPortNames_core, bindInside_core]

mutual

/-- A level is expanded to the same, with the same requests. -/
theorem expandLevel_core (bus : String) :
    ∀ l : Level, expandLevel engine bus l.core = expandLevel engine bus l
  | ⟨id, parent, depth, nodes, links⟩ => by
    have hlinks := connectLinks_core engine ⟨id, parent, depth, nodes, links⟩ links
    rw [Level.core] at hlinks ⊢
    rw [expandLevel, expandLevel, expandNodes_coreList bus nodes, hlinks]

theorem expandNodes_coreList (bus : String) :
    ∀ vs : List GraphNode,
      expandNodes engine bus (GraphNode.coreList vs) = expandNodes engine bus vs
  | [] => by rw [GraphNode.coreList]
  | v :: vs => by
    rw [GraphNode.coreList, expandNodes, expandNodes, expandNode_core bus v,
      expandNodes_coreList bus vs]

theorem expandNode_core (bus : String) :
    ∀ v : GraphNode, expandNode engine bus v.core = expandNode engine bus v
  | ⟨key, kind, inputNames, outputNames, child⟩ => by
    rw [GraphNode.core]
    cases kind with
    | busAdd title =>
      simp only [expandNode]
      rw [Level.coreChild_eq_map, createBus_core]
      -- the bus is made by the same request, so only what it holds is left
      refine congrArg _ (funext fun id => ?_)
      rw [← Level.coreChild_eq_map]
      exact expandChild_coreChild id child
    | processing spec => simp only [expandNode, NodeKind.declared]
    | mainInputs | mainOutputs | busInput | busOutput | unsupported => simp only [expandNode]

theorem expandChild_coreChild (bus : String) :
    ∀ child : Option Level,
      expandChild engine bus (Level.coreChild child) = expandChild engine bus child
  | none => by rw [Level.coreChild]
  | some l => by rw [Level.coreChild, expandChild, expandChild, expandLevel_core bus l]

end

end Compiler

/-- A graph compiles to the same without the names that nothing looks at. -/
theorem compile_core {σ : Type} (engine : Engine σ) (g : Graph) (state : σ) :
    compile engine g.core state = compile engine g state := by
  have hnodes : g.core.levels.flatMap Level.nodes
      = (g.levels.flatMap Level.nodes).map GraphNode.core := by
    rw [Graph.levels, Graph.core, Level.flatten_core, List.flatMap_map, List.map_flatMap]
    simp only [Level.core_nodes, Graph.levels]
  have hbuild : Compiler.buildGraph engine g.core = Compiler.buildGraph engine g := by
    unfold Compiler.buildGraph
    simp only [hnodes, bindMains_core]
    simp only [Graph.core, Compiler.expandLevel_core]
  rw [compile, hbuild, compile]

end Patchbay
