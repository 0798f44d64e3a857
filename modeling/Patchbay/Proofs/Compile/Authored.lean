import Patchbay.Proofs.Compile.Success

/-!
# The virtual engine ends up with the graph

After a successful compilation a virtual engine holds one bus for each bus of the graph, one module
for each module, and one connection for each link that was not left out. They stand where the graph
has them, and connections are between the ports that the links name.
-/

namespace Patchbay

/-! ### Levels after those in them -/

namespace Level

mutual

def postorder : Level → List Level
  | ⟨id, parent, depth, nodes, links⟩ => postorderNodes nodes ++ [⟨id, parent, depth, nodes, links⟩]

def postorderNodes : List GraphNode → List Level
  | [] => []
  | v :: vs => postorderNode v ++ postorderNodes vs

def postorderNode : GraphNode → List Level
  | ⟨_, _, _, _, none⟩ => []
  | ⟨_, _, _, _, some l⟩ => postorder l

end

def keptLinks (l : Level) : List (Level × GraphLink) :=
  (l.links.filter fun k => ¬ l.LeavesOut k).map (l, ·)

end Level

section Postorder

lemma keptLinks_append (ts us : List BuildStep) :
    keptLinks (ts ++ us) = keptLinks ts ++ keptLinks us := by
  simp [keptLinks, List.filterMap_append]

/-- Links that an unsupported node is at are left out. -/
lemma keptLinks_connect (l : Level) (ks : List GraphLink) :
    keptLinks (ks.map (.connect l)) = (ks.filter fun k => ¬ l.LeavesOut k).map (l, ·) := by
  simp only [keptLinks, List.filterMap_map]
  induction ks with
  | nil => rfl
  | cons k ks ih =>
    by_cases hk : l.LeavesOut k <;> simpa [BuildStep.link?, hk] using ih

mutual

/-- Links are kept in the order in which levels are completed. -/
theorem Level.keptLinks_steps : ∀ l : Level,
    Patchbay.keptLinks l.steps = l.postorder.flatMap Level.keptLinks
  | ⟨id, parent, depth, nodes, links⟩ => by
    rw [steps, ← List.singleton_append, keptLinks_append, keptLinks_append, keptLinks_nodesSteps,
      keptLinks_connect, postorder, List.flatMap_append, List.flatMap_singleton]
    rfl

theorem Level.keptLinks_nodesSteps : ∀ (l : Level) (vs : List GraphNode),
    Patchbay.keptLinks (l.nodesSteps vs) = (postorderNodes vs).flatMap Level.keptLinks
  | l, [] => by
    rw [nodesSteps_nil, postorderNodes]
    rfl
  | l, v :: vs => by
    rw [nodesSteps_cons, ← List.singleton_append, keptLinks_append, keptLinks_append,
      keptLinks_childSteps, keptLinks_nodesSteps, postorderNodes, List.flatMap_append]
    rfl

theorem Level.keptLinks_childSteps : ∀ v : GraphNode,
    Patchbay.keptLinks (childSteps v) = (postorderNode v).flatMap Level.keptLinks
  | ⟨_, _, _, _, none⟩ => by
    rw [childSteps, postorderNode]
    rfl
  | ⟨_, _, _, _, some l⟩ => by
    rw [childSteps, postorderNode]
    exact keptLinks_steps l

end

end Postorder

/-! ### The graph in the engine -/

open VirtualEngine in
section

variable (mains : MainPorts) (bus : NodeKey → Bus) (module : NodeKey → Module)

/-- The id of the bus that a level belongs to, which is empty for the root. -/
def enclosing (l : Level) : String :=
  match l.parent with
  | none => ""
  | some key => (bus key).id

/-- The address of the port that a slot of a node is, where buses and modules of an engine are
assigned to the nodes. A pass-through stands for the port of the bus around it at its own place
among the pass-throughs of its direction. -/
inductive EndAddress (l : Level) (v : GraphNode) (e : LinkEnd) (slot : Nat) : PortAddress → Prop
  | main (d : Direction) (n : Nat) (port : String) (hkind : v.kind.mainSlots? = some (d, n))
      (hend : e.mainDirection = d) (hport : (mains.ports d)[slot]? = some port) :
      EndAddress l v e slot (.main port)
  | bus (title : String) (port : Port) (hkind : v.kind = .busAdd title)
      (hport : ((bus v.key).ports.ports e.direction)[slot]? = some port) :
      EndAddress l v e slot (.bus (bus v.key).id port.id)
  | port (d : Direction) (key : NodeKey) (n : Nat) (port : Port)
      (hkind : (v.kind.passThrough? d).isSome) (hparent : l.parent = some key)
      (hplace : (l.portNodes d)[n]? = some v.key.id)
      (hport : ((bus key).ports.ports d)[n]? = some port) :
      EndAddress l v e slot (.bus (bus key).id port.id)
  | module (spec : ModuleSpec) (name : String) (port : Port) (hkind : v.kind = .processing spec)
      (hname : (v.names e.direction)[slot]? = some name)
      (hport : ((module v.key).ports.ports e.direction).find? (fun p => p.name = name)
        = some port) :
      EndAddress l v e slot (e.moduleAddress (module v.key).bus (module v.key).id port.id)

def EndText (l : Level) (k : GraphLink) (e : LinkEnd) (text : String) : Prop :=
  ∃ v ∈ l.nodes, v.key = k.node e ∧
    ∃ a, EndAddress mains bus module l v e (k.slot e) a ∧ text = a.text

/-- The engine holds just what the graph says, with the given buses and modules for its nodes. -/
structure Authored (g : Graph) (e : VirtualEngine) : Prop where
  mains_eq : e.mains = mains
  bus_ids : (e.buses.map Bus.id).Nodup
  bus_bijOn : Set.BijOn bus
    {key | ∃ l ∈ g.levels, ∃ v ∈ l.nodes, v.key = key ∧ ∃ title, v.kind = .busAdd title}
    {x | x ∈ e.buses}
  bus_eq : ∀ l ∈ g.levels, ∀ v ∈ l.nodes, ∀ title, v.kind = .busAdd title →
    (bus v.key).parent = enclosing bus l ∧ (bus v.key).title = title ∧
      ∃ c, v.child = some c ∧ ∀ d, ((bus v.key).ports.ports d).map Port.name = c.portNames d
  module_ids : (e.modules.map Module.id).Nodup
  module_bijOn : Set.BijOn module
    {key | ∃ l ∈ g.levels, ∃ v ∈ l.nodes, v.key = key ∧ ∃ spec, v.kind = .processing spec}
    {x | x ∈ e.modules}
  module_eq : ∀ l ∈ g.levels, ∀ v ∈ l.nodes, ∀ spec, v.kind = .processing spec →
    (module v.key).bus = enclosing bus l ∧ (module v.key).spec = spec ∧
      ∀ d, ((module v.key).ports.ports d).map Port.name = spec.type.portNames d
  connections : List.Forall₂
    (fun k x => EndText mains bus module k.1 k.2 .origin x.origin ∧
      EndText mains bus module k.1 k.2 .target x.target)
    (g.root.postorder.flatMap Level.keptLinks) e.connections

end

/-! ### Buses and modules for the nodes -/

instance : Nonempty VirtualEngine.Bus := ⟨⟨"", "", "", ⟨[], []⟩⟩⟩

instance : Nonempty VirtualEngine.Module := ⟨⟨"", "", ⟨.utilsFloat, []⟩, ⟨[], []⟩⟩⟩

/-- Each bus and module of a graph is bound to the one that is assigned to its key. -/
structure Assigned (g : Graph) (b : Bindings) (bus : NodeKey → VirtualEngine.Bus)
    (module : NodeKey → VirtualEngine.Module) : Prop where
  bus : ∀ l ∈ g.levels, ∀ v ∈ l.nodes, ∀ title, v.kind = .busAdd title →
    BusMatches b (l, v) (bus v.key)
  module : ∀ l ∈ g.levels, ∀ v ∈ l.nodes, ∀ spec, v.kind = .processing spec →
    ModuleMatches b (l, v) (module v.key)

namespace Assigned

variable {g : Graph} {b : Bindings} {bus : NodeKey → VirtualEngine.Bus}
  {module : NodeKey → VirtualEngine.Module} {l m : Level} {v w : GraphNode}

/-- The bus that a level belongs to is the one that is assigned to the node that holds the level. -/
lemma owned_eq (h : Assigned g b bus module) (hg : g.WellFormed) (hl : l ∈ g.levels) {id : String}
    (howned : b.Owned l id) : id = enclosing bus l := by
  unfold Bindings.Owned at howned
  unfold enclosing
  cases hparent : l.parent with
  | none => simpa [hparent] using howned
  | some key =>
    obtain ⟨inputs, outputs, hbound⟩ :
        ∃ inputs outputs, b.node? key = some (.bus id inputs outputs) := by
      simpa [hparent] using howned
    obtain ⟨m, hm, w, hw, hchild, rfl⟩ := hg.exists_owner hl hparent
    obtain ⟨title, hkind⟩ := ((hg.fits m hm).node w hw).bus_of_child l hchild
    have heq := hbound.symm.trans (h.bus m hm w hw title hkind).bound
    cases heq
    rfl

/-- The ids that a bus is bound to are those of the bus that is assigned to it. -/
lemma ids_eq (h : Assigned g b bus module) (hl : l ∈ g.levels) (hv : v ∈ l.nodes) {title : String}
    (hkind : v.kind = .busAdd title) {ids : BusIds} (hids : b.HoldsBus v ids) :
    ids = (bus v.key).ids := by
  have heq := hids.own.symm.trans (h.bus l hl v hv title hkind).bound
  obtain ⟨id, inputs, outputs⟩ := ids
  obtain ⟨rfl, rfl, rfl⟩ : id = (bus v.key).id ∧ inputs = (bus v.key).ids.inputs ∧
      outputs = (bus v.key).ids.outputs := by
    simpa using heq
  rfl

lemma getElem?_ids {x : VirtualEngine.Bus} {d : Direction} {n : Nat} {id : String}
    (h : (x.ids.ports d)[n]? = some id) : ∃ p, (x.ports.ports d)[n]? = some p ∧ p.id = id := by
  have hmap : ((x.ports.ports d).map Port.id)[n]? = some id := by
    cases d <;> exact h
  rw [List.getElem?_map] at hmap
  exact Option.map_eq_some_iff.mp hmap

/-- A pair of a pass-through and a port stands at one position of both lists. -/
lemma exists_place {ids : BusIds} {c : Level} {q : Int × String}
    (h : q ∈ ids.pairs c) :
    ∃ d, ∃ n : Nat, (c.portNodes d)[n]? = some q.1 ∧ (ids.ports d)[n]? = some q.2 := by
  rcases List.mem_append.mp h with h | h
  all_goals
    obtain ⟨n, hn⟩ := List.mem_iff_getElem?.mp h
    obtain ⟨hnode, hport⟩ := List.getElem?_zip_eq_some.mp hn
  · exact ⟨.input, n, hnode, hport⟩
  · exact ⟨.output, n, hnode, hport⟩

/-- What an end of a link was resolved to is the address of the port that the link names. -/
lemma endAddress (h : Assigned g b bus module) (hg : g.WellFormed) {mains : MainPorts}
    (hl : l ∈ g.levels) (hv : v ∈ l.nodes) {k : GraphLink} {e : LinkEnd} {a : PortAddress}
    (hres : Resolution g mains b l k e v (.ok a)) :
    EndAddress mains bus module l v e (k.slot e) a := by
  cases hres with
  | main d n port hkind hend hport => exact .main d n port hkind hend hport
  | bus title ids port hkind hids hport =>
    obtain rfl := h.ids_eq hl hv hkind hids
    obtain ⟨p, hp, rfl⟩ := getElem?_ids hport
    exact .bus title p hkind hp
  | port d m w ids port hkind hm hw hchild hids hport =>
    have hfit := (hg.fits m hm).node w hw
    obtain ⟨title, hbus⟩ := hfit.bus_of_child l hchild
    obtain rfl := h.ids_eq hm hw hbus hids
    obtain ⟨d', n, hplace, hid⟩ := exists_place hport
    obtain ⟨p, hp, rfl⟩ := getElem?_ids hid
    obtain ⟨v', hv', hkey, hpass⟩ := Level.mem_portNodes.mp (List.mem_of_getElem? hplace)
    obtain rfl := List.inj_on_of_nodup_map (hg.fits l hl).ids_nodup hv' hv hkey
    exact .port d' w.key n p hpass (hfit.child_parent l hchild) hplace hp
  | module spec name _ hkind hname hresult =>
    have hmatch := h.module l hl v hv spec hkind
    obtain ⟨port, hport, rfl⟩ := moduleEnd_eq_ok_iff.mp (hresult _ _ hmatch.bound).symm
    exact .module spec name port hkind hname hport

end Assigned

/-- Both ends of a connection that matches a link are the addresses that the link names. -/
lemma ConnectionMatches.endText {g : Graph} (hg : g.WellFormed) {mains : MainPorts}
    {s : Session VirtualEngine} (hs : Recorded g mains g.steps s)
    {bus : NodeKey → VirtualEngine.Bus} {module : NodeKey → VirtualEngine.Module}
    (h : Assigned g s.bindings bus module) {l : Level} {k : GraphLink}
    {x : VirtualEngine.Connection} (hl : l ∈ g.levels) (hk : k ∈ l.links) (hkeep : ¬ l.LeavesOut k)
    (hx : ConnectionMatches s.bindings (l, k) x) :
    EndText mains bus module l k .origin x.origin ∧
      EndText mains bus module l k .target x.target := by
  have htext : ∀ e a, resolveEnd l s.bindings k e = .ok a →
      EndText mains bus module l k e a.text := by
    intro e a ha
    obtain ⟨v, hv, hkey, hres⟩ := hs.exists_resolution hg (hg.linkable hl hk) hkeep e
    rw [ha] at hres
    exact ⟨v, hv, hkey, a, h.endAddress hg hl hv hres, rfl⟩
  obtain ⟨⟨o, ho, hox⟩, ⟨t, ht, htx⟩, -⟩ := hx
  exact ⟨hox ▸ htext .origin o ho, htx ▸ htext .target t ht⟩

/-- A link that is kept is one of its level. -/
lemma mem_keptLinks {g : Graph} {l : Level} {k : GraphLink} (h : (l, k) ∈ keptLinks g.steps) :
    l ∈ g.levels ∧ k ∈ l.links ∧ ¬ l.LeavesOut k := by
  obtain ⟨hmem, hkeep⟩ := List.mem_filter.mp h
  obtain ⟨t, ht, hlink⟩ := List.mem_filterMap.mp hmem
  cases t with
  | enter | visit => cases hlink
  | connect m k' =>
    cases hlink
    obtain ⟨hl, hk⟩ := Graph.connect_mem_steps.mp ht
    exact ⟨hl, hk, by simpa using hkeep⟩

/-- The keys of visited nodes are those of all nodes of these kinds. -/
lemma exists_visited_iff {g : Graph} {p : NodeKind → Bool} {key : NodeKey} :
    (∃ v ∈ visited p g.steps, v.2.key = key) ↔
      ∃ l ∈ g.levels, ∃ v ∈ l.nodes, v.key = key ∧ p v.kind = true := by
  constructor
  · rintro ⟨⟨l, v⟩, hv, hkey⟩
    obtain ⟨hvisit, hp⟩ := mem_visited.mp hv
    obtain ⟨hl, hv⟩ := Graph.visit_mem_steps.mp hvisit
    exact ⟨l, hl, v, hv, hkey, hp⟩
  · rintro ⟨l, hl, v, hv, hkey, hp⟩
    exact ⟨(l, v), mem_visited.mpr ⟨Graph.visit_mem_steps.mpr ⟨hl, hv⟩, hp⟩, hkey⟩

/-- An engine that mirrors a whole graph holds just what the graph says. -/
theorem Mirrors.authored {g : Graph} (hg : g.WellFormed) {name : Nat → String}
    {mains : MainPorts} {s : Session VirtualEngine} (hs : Recorded g mains g.steps s)
    (h : Mirrors name mains g.steps s) :
    ∃ bus module, Authored mains bus module g s.engine := by
  obtain ⟨bus, hbuses, hbus⟩ := forall₂_exists_assignment h.buses (visited_keys_nodup hg _)
  obtain ⟨module, hmodules, hmodule⟩ :=
    forall₂_exists_assignment h.modules (visited_keys_nodup hg _)
  -- the buses and modules of the engine are assigned to nodes by the order of the steps
  have hassigned : Assigned g s.bindings bus module := by
    constructor
    · intro l hl v hv title hkind
      exact hbus (l, v) (mem_visited.mpr
        ⟨Graph.visit_mem_steps.mpr ⟨hl, hv⟩, NodeKind.isBus_iff.mpr ⟨title, hkind⟩⟩)
    · intro l hl v hv spec hkind
      exact hmodule (l, v) (mem_visited.mpr
        ⟨Graph.visit_mem_steps.mpr ⟨hl, hv⟩, NodeKind.isModule_iff.mpr ⟨spec, hkind⟩⟩)
  refine ⟨bus, module, h.mains_eq, h.sound.bus_ids, ?_, ?_, h.sound.module_ids, ?_, ?_, ?_⟩
  · refine bijOn_of_eq_map ?_ hbuses (List.Nodup.of_map _ h.sound.bus_ids)
    intro key
    rw [exists_visited_iff]
    simp [NodeKind.isBus_iff]
  · intro l hl v hv title hkind
    have hmatch := hassigned.bus l hl v hv title hkind
    obtain ⟨c, hc⟩ := ((hg.fits l hl).node v hv).child_of_bus title hkind
    refine ⟨hassigned.owned_eq hg hl hmatch.owned, ?_, c, hc, fun d => ?_⟩
    · have := hmatch.kind.symm.trans hkind
      simpa using this
    · rw [hmatch.names d]
      simp [childPortNames, hc]
  · refine bijOn_of_eq_map ?_ hmodules (List.Nodup.of_map _ h.sound.module_ids)
    intro key
    rw [exists_visited_iff]
    simp [NodeKind.isModule_iff]
  · intro l hl v hv spec hkind
    have hmatch := hassigned.module l hl v hv spec hkind
    have hspec : (module v.key).spec = spec := by
      have := hmatch.kind.symm.trans hkind
      simpa using this
    exact ⟨hassigned.owned_eq hg hl hmatch.owned, hspec, fun d => hspec ▸ hmatch.names d⟩
  · -- connections stand in the order of the links that are kept
    rw [← Level.keptLinks_steps]
    have hkept : ∀ k ∈ keptLinks g.steps, k.1 ∈ g.levels ∧ k.2 ∈ k.1.links ∧ ¬ k.1.LeavesOut k.2 :=
      fun k hk => mem_keptLinks hk
    refine (List.forall₂_and_left _ _ |>.mpr ⟨hkept, h.connections⟩).imp ?_
    rintro ⟨l, k⟩ x ⟨⟨hl, hk, hkeep⟩, hx⟩
    exact hx.endText hg hs hassigned hl hk hkeep

/-- A successful compilation leaves a fresh virtual engine with exactly the graph of the
document. -/
theorem compile_virtual_authored {d : Document} {g : Graph} (hd : Graph.build d = .ok g)
    {name : Nat → String} (hname : VirtualEngine.Distinct name) (inputs outputs : Nat)
    {c : Compilation} (hc : (compile (VirtualEngine.engine name) g
      (VirtualEngine.new name inputs outputs [])).1 = .ok c) :
    ∃ bus module, Authored (VirtualEngine.new name inputs outputs []).mains bus module g
      (compile (VirtualEngine.engine name) g (VirtualEngine.new name inputs outputs [])).2 := by
  have hg := Graph.build_wellFormed hd
  obtain ⟨-, s, hs, hmirrors, hengine, -⟩ :=
    (compiles_virtual hg hname inputs outputs).ok_of_ok hc
  rw [← hengine]
  refine Mirrors.authored hg ?_ hmirrors
  rwa [← hmirrors.mains_eq, hengine]

theorem wire_authored : ∃ g c, Graph.build wire = .ok g ∧
    (compile (VirtualEngine.engine numberedId) g
      (VirtualEngine.new numberedId 1 1 [])).1 = .ok c ∧
    ∃ bus module, Authored (VirtualEngine.new numberedId 1 1 []).mains bus module g
      (compile (VirtualEngine.engine numberedId) g (VirtualEngine.new numberedId 1 1 [])).2 := by
  obtain ⟨g, hwire, hok⟩ : ∃ g, Graph.build wire = .ok g ∧
      (compile (VirtualEngine.engine numberedId) g
        (VirtualEngine.new numberedId 1 1 [])).1.isOk = true := by
    refine ⟨_, rfl, ?_⟩
    decide +kernel
  cases hc : (compile (VirtualEngine.engine numberedId) g
      (VirtualEngine.new numberedId 1 1 [])).1 with
  | ok c =>
    exact ⟨g, c, hwire, hc,
      compile_virtual_authored hwire VirtualEngine.numberedId_distinct 1 1 hc⟩
  | error err =>
    rw [hc] at hok
    cases hok

end Patchbay
