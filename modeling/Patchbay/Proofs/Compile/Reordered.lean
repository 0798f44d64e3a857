import Patchbay.Proofs.Compile.Authored
import Patchbay.Proofs.Compile.Reports
import Patchbay.Proofs.Graph.Counterparts

/-!
# Steps in another order

Graphs with the same nodes and links at the same places are built in the same steps, up to the order
of these and the numbers of the levels. So a virtual engine can build both or none, and the reports
count the same things and warn of the same things.
-/

namespace Patchbay

variable {g g' : Graph} {l l' : Level} {v v' : GraphNode} {k k' : GraphLink} {t t' : BuildStep}
  {π : Nat → Nat}

/-! ### Steps -/

/-- Steps for nodes or links at the same place. -/
inductive BuildStep.Twin (g g' : Graph) : BuildStep → BuildStep → Prop
  | enter {l l' : Level} (h : g.SamePlace g' l l') : Twin g g' (.enter l) (.enter l')
  | visit {l l' : Level} {v v' : GraphNode} (h : g.SameNode g' l v l' v') :
      Twin g g' (.visit l v) (.visit l' v')
  | connect {l l' : Level} {k k' : GraphLink} (h : g.SameLink g' l k l' k') :
      Twin g g' (.connect l k) (.connect l' k')

lemma GraphNode.Twin.names (h : v.Twin v') (d : Direction) : v'.names d = v.names d := by
  cases d
  · exact h.inputNames
  · exact h.outputNames

/-- What levels at one place do by themselves is the same, up to order. -/
lemma Graph.Twin.ownSteps_related (h : g.Twin g') (hl : g.SamePlace g' l l') :
    UpToOrder (BuildStep.Twin g g') l.ownSteps l'.ownSteps := by
  have hnodes : UpToOrder (BuildStep.Twin g g') (l.nodes.map (.visit l))
      (l'.nodes.map (.visit l')) :=
    (h.nodes_related hl).map fun _ _ _ _ hv => .visit hv
  have hlinks : UpToOrder (BuildStep.Twin g g') (l.links.map (.connect l))
      (l'.links.map (.connect l')) :=
    (h.links_related hl).map fun _ _ _ _ hk => .connect hk
  exact (UpToOrder.of_forall₂ (.cons (.enter hl) .nil)).append (hnodes.append hlinks)

/-- Graphs with the same nodes and links at the same places are built in the same steps. -/
theorem Graph.Twin.steps_related (h : g.Twin g') (hg : g.WellFormed) (hg' : g'.WellFormed) :
    UpToOrder (BuildStep.Twin g g') g.steps g'.steps := by
  have hlevels := (h.levels_related hg hg').flatMap fun _ _ _ _ hl => h.ownSteps_related hl
  exact (hlevels.perm_left (Level.steps_perm g.root)).perm_right (Level.steps_perm g'.root).symm

/-! ### Success -/

lemma Graph.SamePlace.eq_root_iff (h : g.SamePlace g' l l') (hg : g.WellFormed)
    (hg' : g'.WellFormed) : l = g.root ↔ l' = g'.root := by
  constructor
  · rintro rfl
    exact h.right_unique hg hg' .root
  · rintro rfl
    exact h.symm.right_unique hg' hg .root

/-- An end fits a node just if it fits the same node of the other graph. -/
lemma Graph.SameNode.endFits_iff (hv : g.SameNode g' l v l' v') (hg : g.WellFormed)
    (hg' : g'.WellFormed) (e : LinkEnd) (slot : Nat) :
    g.EndFits l v e slot ↔ g'.EndFits l' v' e slot := by
  constructor
  · intro hfit
    refine ⟨fun hroot => ?_, fun spec hspec => ?_⟩
    · rw [hv.twin.kind]
      exact hfit.inside ((hv.place.eq_root_iff hg hg').mpr hroot)
    · rw [hv.twin.names]
      exact hfit.named spec (hv.twin.kind ▸ hspec)
  · intro hfit
    refine ⟨fun hroot => ?_, fun spec hspec => ?_⟩
    · rw [← hv.twin.kind]
      exact hfit.inside ((hv.place.eq_root_iff hg hg').mp hroot)
    · rw [← hv.twin.names]
      exact hfit.named spec (hv.twin.kind ▸ hspec)

/-- A step can be taken in one graph just if the same step can be in the other. -/
lemma BuildStep.Twin.stepFits_iff (ht : t.Twin g g' t') (h : g.Twin g') (hg : g.WellFormed)
    (hg' : g'.WellFormed) : g.StepFits t ↔ g'.StepFits t' := by
  cases ht with
  | enter | visit => exact Iff.rfl
  | connect hk =>
    refine imp_congr (not_congr (hk.leavesOut_iff hg hg' h)) (forall_congr' fun e => ?_)
    refine (h.nodes_related hk.place).forall_iff fun v _ v' _ hv => ?_
    refine imp_congr (hk.ends_iff hg hg' hv) ?_
    rw [hk.twin.slot]
    exact hv.endFits_iff hg hg' e _

/-- The graphs can be connected both or none. -/
lemma Graph.Twin.connectable_iff (h : g.Twin g') (hg : g.WellFormed) (hg' : g'.WellFormed)
    (inputs outputs : Nat) : g.Connectable inputs outputs ↔ g'.Connectable inputs outputs := by
  rw [Graph.connectable_iff, Graph.connectable_iff]
  refine and_congr ?_ ?_
  · refine (h.levels_related hg hg').forall_iff fun l _ l' _ hl => ?_
    refine (h.nodes_related hl).forall_iff fun v _ v' _ hv => ?_
    rw [hv.twin.kind]
  · exact (h.steps_related hg hg').forall_iff fun t _ t' _ ht => ht.stepFits_iff h hg hg'

/-! ### Reports -/

def Warning.renumber (π : Nat → Nat) : Warning → Warning
  | .unsupportedNode node tag => .unsupportedNode (node.renumber π) tag
  | .skippedLink level link node => .skippedLink (π level) link (node.renumber π)
  | .unmatchedPort node d name => .unmatchedPort (node.renumber π) d name

/-- Reports that count the same things and warn of the same things, up to the order of the warnings
and the numbers of levels. -/
structure Report.Reordered (π : Nat → Nat) (r r' : Report) : Prop where
  buses : r'.buses = r.buses
  modules : r'.modules = r.modules
  connections : r'.connections = r.connections
  maxDepth : r'.maxDepth = r.maxDepth
  warnings : (r.warnings.map (Warning.renumber π)).Perm r'.warnings

/-- All modules of a graph have the ports of their types. -/
def Graph.Typical (g : Graph) (reported : NodeKey → PortList) : Prop :=
  ∀ l ∈ g.levels, ∀ v ∈ l.nodes, ∀ spec, v.kind = .processing spec →
    ∀ d, ((reported v.key).ports d).map Port.name = spec.type.portNames d

/-- A report tells of the steps of a graph whose modules have the ports of their types. -/
structure Report.Tells (r : Report) (g : Graph) : Prop where
  count : ∀ x, r.count x = g.steps.countP fun t => t.thing? = some x
  maxDepth : r.maxDepth = maxDepthFrom 0 (g.steps.filterMap BuildStep.entered?)
  warnings : ∃ reported, g.Typical reported ∧
    r.warnings = g.steps.flatMap (BuildStep.warnings reported)

/-- What is not reported can be told from what names are matched with. -/
lemma unreported_eq_of_matchPorts {key : NodeKey} {d : Direction} {ps qs : List Port}
    {names : List String} (h : matchPorts ps names = matchPorts qs names) :
    unreported key d ps names = unreported key d qs names := by
  have hreported : ∀ (ps : List Port) (name : String), name ∈ ps.map Port.name ↔
      ((ps.find? fun p => p.name = name).map Port.id).isSome := by
    intro ps name
    rw [Option.isSome_map, List.find?_isSome, List.mem_map]
    simp only [decide_eq_true_iff]
  refine congrArg (List.map _) (List.filter_congr fun name hname => ?_)
  rw [decide_eq_decide, hreported, hreported, List.map_inj_left.mp h name hname]

/-- The session that a compilation for a fresh virtual engine succeeds in. -/
lemma compile_virtual_session (hg : g.WellFormed) {name : Nat → String}
    (hname : VirtualEngine.Distinct name) {inputs outputs : Nat} {c : Compilation}
    (hc : (compile (VirtualEngine.engine name) g
      (VirtualEngine.new name inputs outputs [])).1 = .ok c) :
    ∃ s, Recorded g (VirtualEngine.new name inputs outputs []).mains g.steps s ∧
      Mirrors name (VirtualEngine.new name inputs outputs []).mains g.steps s ∧
      s.engine =
        (compile (VirtualEngine.engine name) g (VirtualEngine.new name inputs outputs [])).2 ∧
      s.bindings = c.bindings := by
  obtain ⟨-, s, hs, hmirrors, hengine, hbindings⟩ :=
    (compiles_virtual hg hname inputs outputs).ok_of_ok hc
  rw [← hengine, hmirrors.mains_eq] at hs
  exact ⟨s, hs, hmirrors, hengine, hbindings⟩

/-- What a virtual engine reports of modules are the ports of their types. -/
lemma compile_virtual_tells (hg : g.WellFormed) {name : Nat → String}
    (hname : VirtualEngine.Distinct name) {inputs outputs : Nat} {c : Compilation}
    (hc : (compile (VirtualEngine.engine name) g
      (VirtualEngine.new name inputs outputs [])).1 = .ok c) : c.report.Tells g := by
  obtain ⟨s', -, hmirrors, -, hbindings⟩ := compile_virtual_session hg hname hc
  obtain ⟨_, s, -, -, hreported, -, rfl⟩ := compile_session hg _ _ hc
  replace hbindings : s'.bindings = s.bindings := hbindings
  refine ⟨hreported.count, hreported.maxDepth, ?_⟩
  obtain ⟨reported, hports, hwarnings⟩ := hreported.warnings
  obtain ⟨module, -, hmodule⟩ :=
    forall₂_exists_assignment hmirrors.modules (visited_keys_nodup hg _)
  have hmatch : ∀ l v spec, .visit l v ∈ g.steps → v.kind = .processing spec →
      ModuleMatches s.bindings (l, v) (module v.key) := fun l v spec hvisit hspec =>
    hbindings ▸ hmodule (l, v) (mem_visited.mpr ⟨hvisit, NodeKind.isModule_iff.mpr ⟨spec, hspec⟩⟩)
  refine ⟨fun key => (module key).ports, fun l hl v hv spec hspec d => ?_, ?_⟩
  · have hm := hmatch l v spec (Graph.visit_mem_steps.mpr ⟨hl, hv⟩) hspec
    obtain rfl : spec = (module v.key).spec := by simpa using hspec.symm.trans hm.kind
    exact hm.names d
  · rw [hwarnings]
    refine Reported.flatMap_warnings_congr fun l v spec hvisit hspec => ?_
    -- the node is bound to the ports that were reported as well as to those of the module
    obtain ⟨bus, id, hbound, -⟩ := hports l v spec hvisit hspec
    have hsame := hbound.symm.trans (hmatch l v spec hvisit hspec).bound
    simp only [GraphNode.moduleBinding, Option.some.injEq, NodeBinding.processing.injEq] at hsame
    obtain ⟨-, -, hin, hout⟩ := hsame
    unfold GraphNode.ownWarnings
    rw [hspec]
    exact congrArg₂ (· ++ ·) (unreported_eq_of_matchPorts hin) (unreported_eq_of_matchPorts hout)

lemma BuildStep.Twin.thing?_eq (ht : t.Twin g g' t') (h : g.Twin g') (hg : g.WellFormed)
    (hg' : g'.WellFormed) : t.thing? = t'.thing? := by
  cases ht with
  | enter => rfl
  | visit hv => rw [BuildStep.thing?, BuildStep.thing?, hv.twin.kind]
  | connect hk => simp only [BuildStep.thing?, hk.leavesOut_iff hg hg' h]

lemma unreported_renumber {key : NodeKey} {d : Direction} {ps qs : List Port} {names : List String}
    (h : ps.map Port.name = qs.map Port.name) :
    (unreported key d ps names).map (Warning.renumber π) =
      unreported (key.renumber π) d qs names := by
  unfold unreported
  rw [h, List.map_map]
  rfl

/-- Nodes at the same place are warned of alike. -/
lemma GraphNode.Twin.warnings_eq (hvv' : v.Twin v') (hkey : v'.key = v.key.renumber π)
    {reported reported' : NodeKey → PortList}
    (hnames : ∀ spec, v.kind = .processing spec → ∀ d, ((reported v.key).ports d).map Port.name =
      ((reported' v'.key).ports d).map Port.name) :
    (v.ownWarnings reported).map (Warning.renumber π) = v'.ownWarnings reported' := by
  unfold ownWarnings
  rw [hvv'.kind, hvv'.inputNames, hvv'.outputNames, hkey]
  cases hv : v.kind with
  | unsupported tag => rfl
  | processing spec =>
    have hinputs : (reported v.key).inputs.map Port.name =
        (reported' (v.key.renumber π)).inputs.map Port.name := hkey ▸ hnames spec hv .input
    have houtputs : (reported v.key).outputs.map Port.name =
        (reported' (v.key.renumber π)).outputs.map Port.name := hkey ▸ hnames spec hv .output
    dsimp only
    rw [List.map_append, unreported_renumber hinputs, unreported_renumber houtputs]
  | mainInputs | mainOutputs | busAdd | busInput | busOutput => rfl

/-- Links at the same place are warned of alike. -/
lemma Graph.SameLink.leftOutEnd?_eq (hk : g.SameLink g' l k l' k') (h : g.Twin g')
    (hg : g.WellFormed) (hg' : g'.WellFormed) (hπ : Graph.Renumbers π g g') :
    l'.leftOutEnd? k' = (l.leftOutEnd? k).map (NodeKey.renumber π) := by
  have hends : [k'.origin, k'.target] = [k.origin, k.target].map (NodeKey.renumber π) := by
    have horigin : k'.origin = k.origin.renumber π := hk.node_eq hg hg' hπ .origin
    have htarget : k'.target = k.target.renumber π := hk.node_eq hg hg' hπ .target
    rw [horigin, htarget]
    rfl
  have hleft : ∀ e, (∃ v ∈ l.nodes, v.key = k.node e ∧ ∃ tag, v.kind = .unsupported tag) ↔
      ∃ v ∈ l'.nodes, v.key = (k.node e).renumber π ∧ ∃ tag, v.kind = .unsupported tag := by
    intro e
    refine (h.nodes_related hk.place).exists_iff fun v _ v' _ hv => ?_
    rw [hk.ends_iff hg hg' hv, hv.twin.kind, hk.node_eq hg hg' hπ]
  rw [Level.leftOutEnd?, Level.leftOutEnd?, hends, List.find?_map]
  refine congrArg _ (List.find?_congr fun key hkey => ?_)
  rcases List.mem_pair.mp hkey with rfl | rfl
  · exact decide_eq_decide.mpr (hleft .origin).symm
  · exact decide_eq_decide.mpr (hleft .target).symm

/-- The same step gives the same warnings, with the numbers of levels changed. -/
lemma BuildStep.Twin.warnings_eq (ht : t.Twin g g' t') (h : g.Twin g') (hg : g.WellFormed)
    (hg' : g'.WellFormed) (hπ : Graph.Renumbers π g g') {reported reported' : NodeKey → PortList}
    (hr : g.Typical reported) (hr' : g'.Typical reported') :
    (t.warnings reported).map (Warning.renumber π) = t'.warnings reported' := by
  cases ht with
  | enter => rfl
  | @visit l l' v v' hv =>
    refine hv.twin.warnings_eq (hv.key_eq hg hg' hπ) fun spec hspec d => ?_
    rw [hr l hv.place.mem v hv.mem spec hspec,
      hr' l' hv.place.mem' v' hv.mem' spec (hv.twin.kind.trans hspec)]
  | @connect l l' k k' hk =>
    rw [BuildStep.warnings, BuildStep.warnings, Level.linkWarnings, Level.linkWarnings,
      hk.leftOutEnd?_eq h hg hg' hπ, hk.twin.id, hπ l l' hk.place]
    cases l.leftOutEnd? k <;> rfl

lemma BuildStep.Twin.depth_eq (ht : t.Twin g g' t') (hg : g.WellFormed) (hg' : g'.WellFormed) :
    t.entered?.map Level.depth = t'.entered?.map Level.depth := by
  cases ht with
  | enter hl => exact congrArg some (hl.depth_eq hg hg').symm
  | visit | connect => rfl

/-- The greatest depth does not depend on the order of levels. -/
lemma maxDepthFrom_eq_of_perm {depth : Nat} {ls ms : List Level}
    (h : (ls.map Level.depth).Perm (ms.map Level.depth)) :
    maxDepthFrom depth ls = maxDepthFrom depth ms := by
  have hmap : ∀ ls : List Level, maxDepthFrom depth ls = (ls.map Level.depth).foldl max depth := by
    intro ls
    rw [maxDepthFrom, List.foldl_map]
  rw [hmap, hmap]
  exact h.foldl_eq depth

/-- Graphs with the same nodes and links at the same places are reported alike. -/
theorem Report.Tells.reordered {r r' : Report} (hr : r.Tells g) (hr' : r'.Tells g')
    (h : g.Twin g') (hg : g.WellFormed) (hg' : g'.WellFormed) (hπ : Graph.Renumbers π g g') :
    r.Reordered π r' := by
  have hsteps := h.steps_related hg hg'
  have hcount : ∀ x, r'.count x = r.count x := by
    intro x
    rw [hr.count, hr'.count]
    refine (hsteps.countP_eq fun t _ t' _ ht => ?_).symm
    rw [ht.thing?_eq h hg hg']
  refine ⟨hcount .bus, hcount .module, hcount .connection, ?_, ?_⟩
  · rw [hr.maxDepth, hr'.maxDepth]
    refine (maxDepthFrom_eq_of_perm ?_).symm
    rw [List.map_filterMap, List.map_filterMap]
    exact hsteps.filterMap_perm fun t _ t' _ ht => ht.depth_eq hg hg'
  · obtain ⟨reported, htypical, hwarnings⟩ := hr.warnings
    obtain ⟨reported', htypical', hwarnings'⟩ := hr'.warnings
    rw [hwarnings, hwarnings', List.map_flatMap]
    exact hsteps.flatMap_perm fun t _ t' _ ht => ht.warnings_eq h hg hg' hπ htypical htypical'

end Patchbay
