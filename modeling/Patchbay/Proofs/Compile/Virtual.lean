import Patchbay.Proofs.Compile.Links
import Patchbay.Proofs.Compile.Whole
import Patchbay.Proofs.Lists
import Patchbay.Proofs.Engine.Virtual

/-!
# Compiling for the virtual engine

While a graph is built in a virtual engine, the engine holds a bus, a module and a connection for
each node and link that was done, in the same order, and every address that the compilation comes
up with is one that the engine knows. So the engine refuses nothing, and a compilation fails only
because of the graph.
-/

namespace Patchbay

def ModuleType.portNames (t : ModuleType) : Direction → List String
  | .input => t.inputNames
  | .output => t.outputNames

/-- The addresses that an engine knows for an end of connections. -/
def VirtualEngine.addresses (e : VirtualEngine) : LinkEnd → List String
  | .origin => e.sources
  | .target => e.sinks

/-- A bus of the engine is what a node was bound to. -/
structure BusMatches (b : Bindings) (v : Level × GraphNode) (x : VirtualEngine.Bus) : Prop where
  kind : v.2.kind = .busAdd x.title
  owned : b.Owned v.1 x.parent
  names : ∀ d, (x.ports.ports d).map Port.name = childPortNames v.2.child d
  bound : b.node? v.2.key = some (.bus x.id x.ids.inputs x.ids.outputs)

/-- A module of the engine is what a node was bound to. -/
structure ModuleMatches (b : Bindings) (v : Level × GraphNode) (x : VirtualEngine.Module) :
    Prop where
  kind : v.2.kind = .processing x.spec
  owned : b.Owned v.1 x.bus
  names : ∀ d, (x.ports.ports d).map Port.name = x.spec.type.portNames d
  bound : b.node? v.2.key = some (v.2.moduleBinding x.bus x.ids)

/-- A connection of the engine is what a link was bound to, between the ends of the link. -/
structure ConnectionMatches (b : Bindings) (k : Level × GraphLink)
    (x : VirtualEngine.Connection) : Prop where
  origin : ∃ a, resolveEnd k.1 b k.2 .origin = .ok a ∧ x.origin = a.text
  target : ∃ a, resolveEnd k.1 b k.2 .target = .ok a ∧ x.target = a.text
  bound : b.connection? k.1.id k.2.index = some x.id

def BuildStep.link? : BuildStep → Option (Level × GraphLink)
  | connect l k => some (l, k)
  | _ => none

/-- The links among some steps that are not left out. -/
def keptLinks (ts : List BuildStep) : List (Level × GraphLink) :=
  (ts.filterMap BuildStep.link?).filter fun k => ¬ k.1.LeavesOut k.2

/-- The engine holds what was done, in the same order. -/
structure Mirrors (name : Nat → String) (mains : MainPorts) (done : List BuildStep)
    (s : Session VirtualEngine) : Prop where
  sound : s.engine.Sound name
  mains_eq : s.engine.mains = mains
  buses : List.Forall₂ (BusMatches s.bindings) (visited NodeKind.isBus done) s.engine.buses
  modules : List.Forall₂ (ModuleMatches s.bindings) (visited NodeKind.isModule done)
    s.engine.modules
  connections : List.Forall₂ (ConnectionMatches s.bindings) (keptLinks done)
    s.engine.connections

section Mono

variable {b b' : Bindings}

lemma BusMatches.mono {v : Level × GraphNode} {x : VirtualEngine.Bus} (h : BusMatches b v x)
    (hb : b.Extends b') : BusMatches b' v x :=
  ⟨h.kind, h.owned.mono hb, h.names, hb.node h.bound⟩

lemma ModuleMatches.mono {v : Level × GraphNode} {x : VirtualEngine.Module}
    (h : ModuleMatches b v x) (hb : b.Extends b') : ModuleMatches b' v x :=
  ⟨h.kind, h.owned.mono hb, h.names, hb.node h.bound⟩

/-- An address that was found is found again when more has been bound. -/
lemma resolveEnd_mono {l : Level} {k : GraphLink} {e : LinkEnd} {a : PortAddress}
    (h : resolveEnd l b k e = .ok a) (hb : b.Extends b') : resolveEnd l b' k e = .ok a := by
  cases hx : b.node? (k.node e) with
  | none =>
    rw [resolveEnd_unbound hx] at h
    cases h
  | some x =>
    have hx' := hb.node hx
    simp only [resolveEnd, hx] at h
    simp only [resolveEnd, hx']
    exact h

lemma ConnectionMatches.mono {k : Level × GraphLink} {x : VirtualEngine.Connection}
    (h : ConnectionMatches b k x) (hb : b.Extends b') : ConnectionMatches b' k x := by
  obtain ⟨⟨o, ho, hox⟩, ⟨t, ht, htx⟩, hbound⟩ := h
  exact ⟨⟨o, resolveEnd_mono ho hb, hox⟩, ⟨t, resolveEnd_mono ht hb, htx⟩,
    hb.connection hbound⟩

end Mono

/-! ### Links that fit -/

/-- An end of links is no pass-through of the root, and names a port if it is one of a module. -/
structure Graph.EndFits (g : Graph) (l : Level) (v : GraphNode) (e : LinkEnd) (slot : Nat) :
    Prop where
  inside : l = g.root → ∀ d, v.kind.passThrough? d = none
  named : ∀ spec, v.kind = .processing spec →
    ∃ name, (v.names e.direction)[slot]? = some name ∧ name ∈ spec.type.portNames e.direction

def Graph.LinkFits (g : Graph) (l : Level) (k : GraphLink) : Prop :=
  ¬ l.LeavesOut k → ∀ e, ∀ v ∈ l.nodes, v.key = k.node e → g.EndFits l v e (k.slot e)

/-- The errors of links that do not fit. -/
def CompileError.IsUnresolved : CompileError → Prop
  | .unresolvedNode .. | .unresolvedPort .. => True
  | _ => False

/-- A step that does not connect a link, or one that fits. -/
def Graph.StepFits (g : Graph) : BuildStep → Prop
  | .connect l k => g.LinkFits l k
  | _ => True

lemma Graph.endFits_of_kind {g : Graph} {l : Level} {v : GraphNode} {e : LinkEnd} {slot : Nat}
    (hport : ∀ d, v.kind.passThrough? d = none) (hmodule : ∀ spec, v.kind ≠ .processing spec) :
    g.EndFits l v e slot :=
  ⟨fun _ => hport, fun spec h => (hmodule spec h).elim⟩

/-- An end at a module fits exactly if it names a port of the module's type. -/
lemma Graph.endFits_module_iff {g : Graph} {l : Level} {v : GraphNode} {e : LinkEnd} {slot : Nat}
    {spec : ModuleSpec} (hkind : v.kind = .processing spec) {name : String}
    (hname : (v.names e.direction)[slot]? = some name) :
    g.EndFits l v e slot ↔ name ∈ spec.type.portNames e.direction := by
  constructor
  · intro h
    obtain ⟨name', hname', hmem⟩ := h.named spec hkind
    obtain rfl : name = name' := by simpa [hname] using hname'
    exact hmem
  · intro hmem
    refine ⟨fun _ d => ?_, fun spec' hspec' => ?_⟩
    · cases d <;> simp [hkind, NodeKind.passThrough?]
    · obtain rfl : spec = spec' := by simpa [hkind] using hspec'
      exact ⟨name, hname, hmem⟩

/-- The names of the ports inside a node hold no comma, so that they survive being joined. -/
lemma splitNames_childPortNames {child : Option Level} (hfit : ∀ c, child = some c → c.Fits)
    (d : Direction) : Text.splitNames (Text.joinCommas (childPortNames child d))
      = childPortNames child d := by
  apply Text.splitNames_joinCommas
  cases child with
  | none => simp [childPortNames]
  | some c =>
    intro name hname
    have hvalid := (hfit c rfl).port_valid d name hname
    simpa [validPortName] using hvalid

namespace Mirrors

variable {name : Nat → String} {g : Graph} {mains : MainPorts} {done before : List BuildStep}
  {s s' : Session VirtualEngine} {l m : Level} {v w : GraphNode} {k : GraphLink} {e : LinkEnd}

/-- What a visited bus was bound to is a bus of the engine. -/
lemma exists_bus (h : Mirrors name mains done s) (hvisit : .visit l v ∈ done) {title : String}
    (hkind : v.kind = .busAdd title) : ∃ x ∈ s.engine.buses, BusMatches s.bindings (l, v) x := by
  exact forall₂_exists_right h.buses
    (mem_visited.mpr ⟨hvisit, NodeKind.isBus_iff.mpr ⟨title, hkind⟩⟩)

/-- What a visited module was bound to is a module of the engine. -/
lemma exists_module (h : Mirrors name mains done s) (hvisit : .visit l v ∈ done)
    {spec : ModuleSpec} (hkind : v.kind = .processing spec) :
    ∃ x ∈ s.engine.modules, ModuleMatches s.bindings (l, v) x := by
  exact forall₂_exists_right h.modules
    (mem_visited.mpr ⟨hvisit, NodeKind.isModule_iff.mpr ⟨spec, hkind⟩⟩)

/-- An end of a link at a module is resolved by a module of the engine with the ports of its
type. -/
lemma exists_moduleEnd (h : Mirrors name mains done s) (hvisit : .visit l v ∈ done)
    {spec : ModuleSpec} (hkind : v.kind = .processing spec) {port : String}
    {r : Except CompileError PortAddress}
    (hresult : ∀ bus ids, s.bindings.node? v.key = some (v.moduleBinding bus ids) →
      r = moduleEnd l k e v bus ids port) :
    ∃ x ∈ s.engine.modules, r = moduleEnd l k e v x.bus x.ids port ∧
      ∀ d, (x.ports.ports d).map Port.name = spec.type.portNames d := by
  obtain ⟨x, hx, hmatch⟩ := h.exists_module hvisit hkind
  obtain rfl : x.spec = spec := by simpa using hmatch.kind.symm.trans hkind
  exact ⟨x, hx, hresult x.bus x.ids hmatch.bound, hmatch.names⟩

/-- The ids that a bus is bound to are those of a bus of the engine. -/
lemma exists_ids (h : Mirrors name mains done s) (hs : Recorded g mains done s)
    (hl : l ∈ g.levels) (hv : v ∈ l.nodes) {title : String} (hkind : v.kind = .busAdd title)
    {ids : BusIds} (hids : s.bindings.HoldsBus v ids) :
    ∃ x ∈ s.engine.buses, BusMatches s.bindings (l, v) x ∧ ids = x.ids := by
  have hvisit := (hs.bound_by l hl v hv _ hids.own).bus_visited hkind
  obtain ⟨x, hx, hmatch⟩ := h.exists_bus hvisit hkind
  have heq := hids.own.symm.trans hmatch.bound
  obtain ⟨id, inputs, outputs⟩ := ids
  obtain ⟨rfl, rfl, rfl⟩ : id = x.id ∧ inputs = x.ids.inputs ∧ outputs = x.ids.outputs := by
    simpa using heq
  exact ⟨x, hx, hmatch, rfl⟩

/-- The bus around a level can hold what stands in the level. -/
lemma exists_owner (h : Mirrors name mains done s) (hg : g.WellFormed)
    (hheld : l.HeldIn done) (hsub : done ⊆ g.steps) :
    ∃ bus, s.bindings.Owned l bus ∧ s.engine.canHold bus = true := by
  unfold Bindings.Owned
  cases hparent : l.parent with
  | none => exact ⟨"", rfl, rfl⟩
  | some key =>
    obtain ⟨m, -, w, -, hvisit, -, rfl, title, hkind⟩ := hheld.exists_bus hg hsub hparent
    obtain ⟨x, hx, hmatch⟩ := h.exists_bus hvisit hkind
    refine ⟨x.id, ⟨_, _, hmatch.bound⟩, ?_⟩
    simp [VirtualEngine.canHold, VirtualEngine.bus?_of_mem h.sound hx]

/-! ### Addresses -/

/-- Both sides of a port of a bus that was made are addresses. -/
lemma mem_source_of_bus (h : Mirrors name mains done s) {x : VirtualEngine.Bus}
    (hx : x ∈ s.engine.buses) {d : Direction} {port : String} (hport : port ∈ x.ids.ports d)
    (e : LinkEnd) : (PortAddress.bus x.id port).text ∈ s.engine.addresses e := by
  have hmem : port ∈ (x.ports.ports d).map Port.id := by
    cases d <;> exact hport
  obtain ⟨p, hp, rfl⟩ := List.mem_map.mp hmem
  cases e
  · exact h.sound.bus_source x hx d p hp
  · exact h.sound.bus_sink x hx d p hp

/-- Every address that an end of a link is resolved to is one that the engine knows. -/
lemma address_known (h : Mirrors name mains done s) (hg : g.WellFormed)
    (hs : Recorded g mains done s) (hk : g.Linkable done l k) (hv : v ∈ l.nodes)
    {a : PortAddress} (hres : Resolution g mains s.bindings l k e v (.ok a)) :
    a.text ∈ s.engine.addresses e := by
  have hl := hk.level_mem
  cases hres with
  | main d n port hkind hend hport =>
    have hmem := List.mem_of_getElem? hport
    rw [← h.mains_eq] at hmem
    subst hend
    cases e
    · exact h.sound.main_source _ hmem
    · exact h.sound.main_sink _ hmem
  | bus title ids port hkind hids hport =>
    obtain ⟨x, hx, -, rfl⟩ := h.exists_ids hs hl hv hkind hids
    exact h.mem_source_of_bus hx (List.mem_of_getElem? hport) e
  | port d m w ids port hkind hm hw hchild hids hport =>
    -- a pass-through stands for a port of the bus that holds its level
    obtain ⟨title, hbus⟩ := ((hg.fits m hm).node w hw).bus_of_child l hchild
    obtain ⟨x, hx, -, rfl⟩ := h.exists_ids hs hm hw hbus hids
    obtain ⟨d, -, hport⟩ := x.ids.fst_mem_of_mem_pairs hport
    exact h.mem_source_of_bus hx hport e
  | module spec name' _ hkind hname hresult =>
    obtain ⟨x, hx, hend, -⟩ := h.exists_moduleEnd (hk.ready.2 v hv) hkind hresult
    obtain ⟨port, hport, rfl⟩ := moduleEnd_eq_ok_iff.mp hend.symm
    have hmem := List.mem_of_find?_eq_some hport
    cases e
    · exact h.sound.module_source x hx port hmem
    · exact h.sound.module_sink x hx port hmem

/-- An end of a link has an address exactly if it fits. -/
lemma resolved_iff (h : Mirrors name mains done s) (hg : g.WellFormed)
    (hk : g.Linkable done l k) (hv : v ∈ l.nodes)
    {r : Except CompileError PortAddress} (hres : Resolution g mains s.bindings l k e v r) :
    (∃ a, r = .ok a) ↔ g.EndFits l v e (k.slot e) := by
  cases hres with
  | main d n port hkind hend hport =>
    refine iff_of_true ⟨_, rfl⟩ (Graph.endFits_of_kind (fun d' => ?_) fun spec hspec => ?_)
    · cases hpass : v.kind.passThrough? d' with
      | none => rfl
      | some port =>
        have := NodeKind.mainSlots?_of_port (Option.isSome_of_eq_some hpass)
        rw [hkind] at this
        cases this
    · simp [hspec, NodeKind.mainSlots?] at hkind
  | bus title ids port hkind hids hport =>
    refine iff_of_true ⟨_, rfl⟩ (Graph.endFits_of_kind (fun d' => ?_) fun spec hspec => ?_)
    · cases d' <;> simp [hkind, NodeKind.passThrough?]
    · simp [hspec] at hkind
  | port d m w ids port hkind hm hw hchild hids hport =>
    refine iff_of_true ⟨_, rfl⟩ ⟨fun hroot => ?_, fun spec hspec => ?_⟩
    · exact (hg.child_ne_root hm hw (hroot ▸ hchild)).elim
    · simp [hspec, NodeKind.passThrough?] at hkind
  | outside d hkind hroot =>
    refine iff_of_false ?_ fun hfit => ?_
    · -- only a node of the root has no bus around it, and only there does no pass-through fit
      rintro ⟨_, hr⟩
      cases hr
    · simp [hfit.inside hroot d] at hkind
  | module spec port r hkind hname hresult =>
    obtain ⟨x, -, rfl, hnames⟩ := h.exists_moduleEnd (hk.ready.2 v hv) hkind hresult
    rw [exists_moduleEnd_iff, Graph.endFits_module_iff hkind hname, ← hnames]
    rfl

/-! ### Steps -/

/-- What the engine holds still matches when more is bound. -/
lemma rebound (h : Mirrors name mains done s) {b : Bindings} (hb : s.bindings.Extends b) :
    List.Forall₂ (BusMatches b) (visited NodeKind.isBus done) s.engine.buses ∧
      List.Forall₂ (ModuleMatches b) (visited NodeKind.isModule done) s.engine.modules ∧
      List.Forall₂ (ConnectionMatches b) (keptLinks done) s.engine.connections :=
  ⟨h.buses.imp fun _ _ hmatch => hmatch.mono hb, h.modules.imp fun _ _ hmatch => hmatch.mono hb,
    h.connections.imp fun _ _ hmatch => hmatch.mono hb⟩

lemma keptLinks_concat_other {t : BuildStep} (ht : ∀ l k, t = .connect l k → l.LeavesOut k) :
    keptLinks (before ++ [t]) = keptLinks before := by
  unfold keptLinks
  rw [List.filterMap_append, List.filter_append]
  cases t with
  | enter | visit => simp [BuildStep.link?]
  | connect l k => simp [BuildStep.link?, ht l k rfl]

/-- A step that the engine takes no part in. -/
lemma concat_idle (h : Mirrors name mains before s) {t : BuildStep}
    (hengine : s'.engine = s.engine) (hb : s'.bindings = s.bindings)
    (ht : ∀ l v, t = .visit l v → v.kind.isBus = false ∧ v.kind.isModule = false)
    (hlink : ∀ l k, t = .connect l k → l.LeavesOut k) :
    Mirrors name mains (before ++ [t]) s' where
  sound := hengine ▸ h.sound
  mains_eq := hengine ▸ h.mains_eq
  buses := by
    rw [visited_concat_other fun l v h => (ht l v h).1, hengine, hb]
    exact h.buses
  modules := by
    rw [visited_concat_other fun l v h => (ht l v h).2, hengine, hb]
    exact h.modules
  connections := by
    rw [keptLinks_concat_other hlink, hengine, hb]
    exact h.connections

/-- A visit of a bus adds it to the engine. -/
lemma step_bus (hname : VirtualEngine.Distinct name) (hg : g.WellFormed)
    (hn : g.Next before (.visit l v)) (hs : Recorded g mains before s)
    (h : Mirrors name mains before s) {title : String} (hkind : v.kind = .busAdd title) :
    Ends (Compiler.perform (VirtualEngine.engine name) (.visit l v)) s
      (fun _ s' => Mirrors name mains (before ++ [.visit l v]) s') (fun _ _ => False) := by
  obtain ⟨hl, hv⟩ := Graph.visit_mem_steps.mp hn.mem
  obtain ⟨bus, howned, hhold⟩ := h.exists_owner hg (hn.ready hg) hn.subset
  have hfit : ∀ c, v.child = some c → c.Fits :=
    fun c hc => hg.fits c (Graph.WellFormed.child_mem hl hv hc)
  rw [hs.perform_bus_iff _ hg hn hkind, howned.busOf_eq]
  refine (VirtualEngine.newBus_ends hname h.sound hhold title (splitNames_childPortNames hfit _)
    (splitNames_childPortNames hfit _)).imp ?_ fun _ _ => id
  rintro _ e ⟨hsound, hmains, hmodules, hconnections, x, hbuses, hx, rfl⟩
  have hb : s.bindings.Extends (s.bindings.withBus v.key v.child x.ids) :=
    (hs.freeFor hg hn hkind).extends
  obtain ⟨hbs, hms, hcs⟩ := h.rebound hb
  refine ⟨hsound, hmains.trans h.mains_eq, ?_, ?_, ?_⟩
  · change List.Forall₂ _ _ e.buses
    rw [hbuses, visited_concat (NodeKind.isBus_iff.mpr ⟨title, hkind⟩)]
    refine forall₂_concat hbs ?_
    refine ⟨by rw [hkind, hx.title], hx.parent ▸ howned.mono hb, ?_, Bindings.node?_withBus_self⟩
    rintro (_ | _)
    · exact hx.inputs
    · exact hx.outputs
  · change List.Forall₂ _ _ e.modules
    rw [hmodules, visited_concat_other (by rintro _ _ ⟨⟩; simp [NodeKind.isModule, hkind])]
    exact hms
  · change List.Forall₂ _ _ e.connections
    rw [hconnections, keptLinks_concat_other (by simp)]
    exact hcs

/-- A visit of a module adds it to the engine. -/
lemma step_module (hname : VirtualEngine.Distinct name) (hg : g.WellFormed)
    (hn : g.Next before (.visit l v)) (hs : Recorded g mains before s)
    (h : Mirrors name mains before s) {spec : ModuleSpec} (hkind : v.kind = .processing spec) :
    Ends (Compiler.perform (VirtualEngine.engine name) (.visit l v)) s
      (fun _ s' => Mirrors name mains (before ++ [.visit l v]) s') (fun _ _ => False) := by
  obtain ⟨bus, howned, hhold⟩ := h.exists_owner hg (hn.ready hg) hn.subset
  rw [hs.perform_module_iff _ hg hn hkind, howned.busOf_eq]
  refine (VirtualEngine.newModule_ends hname h.sound hhold spec).imp ?_ fun _ _ => id
  rintro _ e ⟨hsound, hmains, hbuses, hconnections, x, hmodules, hx, rfl⟩
  have hfree := hs.free_module hg hn hkind
  have hb := Bindings.bindNode_extends
    (Bindings.bindNode_of_none hfree (v.moduleBinding bus x.ids))
  obtain ⟨hbs, hms, hcs⟩ := h.rebound hb
  refine ⟨hsound, hmains.trans h.mains_eq, ?_, ?_, ?_⟩
  · change List.Forall₂ _ _ e.buses
    rw [hbuses, visited_concat_other (by rintro _ _ ⟨⟩; simp [NodeKind.isBus, hkind])]
    exact hbs
  · change List.Forall₂ _ _ e.modules
    rw [hmodules, visited_concat (NodeKind.isModule_iff.mpr ⟨spec, hkind⟩)]
    refine forall₂_concat hms ?_
    refine ⟨by rw [hkind, hx.spec], hx.bus ▸ howned.mono hb, ?_, ?_⟩
    · rintro (_ | _)
      · exact hx.inputs
      · exact hx.outputs
    · rw [hx.bus]
      exact (Bindings.node?_cons v.key v.key _).trans (if_pos rfl)
  · change List.Forall₂ _ _ e.connections
    rw [hconnections, keptLinks_concat_other (by simp)]
    exact hcs

/-- A link with an end that has no address does not fit. -/
lemma refuse_link (hg : g.WellFormed) (hk : g.Linkable before l k)
    (hs : Recorded g mains before s) (h : Mirrors name mains before s) (hkeep : ¬ l.LeavesOut k)
    {err : CompileError} (herr : resolveEnd l s.bindings k e = .error err) :
    err.IsUnresolved ∧ ¬ g.LinkFits l k := by
  obtain ⟨v, hv, hkey, hres⟩ := hs.exists_resolution hg hk hkeep e
  rw [herr] at hres
  refine ⟨?_, fun hfits => ?_⟩
  · cases hres with
    | outside => trivial
    | module spec port _ hkind hname hresult =>
      obtain ⟨x, -, hend, -⟩ := h.exists_moduleEnd (hk.ready.2 v hv) hkind hresult
      obtain ⟨-, rfl⟩ := moduleEnd_eq_error_iff.mp hend.symm
      trivial
  · obtain ⟨a, ha⟩ := (h.resolved_iff hg hk hv hres).mpr (hfits hkeep e v hv hkey)
    cases ha

/-- A link with addresses at both ends fits. -/
lemma linkFits_of_addresses (hg : g.WellFormed) (hk : g.Linkable before l k)
    (hs : Recorded g mains before s) (h : Mirrors name mains before s)
    (haddr : ∀ e, ∃ a, resolveEnd l s.bindings k e = .ok a) : g.LinkFits l k := by
  intro hkeep e v hv hkey
  exact (h.resolved_iff hg hk hv (hs.resolution hg hk hkeep hv hkey)).mp (haddr e)

/-- The engine connects a link with addresses at both ends. -/
lemma connect_link (hg : g.WellFormed) (hn : g.Next before (.connect l k))
    (hs : Recorded g mains before s) (h : Mirrors name mains before s) (hkeep : ¬ l.LeavesOut k)
    {origin target : PortAddress} (ho : resolveEnd l s.bindings k .origin = .ok origin)
    (ht : resolveEnd l s.bindings k .target = .ok target) :
    Ends ((VirtualEngine.engine name).ask (.addConnection origin.text target.text)) s.engine
      (fun id e => Mirrors name mains (before ++ [.connect l k])
        ((s.withConnection l k id).withEngine e)) (fun _ _ => False) := by
  have hknown : ∀ e a, resolveEnd l s.bindings k e = .ok a → a.text ∈ s.engine.addresses e := by
    intro e a ha
    obtain ⟨v, hv, -, hres⟩ := hs.exists_resolution hg (hn.linkable hg) hkeep e
    exact h.address_known hg hs (hn.linkable hg) hv (ha ▸ hres)
  refine (VirtualEngine.addConnection_ends h.sound (hknown .origin origin ho)
    (hknown .target target ht)).imp ?_ fun _ _ => id
  rintro id e ⟨hsound, hmains, hbuses, hmodules, hconnections⟩
  have hb := Bindings.bindConnection_extends
    (Bindings.bindConnection_of_none (hs.free_link hg hn) k.id id)
  obtain ⟨hbs, hms, hcs⟩ := h.rebound hb
  refine ⟨hsound, hmains.trans h.mains_eq, ?_, ?_, ?_⟩
  · change List.Forall₂ _ _ e.buses
    rw [hbuses, visited_concat_other (by simp)]
    exact hbs
  · change List.Forall₂ _ _ e.modules
    rw [hmodules, visited_concat_other (by simp)]
    exact hms
  · change List.Forall₂ _ _ e.connections
    have hkept : keptLinks (before ++ [.connect l k]) = keptLinks before ++ [(l, k)] := by
      simp [keptLinks, List.filterMap_append, BuildStep.link?, hkeep]
    rw [hconnections, hkept]
    refine forall₂_concat hcs ⟨⟨origin, resolveEnd_mono ho hb, rfl⟩,
      ⟨target, resolveEnd_mono ht hb, rfl⟩, ?_⟩
    exact (Bindings.connection?_cons _ _ _ _ _).trans (if_pos rfl)

/-- A link that fits is connected, and a link that does not is the reason of a failure. -/
lemma step_link (hg : g.WellFormed) (hn : g.Next before (.connect l k))
    (hs : Recorded g mains before s) (h : Mirrors name mains before s) :
    Ends (Compiler.perform (VirtualEngine.engine name) (.connect l k)) s
      (fun _ s' => Mirrors name mains (before ++ [.connect l k]) s' ∧ g.LinkFits l k)
      (fun err _ => err.IsUnresolved ∧ ¬ g.LinkFits l k) := by
  have hiff := hs.skippedEnd?_eq_none hg hn
  rw [hs.perform_link_iff _ hg hn]
  cases hskip : k.skippedEnd? s.skipped with
  | some node =>
    -- what is skipped was to be left out; that the link fits says nothing then
    have hleft : l.LeavesOut k := by
      by_contra hkeep
      rw [hiff.mpr hkeep] at hskip
      cases hskip
    refine ⟨h.concat_idle rfl rfl (by simp) ?_, fun hkeep => (hkeep hleft).elim⟩
    rintro _ _ ⟨⟩
    exact hleft
  | none =>
    have hkeep := hiff.mp hskip
    dsimp only
    split
    · rename_i err haddr
      obtain ⟨e, herr⟩ := linkAddresses_error haddr
      exact h.refuse_link hg (hn.linkable hg) hs hkeep herr
    · rename_i origin target haddr
      obtain ⟨ho, ht⟩ := linkAddresses_ok haddr
      have hfits : g.LinkFits l k := by
        refine h.linkFits_of_addresses hg (hn.linkable hg) hs ?_
        rintro (_ | _)
        · exact ⟨origin, ho⟩
        · exact ⟨target, ht⟩
      exact (h.connect_link hg hn hs hkeep ho ht).imp (fun _ _ h' => ⟨h', hfits⟩)
        fun _ _ => False.elim

/-- Every step keeps the engine in line with what was done. Only a link that does not fit fails. -/
theorem step (hname : VirtualEngine.Distinct name) (hg : g.WellFormed) {t : BuildStep}
    (hn : g.Next before t) (hs : Recorded g mains before s) (h : Mirrors name mains before s) :
    Ends (Compiler.perform (VirtualEngine.engine name) t) s
      (fun _ s' => Mirrors name mains (before ++ [t]) s' ∧ g.StepFits t)
      (fun err _ => err.IsUnresolved ∧ ¬ g.StepFits t) := by
  cases t with
  | enter l => exact ⟨h.concat_idle rfl rfl (by simp) (by simp), trivial⟩
  | visit l v =>
    cases hv : v.kind with
    | busAdd title =>
      exact (h.step_bus hname hg hn hs hv).imp (fun _ _ h' => ⟨h', trivial⟩) fun _ _ => False.elim
    | processing spec =>
      exact (h.step_module hname hg hn hs hv).imp (fun _ _ h' => ⟨h', trivial⟩)
        fun _ _ => False.elim
    | unsupported tag =>
      rw [Recorded.perform_unsupported_iff _ hv]
      refine ⟨h.concat_idle rfl rfl ?_ (by simp), trivial⟩
      rintro _ _ ⟨⟩
      simp [NodeKind.isBus, NodeKind.isModule, hv]
    | mainInputs | mainOutputs | busInput | busOutput =>
      rw [Recorded.perform_idle_iff _ (by simp [hv]) (by simp [hv]) (by simp [hv])]
      refine ⟨h.concat_idle rfl rfl ?_ (by simp), trivial⟩
      rintro _ _ ⟨⟩
      simp [NodeKind.isBus, NodeKind.isModule, hv]
  | connect l k => exact h.step_link hg hn hs

end Mirrors

end Patchbay
