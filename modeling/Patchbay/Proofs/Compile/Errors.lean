import Patchbay.Proofs.Compile.Links
import Patchbay.Proofs.Compile.Whole
import Patchbay.Proofs.Engine.Exchanges
import Patchbay.Proofs.Lists

/-!
# Errors of a compilation

Whatever the engine answers, nothing is bound twice and every end of a link that should have an
address has one. What is left as a failure of the compilation itself is a link at a pass-through of
the root, and a slot of a module that the engine reported no port of that name for.
-/

namespace Patchbay

/-! ### Modules in a history -/

def Exchange.created? : Exchange → Option (ModuleSpec × String)
  | ⟨.addModule _ spec, .ok id⟩ => some (spec, id)
  | _ => none

/-- The module that an exchange reported the ports of, with these ports. -/
def Exchange.reported? : Exchange → Option (String × PortList)
  | ⟨.listModulePorts id, .ok ports⟩ => some (id, ports)
  | _ => none

def createdModules (h : List Exchange) : List (ModuleSpec × String) := h.filterMap Exchange.created?

def reportedPorts (h : List Exchange) : List (String × PortList) := h.filterMap Exchange.reported?

/-- A name is not among those that the engine reported for a module node in a direction. The
exchanges about the node are the ones at its place among the module nodes. -/
def Graph.Unreported (g : Graph) (h : List Exchange) (l : Level) (v : GraphNode) (d : Direction)
    (name : String) : Prop :=
  ∃ n : Nat, ∃ spec id, ∃ ports : PortList, (visited NodeKind.isModule g.steps)[n]? = some (l, v) ∧
    v.kind = .processing spec ∧
    (createdModules h)[n]? = some (spec, id) ∧ (reportedPorts h)[n]? = some (id, ports) ∧
    ∀ p ∈ ports.ports d, p.name ≠ name

/-- The only errors that are not about the engine or its physical ports, and when they occur. -/
def CompileError.Explained (g : Graph) (h : List Exchange) : CompileError → Prop
  | .mainOutOfRange .. | .engine _ => True
  | .unresolvedNode level link key => level = 0 ∧ ∃ k ∈ g.root.links, k.id = link ∧
      ¬ g.root.LeavesOut k ∧ (∃ e, k.node e = key) ∧
      ∃ v ∈ g.root.nodes, v.key = key ∧ ∃ d, (v.kind.passThrough? d).isSome
  | .unresolvedPort level link key d slot => ∃ l ∈ g.levels, l.id = level ∧ ∃ k ∈ l.links,
      k.id = link ∧ ∃ e, k.node e = key ∧ k.slot e = slot ∧ e.direction = d ∧
      ∃ v ∈ l.nodes, v.key = key ∧ ∃ name, (v.names d)[slot]? = some name ∧
        g.Unreported h l v d name
  | .unaddressable .. | .binding _ => False

/-- The history tells of the modules that were made, in the order of their nodes. -/
structure Told (done : List BuildStep) (s : Session (σ × List Exchange)) : Prop where
  length_eq : (createdModules s.engine.2).length = (reportedPorts s.engine.2).length
  modules : List.Forall₂
    (fun v x => v.2.kind = .processing x.1.1 ∧ x.1.2 = x.2.1 ∧
      ∃ bus, s.bindings.node? v.2.key = some (v.2.moduleBinding bus ⟨x.2.1, x.2.2⟩))
    (visited NodeKind.isModule done)
    ((createdModules s.engine.2).zip (reportedPorts s.engine.2))

namespace Engine

variable {σ : Type} (engine : Engine σ)

lemma newBus_logged (parent title : String) (inputs outputs : List String)
    (e : σ × List Exchange) :
    Ends (engine.logged.newBus parent title inputs outputs) e
      (fun _ e' => createdModules e'.2 = createdModules e.2 ∧
        reportedPorts e'.2 = reportedPorts e.2)
      (fun _ _ => True) := by
  refine (engine.newBus_asked parent title inputs outputs e).imp ?_ fun _ _ _ => trivial
  rintro ids e' ⟨-, ports, he, -⟩
  rw [he]
  simp [createdModules, reportedPorts, Exchange.created?, Exchange.reported?]

/-- A module that is made is in the log with the ports that were reported of it. -/
lemma newModule_logged (bus : String) (spec : ModuleSpec) (e : σ × List Exchange) :
    Ends (engine.logged.newModule bus spec) e
      (fun ids e' => createdModules e'.2 = createdModules e.2 ++ [(spec, ids.id)] ∧
        reportedPorts e'.2 = reportedPorts e.2 ++ [(ids.id, ids.ports)])
      (fun _ _ => True) := by
  refine (engine.newModule_asked bus spec e).imp ?_ fun _ _ _ => trivial
  rintro ids e' ⟨-, he, -⟩
  rw [he]
  simp only [createdModules, reportedPorts, List.filterMap_append, List.append_assoc]
  exact ⟨rfl, rfl⟩

end Engine

/-! ### The history tells of modules -/

namespace Told

variable {σ : Type} {g : Graph} {mains : MainPorts} {before : List BuildStep}
  {s s' : Session (σ × List Exchange)} {l : Level} {v : GraphNode}

/-- A step that makes no module keeps what the history tells. -/
lemma concat_other (h : Told before s) {t : BuildStep}
    (ht : ∀ l v, t = .visit l v → v.kind.isModule = false)
    (hb : s.bindings.Extends s'.bindings)
    (hcreated : createdModules s'.engine.2 = createdModules s.engine.2)
    (hreported : reportedPorts s'.engine.2 = reportedPorts s.engine.2) :
    Told (before ++ [t]) s' where
  length_eq := by rw [hcreated, hreported, h.length_eq]
  modules := by
    rw [visited_concat_other ht, hcreated, hreported]
    refine h.modules.imp ?_
    rintro w x ⟨hkind, hid, bus, hbound⟩
    exact ⟨hkind, hid, bus, hb.node hbound⟩

/-- The history tells of a module that is made. -/
lemma step_module (engine : Engine σ) (hg : g.WellFormed) (hn : g.Next before (.visit l v))
    (hs : Recorded g mains before s) (h : Told before s) {spec : ModuleSpec}
    (hv : v.kind = .processing spec) :
    Ends (Compiler.perform engine.logged (.visit l v)) s
      (fun _ s' => Told (before ++ [.visit l v]) s') (fun _ _ => True) := by
  rw [hs.perform_module_iff _ hg hn hv]
  refine (engine.newModule_logged _ _ _).imp ?_ fun _ _ => id
  rintro ids e ⟨hcreated, hreported⟩
  have hfree := hs.free_module hg hn hv
  have hbind := Bindings.bindNode_of_none hfree (v.moduleBinding (s.bindings.busOf l) ids)
  have hb := Bindings.bindNode_extends hbind
  constructor
  · change (createdModules e.2).length = (reportedPorts e.2).length
    rw [hcreated, hreported, List.length_append, List.length_append, h.length_eq]
    rfl
  · change List.Forall₂ _ _ ((createdModules e.2).zip (reportedPorts e.2))
    rw [hcreated, hreported, List.zip_append h.length_eq,
      visited_concat (NodeKind.isModule_iff.mpr ⟨spec, hv⟩)]
    refine forall₂_concat (h.modules.imp ?_) ⟨hv, rfl, s.bindings.busOf l, ?_⟩
    · rintro w x ⟨hkind, hid, bus, hbound⟩
      exact ⟨hkind, hid, bus, hb.node hbound⟩
    · exact Bindings.node?_cons v.key v.key _ |>.trans (if_pos rfl)

/-- Whatever the engine answers, the history goes on telling of the modules that are made. -/
lemma step (engine : Engine σ) (hg : g.WellFormed) {t : BuildStep} (hn : g.Next before t)
    (hs : Recorded g mains before s) (h : Told before s) :
    Ends (Compiler.perform engine.logged t) s (fun _ s' => Told (before ++ [t]) s')
      (fun _ _ => True) := by
  -- only the visit of a module adds to what is told
  cases t with
  | enter l => exact h.concat_other (by simp) (.refl _) rfl rfl
  | visit l v =>
    cases hv : v.kind with
    | busAdd title =>
      rw [hs.perform_bus_iff _ hg hn hv]
      refine (engine.newBus_logged _ _ _ _ _).imp ?_ fun _ _ => id
      rintro ids e ⟨hcreated, hreported⟩
      exact h.concat_other (by rintro _ _ ⟨⟩; simp [NodeKind.isModule, hv])
        (hs.freeFor hg hn hv).extends hcreated hreported
    | processing spec => exact h.step_module engine hg hn hs hv
    | unsupported tag =>
      rw [Recorded.perform_unsupported_iff _ hv]
      exact h.concat_other (by rintro _ _ ⟨⟩; simp [NodeKind.isModule, hv]) (.refl _) rfl rfl
    | mainInputs | mainOutputs | busInput | busOutput =>
      rw [Recorded.perform_idle_iff _ (by simp [hv]) (by simp [hv]) (by simp [hv])]
      exact h.concat_other (by rintro _ _ ⟨⟩; simp [NodeKind.isModule, hv]) (.refl _) rfl rfl
  | connect l k =>
    rw [hs.perform_link_iff _ hg hn]
    split
    · exact h.concat_other (by simp) (.refl _) rfl rfl
    · split
      · trivial
      · refine (engine.ask_logged _ _).imp ?_ fun _ _ _ => trivial
        intro id e he
        have hbind := Bindings.bindConnection_of_none (hs.free_link hg hn) k.id id
        refine h.concat_other (by simp) (Bindings.bindConnection_extends hbind) ?_ ?_
        · change createdModules e.2 = _
          rw [he]
          simp [createdModules, Exchange.created?]
        · change reportedPorts e.2 = _
          rw [he]
          simp [reportedPorts, Exchange.reported?]

end Told

/-! ### Every error is explained -/

section Explained

variable {σ : Type} {g : Graph} {mains : MainPorts} {before : List BuildStep}
  {s : Session (σ × List Exchange)} {l : Level} {k : GraphLink} {e : LinkEnd} {v : GraphNode}

/-- The exchanges about a module that was visited stand at its place in the history. -/
lemma Told.exchanges (h : Told before s) {t : BuildStep} (hn : g.Next before t)
    {spec : ModuleSpec} (hkind : v.kind = .processing spec) (hvisit : .visit l v ∈ before) :
    ∃ n : Nat, ∃ id bus, ∃ ports : PortList, (visited NodeKind.isModule g.steps)[n]? = some (l, v) ∧
      (createdModules s.engine.2)[n]? = some (spec, id) ∧
      (reportedPorts s.engine.2)[n]? = some (id, ports) ∧
      s.bindings.node? v.key = some (v.moduleBinding bus ⟨id, ports⟩) := by
  have hmem := mem_visited.mpr ⟨hvisit, NodeKind.isModule_iff.mpr ⟨spec, hkind⟩⟩
  obtain ⟨n, hv⟩ := List.mem_iff_getElem?.mp hmem
  obtain ⟨⟨⟨spec', id⟩, id', ports⟩, hx, hspec, hid, bus, hbound⟩ := forall₂_getElem? h.modules hv
  obtain rfl : id = id' := hid
  obtain ⟨hcreated, hreported⟩ := List.getElem?_zip_eq_some.mp hx
  rw [hkind] at hspec
  cases hspec
  refine ⟨n, id, bus, ports, ?_, hcreated, hreported, hbound⟩
  obtain ⟨after, hsteps⟩ := hn
  rw [visited, hsteps, List.filterMap_append]
  exact List.getElem?_append_left (List.getElem?_eq_some_iff.mp hv).1 |>.trans hv

/-- An end of a link that has no address is explained. -/
lemma explained_of_resolveEnd (hg : g.WellFormed) (hs : Recorded g mains before s)
    (h : Told before s) (hn : g.Next before (.connect l k)) (hkeep : ¬ l.LeavesOut k)
    {err : CompileError} (herr : resolveEnd l s.bindings k e = .error err) :
    err.Explained g s.engine.2 := by
  obtain ⟨hl, hk, ⟨-, hvisited⟩, -⟩ := hn.linkable hg
  obtain ⟨v, hv, hkey, hres⟩ := hs.exists_resolution hg (hn.linkable hg) hkeep e
  rw [herr] at hres
  cases hres with
  | outside d hpass hroot =>
    subst hroot
    exact ⟨hg.root_id, k, hk, rfl, hkeep, ⟨e, hkey.symm⟩, v, hv, rfl, d, hpass⟩
  | module spec name _ hspec hname hresult =>
    obtain ⟨n, id, bus, ports, hnode, hcreated, hreported, hbound⟩ :=
      h.exchanges hn hspec (hvisited v hv)
    obtain ⟨hnone, rfl⟩ := moduleEnd_eq_error_iff.mp (hresult bus ⟨id, ports⟩ hbound).symm
    exact ⟨l, hl, rfl, k, hk, rfl, e, hkey.symm, rfl, rfl, v, hv, rfl, name, hname, n, spec, id,
      ports, hnode, hspec, hcreated, hreported, hnone⟩

/-- A step that fails has an error that is explained. -/
lemma perform_explained (engine : Engine σ) (hg : g.WellFormed)
    (hs : Recorded g mains before s) (h : Told before s) {t : BuildStep} (hn : g.Next before t) :
    Ends (Compiler.perform engine.logged t) s (fun _ _ => True)
      (fun err s' => err.Explained g s'.engine.2) := by
  cases t with
  | enter l => trivial
  | visit l v =>
    cases hv : v.kind with
    | busAdd title =>
      rw [hs.perform_bus_iff _ hg hn hv]
      exact Ends.of_all (fun _ _ => trivial) fun _ _ => trivial
    | processing spec =>
      rw [hs.perform_module_iff _ hg hn hv]
      exact Ends.of_all (fun _ _ => trivial) fun _ _ => trivial
    | unsupported tag =>
      rw [Recorded.perform_unsupported_iff _ hv]
      trivial
    | mainInputs | mainOutputs | busInput | busOutput =>
      rw [Recorded.perform_idle_iff _ (by simp [hv]) (by simp [hv]) (by simp [hv])]
      trivial
  | connect l k =>
    rw [hs.perform_link_iff _ hg hn]
    split
    · trivial
    · rename_i hskip
      -- a link that is not skipped touches no unsupported node, so its ends are looked up
      have hkeep := (hs.skippedEnd?_eq_none hg hn).mp hskip
      split
      · rename_i err haddr
        obtain ⟨e, herr⟩ := linkAddresses_error haddr
        exact explained_of_resolveEnd hg hs h hn hkeep herr
      · exact Ends.of_all (fun _ _ => trivial) fun _ _ => trivial

end Explained

/-- The node that an end of a link could not be resolved at. -/
def CompileError.unresolved? : CompileError → Option NodeKey
  | .unresolvedNode _ _ key | .unresolvedPort _ _ key _ _ | .unaddressable _ _ key => some key
  | _ => none

/-- Physical ports, buses and the ports inside of a bus. -/
def Graph.AlwaysResolved (g : Graph) (l : Level) (v : GraphNode) : Prop :=
  v.kind.mainSlots?.isSome ∨ (∃ title, v.kind = .busAdd title) ∨
    l ≠ g.root ∧ ∃ d, (v.kind.passThrough? d).isSome

/-- Ends of links at physical ports, buses and ports inside of a bus never are the reason why a
compilation failed. -/
lemma CompileError.Explained.resolved {g : Graph} (hg : g.WellFormed) {h : List Exchange}
    {err : CompileError} (herr : err.Explained g h) {l : Level} {v : GraphNode}
    (hl : l ∈ g.levels) (hv : v ∈ l.nodes) (hres : g.AlwaysResolved l v) :
    err.unresolved? ≠ some v.key := by
  intro hkey
  cases err with
  | mainOutOfRange | engine | binding => cases hkey
  | unaddressable => exact herr
  | unresolvedNode level link key =>
    obtain ⟨-, -, -, -, -, -, w, hw, rfl, d, hpass⟩ := herr
    obtain ⟨rfl, rfl⟩ := hg.node_unique (Graph.WellFormed.root_mem g) hl hw hv
      (Option.some.inj hkey)
    rcases hres with hmain | ⟨title, hbus⟩ | ⟨hroot, -⟩
    · simp [NodeKind.mainSlots?_of_port hpass] at hmain
    · simp [hbus, NodeKind.passThrough?] at hpass
    · exact hroot rfl
  | unresolvedPort level link key d slot =>
    obtain ⟨m, hm, -, -, -, -, -, -, -, -, w, hw, rfl, name, -, -, spec, -, -, -, hspec, -⟩ := herr
    obtain ⟨rfl, rfl⟩ := hg.node_unique hm hl hw hv (Option.some.inj hkey)
    rcases hres with hmain | ⟨title, hbus⟩ | ⟨-, d', hpass⟩
    · simp [hspec, NodeKind.mainSlots?] at hmain
    · simp [hspec] at hbus
    · simp [hspec, NodeKind.passThrough?] at hpass

/-- Nothing is ever bound twice, and an end of a link lacks an address only at a pass-through of
the root or at a slot of a module that the engine reported no port for. -/
theorem compile_error_explained {σ : Type} {d : Document} {g : Graph}
    (hd : Graph.build d = .ok g) (engine : Engine σ) (state : σ) {err : CompileError}
    (herr : (compile engine g state).1 = .error err) :
    err.Explained g (history engine g state) ∧
      ∀ l ∈ g.levels, ∀ v ∈ l.nodes, g.AlwaysResolved l v → err.unresolved? ≠ some v.key := by
  have hg := Graph.build_wellFormed hd
  suffices h : err.Explained g (history engine g state) from
    ⟨h, fun l hl v hv hres => h.resolved hg hl hv hres⟩
  -- an engine that keeps its own history has the history in its state, where invariants see it
  have hlogged : (compile engine.logged g (state, [])).1 = .error err := by
    rw [compile_logged, herr]
  suffices hcompiles : Compiles engine.logged g (state, []) (fun _ _ => True)
      (fun err e => err.Explained g e.2) from hcompiles.fail_of_error hlogged
  -- the invariant is that what is bound for a module is what the log tells of it
  refine compiles hg (P := fun _ done s => Told done s) ?_ ?_ fun _ _ _ _ => trivial
  · refine (engine.ask_logged _ _).imp ?_ fun _ _ _ => trivial
    intro mains e he
    constructor
    · intro b _
      simp only [List.nil_append] at he
      refine ⟨?_, ?_⟩
      · rw [he]
        rfl
      · rw [he]
        exact .nil
    · rintro l - v - _ ⟨d, n, -, -, rfl⟩
      trivial
  · intro mains before t s hn hs htold
    exact ((htold.step engine hg hn hs).and (perform_explained engine hg hs htold hn)).imp
      (fun _ _ h => h.1) fun _ _ h => h.2

/-- A port of a bus outside of any bus, linked to a physical output. -/
def strayPort : Document where
  nodes :=
    [⟨1, "bus/input", none, [("name", .string "in")], none, none, none, []⟩,
      ⟨2, "main/outputs", none, [("ids", .array [.null])], none, none, none, []⟩]
  links := [⟨5, 1, 0, 2, 0, .null, .null, []⟩]
  busId := none
  extra := []

/-- An engine with one physical output that accepts nothing. -/
def bareEngine : Engine Unit
  | .listMain, s => (.ok ⟨[], ["out"]⟩, s)
  | .addBus .., s => (.error (.rejected "add_bus" "full"), s)
  | .listBusPorts _, s => (.error (.rejected "list_bus_port" "unknown bus"), s)
  | .addModule _ spec, s => (.error (.rejected spec.type.operation "full"), s)
  | .listModulePorts _, s => (.error (.rejected "list_module_port" "unknown module"), s)
  | .addConnection .., s => (.error (.rejected "add_connection" "unknown port"), s)

theorem strayPort_explained : ∃ g err, Graph.build strayPort = .ok g ∧
    (compile bareEngine g ()).1 = .error err ∧ err = .unresolvedNode 0 5 ⟨0, 1⟩ ∧
    (err.Explained g (history bareEngine g ()) ∧
      ∀ l ∈ g.levels, ∀ v ∈ l.nodes, g.AlwaysResolved l v → err.unresolved? ≠ some v.key) := by
  have hstray : Graph.build strayPort = .ok _ := rfl
  exact ⟨_, _, hstray, rfl, rfl, compile_error_explained hstray bareEngine () rfl⟩

end Patchbay
