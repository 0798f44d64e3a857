import Patchbay.Proofs.Compile.Recorded

/-!
# Ends of links

When a link is connected, what both of its nodes became is known. So an end has an address, unless
it is a pass-through that no bus is around, or a slot of a module that the engine reported no port
of that name for.
-/

namespace Patchbay

def GraphNode.names (v : GraphNode) : Direction → List String
  | .input => v.inputNames
  | .output => v.outputNames

/-- The direction of the physical ports at an end: a link leads from an input to an output. -/
def LinkEnd.mainDirection : LinkEnd → Direction
  | .origin => .input
  | .target => .output

def LinkEnd.moduleAddress (e : LinkEnd) (bus id port : String) : PortAddress :=
  match e with
  | .origin => .moduleOutput bus id port
  | .target => .moduleInput bus id port

/-- The address of a module's port of a name, if the engine reported one. -/
def moduleEnd (l : Level) (k : GraphLink) (e : LinkEnd) (v : GraphNode) (bus : String)
    (ids : ModuleIds) (name : String) : Except CompileError PortAddress :=
  match (ids.ports.ports e.direction).find? fun p => p.name = name with
  | some port => .ok (e.moduleAddress bus ids.id port.id)
  | none => .error (.unresolvedPort l.id k.id v.key e.direction (k.slot e))

/-- The address of an end of a link at a node, or why there is none. -/
inductive Resolution (g : Graph) (mains : MainPorts) (b : Bindings) (l : Level) (k : GraphLink)
    (e : LinkEnd) (v : GraphNode) : Except CompileError PortAddress → Prop
  | main (d : Direction) (n : Nat) (port : String) (hkind : v.kind.mainSlots? = some (d, n))
      (hend : e.mainDirection = d) (hport : (mains.ports d)[k.slot e]? = some port) :
      Resolution g mains b l k e v (.ok (.main port))
  | bus (title : String) (ids : BusIds) (port : String) (hkind : v.kind = .busAdd title)
      (hbus : b.HoldsBus v ids) (hport : (ids.ports e.direction)[k.slot e]? = some port) :
      Resolution g mains b l k e v (.ok (.bus ids.id port))
  | port (d : Direction) (m : Level) (w : GraphNode) (ids : BusIds) (port : String)
      (hkind : (v.kind.passThrough? d).isSome) (hm : m ∈ g.levels) (hw : w ∈ m.nodes)
      (hchild : w.child = some l) (hbus : b.HoldsBus w ids)
      (hport : (v.key.id, port) ∈ ids.pairs l) :
      Resolution g mains b l k e v (.ok (.bus ids.id port))
  | outside (d : Direction) (hkind : (v.kind.passThrough? d).isSome) (hroot : l = g.root) :
      Resolution g mains b l k e v (.error (.unresolvedNode l.id k.id v.key))
  | module (spec : ModuleSpec) (name : String) (r : Except CompileError PortAddress)
      (hkind : v.kind = .processing spec) (hname : (v.names e.direction)[k.slot e]? = some name)
      (hresult : ∀ bus ids, b.node? v.key = some (v.moduleBinding bus ids) →
        r = moduleEnd l k e v bus ids name) : Resolution g mains b l k e v r

/-! ### What a node offers to links -/

/-- What is no bus, no module and not left out stands for physical ports or for a port of the bus.
-/
lemma NodeKind.main_or_port (kind : NodeKind) (hbus : ∀ title, kind ≠ .busAdd title)
    (hmodule : ∀ spec, kind ≠ .processing spec) (hskip : ∀ tag, kind ≠ .unsupported tag) :
    (∃ d n, kind.mainSlots? = some (d, n)) ∨ ∃ d, (kind.passThrough? d).isSome := by
  cases kind with
  | mainInputs n => exact .inl ⟨.input, n, rfl⟩
  | mainOutputs n => exact .inl ⟨.output, n, rfl⟩
  | busInput name => exact .inr ⟨.input, rfl⟩
  | busOutput name => exact .inr ⟨.output, rfl⟩
  | busAdd title => exact (hbus title rfl).elim
  | processing spec => exact (hmodule spec rfl).elim
  | unsupported tag => exact (hskip tag rfl).elim

section Slots

variable {v : GraphNode} (e : LinkEnd)

/-- Physical inputs are where links begin, and physical outputs where they end. -/
lemma GraphNode.slots_main {d : Direction} {n : Nat} (h : v.kind.mainSlots? = some (d, n)) :
    v.slots e = if e.mainDirection = d then .below n else .none := by
  obtain ⟨key, kind⟩ := v
  obtain ⟨rfl, rfl⟩ | ⟨rfl, rfl⟩ := NodeKind.mainSlots?_cases h <;> cases e <;> rfl

lemma GraphNode.slots_port {d : Direction} (h : (v.kind.passThrough? d).isSome) :
    v.slots e = if e.mainDirection = d then .any else .none := by
  obtain ⟨key, kind⟩ := v
  obtain ⟨rfl, name, rfl⟩ | ⟨rfl, name, rfl⟩ := NodeKind.passThrough?_cases h <;> cases e <;> rfl

lemma GraphNode.mainDirection_of_main {e : LinkEnd} {d : Direction} {n : Nat}
    (h : v.kind.mainSlots? = some (d, n)) (hslots : v.slots e ≠ .none) : e.mainDirection = d := by
  by_contra hend
  exact hslots (by rw [v.slots_main e h, if_neg hend])

lemma GraphNode.mainDirection_of_port {e : LinkEnd} {d : Direction}
    (h : (v.kind.passThrough? d).isSome) (hslots : v.slots e ≠ .none) : e.mainDirection = d := by
  by_contra hend
  exact hslots (by rw [v.slots_port e h, if_neg hend])

lemma GraphNode.slots_bus {title : String} (h : v.kind = .busAdd title) :
    v.slots e = .below (childPortNames v.child e.direction).length := by
  obtain ⟨key, kind, inputs, outputs, child⟩ := v
  obtain rfl := h
  cases child with
  | none => rfl
  | some l => exact congrArg Slots.below (l.length_portNames e.direction).symm

lemma GraphNode.slots_module {spec : ModuleSpec} (h : v.kind = .processing spec) :
    v.slots e = .below (v.names e.direction).length := by
  obtain ⟨key, kind⟩ := v
  obtain rfl := h
  cases e <;> rfl

end Slots

/-! ### Addresses of what a node became -/

section Addresses

variable {l : Level} {b : Bindings} {k : GraphLink} {e : LinkEnd} {v : GraphNode}

/-- An end at physical ports is at the one that the slot counts to. -/
lemma resolveEnd_main {ids : List String} {port : String} {d : Direction} {n : Nat}
    (hnode : l.node? (k.node e).id = some v) (hb : b.node? (k.node e) = some (.mains ids))
    (hkind : v.kind.mainSlots? = some (d, n)) (hend : e.mainDirection = d)
    (hport : ids[k.slot e]? = some port) : resolveEnd l b k e = .ok (.main port) := by
  obtain ⟨rfl, hv⟩ | ⟨rfl, hv⟩ := NodeKind.mainSlots?_cases hkind
  all_goals
    cases e <;> cases hend
    simp [resolveEnd, hnode, hb, hv, hport]

/-- An end at a bus is at the port that the slot counts to. -/
lemma resolveEnd_bus {ids : BusIds} {port title : String}
    (hnode : l.node? (k.node e).id = some v)
    (hb : b.node? (k.node e) = some (.bus ids.id ids.inputs ids.outputs))
    (hkind : v.kind = .busAdd title) (hport : (ids.ports e.direction)[k.slot e]? = some port) :
    resolveEnd l b k e = .ok (.bus ids.id port) := by
  cases e
  · have hport : ids.outputs[k.slot .origin]? = some port := hport
    simp [resolveEnd, hnode, hb, hkind, hport]
  · have hport : ids.inputs[k.slot .target]? = some port := hport
    simp [resolveEnd, hnode, hb, hkind, hport]

/-- An end at a pass-through is at the port that it is bound to. -/
lemma resolveEnd_port {bus port : String} {d : Direction}
    (hnode : l.node? (k.node e).id = some v)
    (hb : b.node? (k.node e) = some (.busPort bus port))
    (hkind : (v.kind.passThrough? d).isSome) (hend : e.mainDirection = d) :
    resolveEnd l b k e = .ok (.bus bus port) := by
  obtain ⟨rfl, name, hv⟩ | ⟨rfl, name, hv⟩ := NodeKind.passThrough?_cases hkind
  all_goals
    cases e <;> cases hend
    simp [resolveEnd, hnode, hb, hv]

lemma resolveEnd_unbound (hb : b.node? (k.node e) = none) :
    resolveEnd l b k e = .error (.unresolvedNode l.id k.id (k.node e)) := by
  simp only [resolveEnd, hb]
  split
  · cases ‹none = some _›
  · rfl

/-- A slot is matched by name with the first port that has it. -/
lemma getElem?_matchPorts (reported : List Port) (names : List String) (n : Nat) :
    (matchPorts reported names)[n]?.join
      = names[n]?.bind fun name => (reported.find? fun p => p.name = name).map Port.id := by
  rw [matchPorts, List.getElem?_map]
  cases names[n]? <;> rfl

lemma moduleEnd_eq_ok_iff {bus : String} {ids : ModuleIds} {name : String} {a : PortAddress} :
    moduleEnd l k e v bus ids name = .ok a ↔
      ∃ port, (ids.ports.ports e.direction).find? (fun p => p.name = name) = some port ∧
        a = e.moduleAddress bus ids.id port.id := by
  unfold moduleEnd
  cases (ids.ports.ports e.direction).find? fun p => p.name = name with
  | none => simp
  | some port => simp [eq_comm]

/-- An end at a module has no address just if no port that was reported has the name of the slot. -/
lemma moduleEnd_eq_error_iff {bus : String} {ids : ModuleIds} {name : String}
    {err : CompileError} :
    moduleEnd l k e v bus ids name = .error err ↔
      (∀ p ∈ ids.ports.ports e.direction, p.name ≠ name) ∧
        err = .unresolvedPort l.id k.id v.key e.direction (k.slot e) := by
  unfold moduleEnd
  cases h : (ids.ports.ports e.direction).find? fun p => p.name = name with
  | none =>
    have hnone : ∀ p ∈ ids.ports.ports e.direction, p.name ≠ name := by simpa using h
    constructor
    · rintro ⟨⟩
      exact ⟨hnone, rfl⟩
    · rintro ⟨-, rfl⟩
      rfl
  | some port =>
    have hname : port.name = name := by simpa using List.find?_some h
    constructor
    · rintro ⟨⟩
    · rintro ⟨hnone, -⟩
      exact (hnone port (List.mem_of_find?_eq_some h) hname).elim

/-- An end at a module has an address just if a port of its name was reported. -/
lemma exists_moduleEnd_iff {bus : String} {ids : ModuleIds} {name : String} :
    (∃ a, moduleEnd l k e v bus ids name = .ok a) ↔
      name ∈ (ids.ports.ports e.direction).map Port.name := by
  simp only [List.mem_map]
  constructor
  · rintro ⟨a, ha⟩
    obtain ⟨port, hport, -⟩ := moduleEnd_eq_ok_iff.mp ha
    exact ⟨port, List.mem_of_find?_eq_some hport, by simpa using List.find?_some hport⟩
  · rintro ⟨port, hmem, hname⟩
    cases hr : moduleEnd l k e v bus ids name with
    | ok a => exact ⟨a, rfl⟩
    | error err => exact ((moduleEnd_eq_error_iff.mp hr).1 port hmem hname).elim

/-- An end at a module is found by the name that the slot declares. -/
lemma resolveEnd_module {bus : String} {ids : ModuleIds} {spec : ModuleSpec}
    (hnode : l.node? (k.node e).id = some v) (hkey : v.key = k.node e)
    (hb : b.node? v.key = some (v.moduleBinding bus ids)) (hkind : v.kind = .processing spec)
    {name : String} (hname : (v.names e.direction)[k.slot e]? = some name) :
    resolveEnd l b k e = moduleEnd l k e v bus ids name := by
  rw [hkey] at hb
  cases e
  · have hname : v.outputNames[k.slot .origin]? = some name := hname
    simp only [resolveEnd, hnode, hb, hkind, GraphNode.moduleBinding, getElem?_matchPorts, hname,
      Option.bind_some, moduleEnd, hkey, LinkEnd.direction, PortList.ports, LinkEnd.moduleAddress]
    cases ids.ports.outputs.find? fun p => p.name = name <;> rfl
  · have hname : v.inputNames[k.slot .target]? = some name := hname
    simp only [resolveEnd, hnode, hb, hkind, GraphNode.moduleBinding, getElem?_matchPorts, hname,
      Option.bind_some, moduleEnd, hkey, LinkEnd.direction, PortList.ports, LinkEnd.moduleAddress]
    cases ids.ports.inputs.find? fun p => p.name = name <;> rfl

end Addresses

/-! ### Ends of links whose nodes were visited -/

/-- All that the ends of a link can be was visited. -/
structure Graph.Linkable (g : Graph) (done : List BuildStep) (l : Level) (k : GraphLink) :
    Prop where
  level_mem : l ∈ g.levels
  link_mem : k ∈ l.links
  ready : (BuildStep.connect l k).Ready done
  subset : done ⊆ g.steps

lemma Graph.Next.linkable {g : Graph} (hg : g.WellFormed) {before : List BuildStep} {l : Level}
    {k : GraphLink} (hn : g.Next before (.connect l k)) : g.Linkable before l k :=
  ⟨(Graph.connect_mem_steps.mp hn.mem).1, (Graph.connect_mem_steps.mp hn.mem).2, hn.ready hg,
    hn.subset⟩

/-- In the end everything was visited. -/
lemma Graph.WellFormed.linkable {g : Graph} (hg : g.WellFormed) {l : Level} {k : GraphLink}
    (hl : l ∈ g.levels) (hk : k ∈ l.links) : g.Linkable g.steps l k :=
  ⟨hl, hk, ⟨hg.heldIn_steps hl, fun _ hv => Graph.visit_mem_steps.mpr ⟨hl, hv⟩⟩,
    List.Subset.refl _⟩

namespace Recorded

variable {σ : Type} {g : Graph} {mains : MainPorts} {done : List BuildStep} {s : Session σ}
  {l : Level} {k : GraphLink} {e : LinkEnd} {v : GraphNode}

/-- The bus around a level is bound once it was visited. -/
lemma exists_bus_around (hg : g.WellFormed) (hs : Recorded g mains done s) (hheld : l.HeldIn done)
    (hsub : done ⊆ g.steps) {key : NodeKey} (hparent : l.parent = some key) :
    ∃ m ∈ g.levels, ∃ w ∈ m.nodes, w.child = some l ∧ ∃ ids, s.bindings.HoldsBus w ids := by
  obtain ⟨m, hm, w, hw, hvisit, hchild, -, title, hkind⟩ := hheld.exists_bus hg hsub hparent
  exact ⟨m, hm, w, hw, hchild, hs.bus m w title hvisit hkind⟩

/-- A pass-through of the root stays unbound. -/
lemma free_port_of_root (hg : g.WellFormed) (hs : Recorded g mains done s)
    (hsub : done ⊆ g.steps) (hv : v ∈ g.root.nodes) {d : Direction}
    (hpass : (v.kind.passThrough? d).isSome) : s.bindings.node? v.key = none := by
  refine hs.free_of_not_boundBy (Graph.WellFormed.root_mem g) hv fun h => ?_
  obtain ⟨m, w, hvisit, hchild⟩ := h.owner_visited hpass
  obtain ⟨hm, hw⟩ := Graph.visit_mem_steps.mp (hsub hvisit)
  exact hg.child_ne_root hm hw hchild

/-- What an end of a link that is connected is resolved to. -/
theorem resolution (hg : g.WellFormed) (hs : Recorded g mains done s)
    (hk : g.Linkable done l k) (hkeep : ¬ l.LeavesOut k) (hvl : v ∈ l.nodes)
    (hkey : v.key = k.node e) :
    Resolution g mains s.bindings l k e v (resolveEnd l s.bindings k e) := by
  have hkind : ∀ tag, v.kind ≠ .unsupported tag :=
    fun tag htag => hkeep ⟨e, v, hvl, hkey, tag, htag⟩
  obtain ⟨hl, hlink, ⟨hheld, hvisited⟩, hsub⟩ := hk
  obtain ⟨w, hw, hwkey, hnode, hslots⟩ := hg.exists_end hl hlink e
  obtain ⟨-, rfl⟩ := hg.node_unique hl hl hw hvl (hwkey.trans hkey.symm)
  have hbelow : ∀ {n}, w.slots e = .below n → k.slot e < n := by
    intro n hn
    simpa [hn] using hslots
  have hoffers : w.slots e ≠ .none := by
    intro hn
    simp [hn] at hslots
  -- by what the node is: a bus, a module, or else for physical ports or a port of the bus around
  by_cases hbus : ∃ title, w.kind = .busAdd title
  · obtain ⟨title, hbus⟩ := hbus
    obtain ⟨ids, hids⟩ := hs.bus l w title (hvisited w hw) hbus
    have hslot := hbelow (w.slots_bus e hbus)
    rw [← hids.length_ports] at hslot
    have hport := List.getElem?_eq_getElem hslot
    rw [resolveEnd_bus hnode (hwkey ▸ hids.own) hbus hport]
    exact .bus title ids _ hbus hids hport
  by_cases hmodule : ∃ spec, w.kind = .processing spec
  · obtain ⟨spec, hmodule⟩ := hmodule
    have hname := List.getElem?_eq_getElem (hbelow (w.slots_module e hmodule))
    refine .module spec _ _ hmodule hname fun bus ids hids => ?_
    exact resolveEnd_module (hwkey ▸ hnode) hwkey hids hmodule hname
  rcases w.kind.main_or_port (fun t ht => hbus ⟨t, ht⟩) (fun t ht => hmodule ⟨t, ht⟩) hkind with
    ⟨d, n, hmain⟩ | ⟨d, hpass⟩
  · have hend := w.mainDirection_of_main hmain hoffers
    have hn : w.slots e = .below n := by rw [w.slots_main e hmain, if_pos hend]
    have hlt := (hbelow hn).trans_le (hs.slots_le l hl w hw d n hmain)
    have hport := List.getElem?_eq_getElem hlt
    have hbound := hs.main l hl w hw d n hmain
    rw [resolveEnd_main hnode (hwkey ▸ hbound) hmain hend
      ((List.getElem?_take_of_lt (hbelow hn)).trans hport)]
    exact .main d n _ hmain hend hport
  · have hend := w.mainDirection_of_port hpass hoffers
    -- a pass-through is bound by the bus around its level, and nothing is around the root
    cases hparent : l.parent with
    | none =>
      have hroot := hg.eq_root_of_parent hl hparent
      have hfree := hs.free_port_of_root hg hsub (hroot ▸ hw) hpass
      rw [resolveEnd_unbound (hwkey ▸ hfree), ← hwkey]
      exact .outside d hpass hroot
    | some key =>
      obtain ⟨m, hm, w', hw', hchild, ids, hids⟩ := hs.exists_bus_around hg hheld hsub hparent
      obtain ⟨port, hport, hbound⟩ := hids.exists_port hchild (hg.fits l hl) hw hpass
      rw [resolveEnd_port hnode (hwkey ▸ hbound) hpass hend]
      exact .port d m w' ids port hpass hm hw' hchild hids hport

/-- Both ends of a link that is connected stand at nodes, and are resolved there. -/
lemma exists_resolution (hg : g.WellFormed) (hs : Recorded g mains done s)
    (hk : g.Linkable done l k) (hkeep : ¬ l.LeavesOut k) (e : LinkEnd) :
    ∃ v ∈ l.nodes, v.key = k.node e ∧
      Resolution g mains s.bindings l k e v (resolveEnd l s.bindings k e) := by
  obtain ⟨v, hv, hkey, -⟩ := hg.exists_end hk.level_mem hk.link_mem e
  exact ⟨v, hv, hkey, hs.resolution hg hk hkeep hv hkey⟩

end Recorded

/-! ### Both addresses of a link -/

/-- A link has no addresses because one of its ends has none. -/
lemma linkAddresses_error {l : Level} {b : Bindings} {k : GraphLink} {err : CompileError}
    (h : Compiler.linkAddresses l b k = .error err) : ∃ e, resolveEnd l b k e = .error err := by
  unfold Compiler.linkAddresses at h
  cases ho : resolveEnd l b k .origin with
  | error err' =>
    rw [ho] at h
    cases h
    exact ⟨.origin, ho⟩
  | ok origin =>
    cases ht : resolveEnd l b k .target with
    | error err' =>
      rw [ho, ht] at h
      cases h
      exact ⟨.target, ht⟩
    | ok target =>
      rw [ho, ht] at h
      cases h

lemma linkAddresses_ok {l : Level} {b : Bindings} {k : GraphLink} {origin target : PortAddress}
    (h : Compiler.linkAddresses l b k = .ok (origin, target)) :
    resolveEnd l b k .origin = .ok origin ∧ resolveEnd l b k .target = .ok target := by
  obtain ⟨a, ho, h⟩ := bind_eq_ok_iff.mp h
  obtain ⟨c, ht, h⟩ := bind_eq_ok_iff.mp h
  cases h
  exact ⟨ho, ht⟩

end Patchbay
