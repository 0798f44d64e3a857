import Patchbay.Proofs.Compile.Links
import Patchbay.Proofs.Compile.Whole
import Patchbay.Proofs.Engine.Exchanges
import Patchbay.Proofs.Lists

/-!
# What is asked of an engine

Whatever an engine answers, and however a compilation ends, each request was allowed after the
exchanges before it: it is its turn, the buses and modules that it is about were made before, and
its texts are put together from what the engine answered about just these.
-/

namespace Patchbay

/-! ### Whose turn it is -/

def BuildStep.makes : BuildStep → Bool
  | enter _ => false
  | visit _ v => v.kind.isBus || v.kind.isModule
  | connect l k => ¬ l.LeavesOut k

/-- The step that the next request to make something is for, after some exchanges. Such requests
come in the order of the steps. -/
def Graph.turn? (g : Graph) (h : List Exchange) : Option BuildStep :=
  (g.steps.filter BuildStep.makes)[h.countP (·.request.makes)]?

/-- Some exchanges took place, one right after the other, when it was the turn of a step. -/
def Graph.Exchanged (g : Graph) (h : List Exchange) (t : BuildStep) (xs : List Exchange) : Prop :=
  ∃ before after, h = before ++ xs ++ after ∧ g.turn? before = some t

/-! ### What was made -/

/-- A bus was made for a node, and its ports were listed. -/
structure Graph.BusMade (g : Graph) (h : List Exchange) (l : Level) (v : GraphNode) (ids : BusIds) :
    Prop where
  exchanged : ∃ parent title inputs outputs ports, g.Exchanged h (.visit l v)
    [⟨.addBus parent title inputs outputs, .ok ids.id⟩, ⟨.listBusPorts ids.id, .ok ports⟩] ∧
    ∀ d, ids.ports d = (ports.ports d).map Port.id
  isOpaque_id : isOpaque ids.id = true
  isOpaque_port : ∀ d, ∀ id ∈ ids.ports d, isOpaque id = true

/-- A module was made for a node, and its ports were listed. -/
structure Graph.ModuleMade (g : Graph) (h : List Exchange) (l : Level) (v : GraphNode)
    (ids : ModuleIds) : Prop where
  exchanged : ∃ bus spec, g.Exchanged h (.visit l v)
    [⟨.addModule bus spec, .ok ids.id⟩, ⟨.listModulePorts ids.id, .ok ids.ports⟩]
  isOpaque_id : isOpaque ids.id = true
  isOpaque_port : ∀ d, ∀ p ∈ ids.ports.ports d, isOpaque p.id = true

def Graph.ConnectionMade (g : Graph) (h : List Exchange) (l : Level) (k : GraphLink) : Prop :=
  ∃ origin target id, g.Exchanged h (.connect l k) [⟨.addConnection origin target, .ok id⟩]

def Graph.NodeMade (g : Graph) (h : List Exchange) (l : Level) (v : GraphNode) : Prop :=
  match v.kind with
  | .busAdd _ => ∃ ids, g.BusMade h l v ids
  | .processing _ => ∃ ids, g.ModuleMade h l v ids
  | .mainInputs _ | .mainOutputs _ | .busInput _ | .busOutput _ | .unsupported _ => True

/-- The bus that a level's nodes are made in: none at level 0, and else the one that was made for
the node that holds the level. -/
def Graph.Encloses (g : Graph) (h : List Exchange) (l : Level) (bus : String) : Prop :=
  if l.id = 0 then bus = ""
  else ∃ m ∈ g.levels, ∃ w ∈ m.nodes, w.child = some l ∧ ∃ ids, g.BusMade h m w ids ∧ bus = ids.id

/-- All nodes of a level were made, and all that lies in its buses was made and connected. -/
structure Graph.Settled (g : Graph) (h : List Exchange) (l : Level) : Prop where
  node : ∀ m ∈ l.flatten, ∀ v ∈ m.nodes, g.NodeMade h m v
  link : ∀ m ∈ Level.flattenNodes l.nodes, ∀ k ∈ m.links, ¬ m.LeavesOut k → g.ConnectionMade h m k

/-- Everything in a graph was made, apart from links that are left out. -/
structure Graph.AllMade (g : Graph) (h : List Exchange) : Prop where
  node : ∀ l ∈ g.levels, ∀ v ∈ l.nodes, g.NodeMade h l v
  link : ∀ l ∈ g.levels, ∀ k ∈ l.links, ¬ l.LeavesOut k → g.ConnectionMade h l k

/-- The address of an end of a link at a node, from what the engine answered about this node, or
about the bus around it. -/
inductive Graph.AddressOf (g : Graph) (h : List Exchange) (l : Level) (k : GraphLink) (e : LinkEnd)
    (v : GraphNode) : PortAddress → Prop
  | main (d : Direction) (n : Nat) (mains : MainPorts) (rest : List Exchange) (port : String)
      (hkind : v.kind.mainSlots? = some (d, n)) (hend : e.mainDirection = d)
      (hmains : h = ⟨.listMain, .ok mains⟩ :: rest)
      (hport : (mains.ports d)[k.slot e]? = some port) : AddressOf g h l k e v (.main port)
  | bus (title : String) (ids : BusIds) (port : String) (hkind : v.kind = .busAdd title)
      (hmade : g.BusMade h l v ids) (hport : (ids.ports e.direction)[k.slot e]? = some port) :
      AddressOf g h l k e v (.bus ids.id port)
  | port (d : Direction) (m : Level) (w : GraphNode) (ids : BusIds) (port : String)
      (hkind : (v.kind.passThrough? d).isSome) (hm : m ∈ g.levels) (hw : w ∈ m.nodes)
      (hchild : w.child = some l) (hmade : g.BusMade h m w ids)
      (hport : (v.key.id, port) ∈ ids.pairs l) : AddressOf g h l k e v (.bus ids.id port)
  | module (spec : ModuleSpec) (bus : String) (ids : ModuleIds) (port : Port)
      (hkind : v.kind = .processing spec) (hbus : g.Encloses h l bus)
      (hmade : g.ModuleMade h l v ids) (hport : port ∈ ids.ports.ports e.direction)
      (hname : (v.names e.direction)[k.slot e]? = some port.name) :
      AddressOf g h l k e v (e.moduleAddress bus ids.id port.id)

/-- The text that the engine is told an end of a link by. -/
def Graph.Tells (g : Graph) (h : List Exchange) (l : Level) (k : GraphLink) (e : LinkEnd)
    (text : String) : Prop :=
  ∃ v ∈ l.nodes, v.key = k.node e ∧ ∃ a, g.AddressOf h l k e v a ∧ text = a.text

section Append

variable {g : Graph} {h : List Exchange} {l : Level} {v : GraphNode} {t : BuildStep}

lemma Graph.Exchanged.of_turn {h' xs : List Exchange} (hturn : g.turn? h = some t)
    (hxs : h' = h ++ xs) : g.Exchanged h' t xs :=
  ⟨h, [], by rw [hxs, List.append_nil], hturn⟩

/-! What took place stays so while there are more exchanges. -/

lemma Graph.Exchanged.append {xs : List Exchange} (hx : g.Exchanged h t xs)
    (h' : List Exchange) : g.Exchanged (h ++ h') t xs := by
  obtain ⟨before, after, rfl, hturn⟩ := hx
  exact ⟨before, after ++ h', List.append_assoc _ _ _, hturn⟩

lemma Graph.BusMade.append {ids : BusIds} (hm : g.BusMade h l v ids) (h' : List Exchange) :
    g.BusMade (h ++ h') l v ids where
  exchanged := by
    obtain ⟨parent, title, inputs, outputs, ports, hx, hports⟩ := hm.exchanged
    exact ⟨parent, title, inputs, outputs, ports, hx.append h', hports⟩
  isOpaque_id := hm.isOpaque_id
  isOpaque_port := hm.isOpaque_port

lemma Graph.ModuleMade.append {ids : ModuleIds} (hm : g.ModuleMade h l v ids)
    (h' : List Exchange) : g.ModuleMade (h ++ h') l v ids where
  exchanged := by
    obtain ⟨bus, spec, hx⟩ := hm.exchanged
    exact ⟨bus, spec, hx.append h'⟩
  isOpaque_id := hm.isOpaque_id
  isOpaque_port := hm.isOpaque_port

lemma Graph.ConnectionMade.append {k : GraphLink} (hm : g.ConnectionMade h l k)
    (h' : List Exchange) : g.ConnectionMade (h ++ h') l k := by
  obtain ⟨origin, target, id, hx⟩ := hm
  exact ⟨origin, target, id, hx.append h'⟩

lemma Graph.Encloses.append {bus : String} (he : g.Encloses h l bus) (h' : List Exchange) :
    g.Encloses (h ++ h') l bus := by
  unfold Encloses at he ⊢
  split_ifs at he ⊢
  · exact he
  · obtain ⟨m, hm, w, hw, hchild, ids, hmade, hbus⟩ := he
    exact ⟨m, hm, w, hw, hchild, ids, hmade.append h', hbus⟩

end Append

/-! ### Which requests are allowed -/

/-- What may be asked of an engine after some exchanges. -/
def Graph.Allows (g : Graph) (h : List Exchange) : Request → Prop
  | .listMain => h = []
  | .addBus bus title inputs outputs => ∃ l v, g.turn? h = some (.visit l v) ∧
      v.kind = .busAdd title ∧ inputs = Text.joinCommas (childPortNames v.child .input) ∧
      outputs = Text.joinCommas (childPortNames v.child .output) ∧ g.Encloses h l bus
  | .listBusPorts id => h.getLast?.bind Exchange.followUp? = some (.listBusPorts id)
  | .addModule bus spec => ∃ l v, g.turn? h = some (.visit l v) ∧ v.kind = .processing spec ∧
      g.Encloses h l bus
  | .listModulePorts id => h.getLast?.bind Exchange.followUp? = some (.listModulePorts id)
  | .addConnection origin target => ∃ l k, g.turn? h = some (.connect l k) ∧
      g.Tells h l k .origin origin ∧ g.Tells h l k .target target ∧ g.Settled h l

/-- Exchanges that begin with the physical ports, each of them allowed after those before it, and
followed at once by the one that has to come next. -/
structure Graph.Orderly (g : Graph) (h : List Exchange) : Prop where
  begins : ∃ answer rest, h = ⟨.listMain, answer⟩ :: rest
  allowed : ∀ before x after, h = before ++ x :: after → g.Allows before x.request
  followed : ∀ before x after, h = before ++ x :: after → ∀ r, x.followUp? = some r →
    ∃ answer rest, after = ⟨r, answer⟩ :: rest

namespace Graph

variable {g : Graph} {h h' : List Exchange} {r : Request}

lemma allows_followUp {x : Exchange} (hnext : x.followUp? = some r) : g.Allows (h ++ [x]) r := by
  rcases Exchange.followUp?_eq_some hnext with ⟨id, rfl⟩ | ⟨id, rfl⟩ <;> simpa [Allows] using hnext

/-- What is allowed of each exchange of a log, and of one more after it, is allowed of the longer
log. -/
lemma allowed_concat {y : Exchange}
    (hall : ∀ before x after, h = before ++ x :: after → g.Allows before x.request)
    (hy : g.Allows h y.request) {before after : List Exchange} {x : Exchange}
    (heq : h ++ [y] = before ++ x :: after) : g.Allows before x.request := by
  rcases split_concat heq with ⟨rest, hh, -⟩ | ⟨rfl, rfl, -⟩
  · exact hall before x rest hh
  · exact hy

namespace Orderly

lemma listMain (answer : Except EngineError MainPorts) : g.Orderly [⟨.listMain, answer⟩] where
  begins := ⟨answer, [], rfl⟩
  allowed before x after heq := by
    rcases List.singleton_eq_append_iff.mp heq with ⟨rfl, heq⟩ | ⟨-, heq⟩
    · cases heq
      rfl
    · cases heq
  followed before x after heq r hr := by
    rcases List.singleton_eq_append_iff.mp heq with ⟨-, heq⟩ | ⟨-, heq⟩
    · cases heq
      cases hr
    · cases heq

/-- A request that is allowed, with the one that has to come next. -/
lemma asked (ho : g.Orderly h) (hr : g.Allows h r) (ha : Asked r h h') : g.Orderly h' := by
  obtain ⟨main, rest, hbegins⟩ := ho.begins
  cases ha with
  | alone answer hnext =>
    refine ⟨⟨main, _, by rw [hbegins]; rfl⟩, fun _ _ _ => allowed_concat ho.allowed hr, ?_⟩
    intro before x after heq r' hx
    rcases split_concat heq with ⟨rest, hh, rfl⟩ | ⟨rfl, rfl, rfl⟩
    · obtain ⟨answer', rest', rfl⟩ := ho.followed before x rest hh r' hx
      exact ⟨answer', _, rfl⟩
    · rw [hnext] at hx
      cases hx
  | followed answer r₁ answer₁ hnext =>
    refine ⟨⟨main, _, by rw [hbegins]; rfl⟩, fun _ _ _ => allowed_concat
      (fun _ _ _ => allowed_concat ho.allowed hr) (allows_followUp hnext), ?_⟩
    intro before x after heq r' hx
    rcases split_concat heq with ⟨rest, hrest, rfl⟩ | ⟨rfl, rfl, rfl⟩
    · rcases split_concat hrest with ⟨rest, hh, rfl⟩ | ⟨rfl, rfl, rfl⟩
      · obtain ⟨answer', rest', rfl⟩ := ho.followed before x rest hh r' hx
        exact ⟨answer', _, rfl⟩
      · obtain rfl : r₁ = r' := Option.some.inj (hnext.symm.trans hx)
        exact ⟨answer₁, [], rfl⟩
    · -- a request for ports needs no other one after it
      rcases Exchange.followUp?_eq_some hnext with ⟨id, rfl⟩ | ⟨id, rfl⟩ <;> cases hx

end Orderly

end Graph

/-! ### What the history attests to -/

section Attested

variable {σ : Type}

/-- The history tells of everything that was done. -/
structure Attested (g : Graph) (mains : MainPorts) (done : List BuildStep)
    (s : Session (σ × List Exchange)) : Prop where
  orderly : g.Orderly s.engine.2
  mains : ∃ rest, s.engine.2 = ⟨.listMain, .ok mains⟩ :: rest
  turns : s.engine.2.countP (·.request.makes) = (done.filter BuildStep.makes).length
  bus : ∀ l v title, .visit l v ∈ done → v.kind = .busAdd title → ∃ ids : BusIds,
    s.bindings.node? v.key = some (.bus ids.id ids.inputs ids.outputs) ∧
      g.BusMade s.engine.2 l v ids
  module : ∀ l v spec, .visit l v ∈ done → v.kind = .processing spec → ∃ bus ids,
    s.bindings.node? v.key = some (v.moduleBinding bus ids) ∧ g.Encloses s.engine.2 l bus ∧
      g.ModuleMade s.engine.2 l v ids
  link : ∀ l k, .connect l k ∈ done → ¬ l.LeavesOut k → g.ConnectionMade s.engine.2 l k

namespace Attested

variable {g : Graph} {mains : MainPorts} {before done : List BuildStep}
  {s s' : Session (σ × List Exchange)} {t : BuildStep} {l : Level} {v : GraphNode} {k : GraphLink}

/-- Before a step that makes something it is its turn. -/
lemma turn (h : Attested g mains before s) (hn : g.Next before t) (ht : t.makes = true) :
    g.turn? s.engine.2 = some t := by
  obtain ⟨after, hsteps⟩ := hn
  rw [Graph.turn?, h.turns, hsteps, List.filter_append, List.filter_cons_of_pos ht]
  simp

/-- A node that was visited has been made, as far as nodes of its kind are made. -/
lemma nodeMade (h : Attested g mains done s) (hvisit : .visit l v ∈ done) :
    g.NodeMade s.engine.2 l v := by
  unfold Graph.NodeMade
  split
  case h_1 title hv =>
    obtain ⟨ids, -, hmade⟩ := h.bus l v title hvisit hv
    exact ⟨ids, hmade⟩
  case h_2 spec hv =>
    obtain ⟨bus, ids, -, -, hmade⟩ := h.module l v spec hvisit hv
    exact ⟨ids, hmade⟩
  all_goals trivial

/-- After all steps everything in the graph has been made. -/
lemma allMade (h : Attested g mains g.steps s) : g.AllMade s.engine.2 where
  node _ hl _ hv := h.nodeMade (Graph.visit_mem_steps.mpr ⟨hl, hv⟩)
  link l hl k hk := h.link l k (Graph.connect_mem_steps.mpr ⟨hl, hk⟩)

/-- The bus that the nodes of a level are made in. -/
lemma encloses (hg : g.WellFormed) (h : Attested g mains before s) (hl : l ∈ g.levels)
    (hsub : before ⊆ g.steps) (hheld : l.HeldIn before) :
    g.Encloses s.engine.2 l (s.bindings.busOf l) := by
  unfold Graph.Encloses Bindings.busOf
  split_ifs with hid
  · obtain rfl := hg.level_unique hl (Graph.WellFormed.root_mem g) (hid.trans hg.root_id.symm)
    simp [hg.root_parent]
  · cases hparent : l.parent with
    | none => exact (hid (hg.eq_root_of_parent hl hparent ▸ hg.root_id)).elim
    | some key =>
      obtain ⟨m, hm, w, hw, hvisit, hchild, rfl, title, hkind⟩ :=
        hheld.exists_bus hg hsub hparent
      obtain ⟨ids, hbound, hmade⟩ := h.bus m w title hvisit hkind
      exact ⟨m, hm, w, hw, hchild, ids, hmade, by simp [hbound]⟩

/-- Links of a level are connected when it is settled. -/
lemma settled (hg : g.WellFormed) (h : Attested g mains before s)
    (hn : g.Next before (.connect l k)) : g.Settled s.engine.2 l := by
  have hbeneath : ∀ m ∈ Level.flattenNodes l.nodes, m.ownSteps ⊆ before := fun m hm =>
    List.Subset.trans (Level.ownSteps_subset_nodesSteps hm) (hn.nodesSteps_subset hg)
  constructor
  · intro m hm v hv
    rw [Level.flatten_eq] at hm
    rcases List.mem_cons.mp hm with rfl | hm
    · exact h.nodeMade ((hn.ready hg).2 v hv)
    · exact h.nodeMade (hbeneath m hm (Level.mem_ownSteps.mpr (.inr (.inl ⟨v, hv, rfl⟩))))
  · intro m hm k hk
    exact h.link m k (hbeneath m hm (Level.mem_ownSteps.mpr (.inr (.inr ⟨k, hk, rfl⟩))))

/-- An address that an end of a link was resolved to is what the engine answered. -/
lemma addressOf (hg : g.WellFormed) (hs : Recorded g mains before s)
    (h : Attested g mains before s) (hn : g.Next before (.connect l k)) {e : LinkEnd}
    (hv : v ∈ l.nodes) {a : PortAddress}
    (hres : Resolution g mains s.bindings l k e v (.ok a)) :
    g.AddressOf s.engine.2 l k e v a := by
  obtain ⟨hl, -, ⟨-, hvisited⟩, hsub⟩ := hn.linkable hg
  -- what the node of a bus is bound to tells which bus it is
  have hbus : ∀ {m w ids}, .visit m w ∈ before → (∃ title, w.kind = .busAdd title) →
      s.bindings.HoldsBus w ids → g.BusMade s.engine.2 m w ids := by
    rintro m w ⟨id, inputs, outputs⟩ hvisit ⟨title, hkind⟩ hids
    obtain ⟨⟨_, _, _⟩, hbound, hmade⟩ := h.bus m w title hvisit hkind
    cases hids.own.symm.trans hbound
    exact hmade
  cases hres with
  | main d n port hkind hend hport =>
    obtain ⟨rest, hmains⟩ := h.mains
    exact .main d n mains rest port hkind hend hmains hport
  | bus title ids port hkind hids hport =>
    exact .bus title ids port hkind (hbus (hvisited v hv) ⟨title, hkind⟩ hids) hport
  | port d m w ids port hkind hm hw hchild hids hport =>
    refine .port d m w ids port hkind hm hw hchild (hbus ?_ ?_ hids) hport
    · obtain ⟨m', w', hvisit, hchild'⟩ := hs.level_by l hl ids.id (hids.level l hchild)
      obtain ⟨hm', hw'⟩ := Graph.visit_mem_steps.mp (hsub hvisit)
      obtain ⟨rfl, rfl⟩ := hg.owner_unique hm hm' hw hw' hchild hchild'
      exact hvisit
    · exact ((hg.fits m hm).node w hw).bus_of_child l hchild
  | module spec name _ hkind hname hresult =>
    obtain ⟨bus, ids, hbound, hencloses, hmade⟩ := h.module l v spec (hvisited v hv) hkind
    obtain ⟨port, hport, rfl⟩ := moduleEnd_eq_ok_iff.mp (hresult bus ids hbound).symm
    have hported : port.name = name := by simpa using List.find?_some hport
    exact .module spec bus ids port hkind hencloses hmade (List.mem_of_find?_eq_some hport)
      (hported ▸ hname)

/-- The text of a resolved end is put together from answers of the engine. -/
lemma tells (hg : g.WellFormed) (hs : Recorded g mains before s)
    (h : Attested g mains before s) (hn : g.Next before (.connect l k)) (hkeep : ¬ l.LeavesOut k)
    {e : LinkEnd} {a : PortAddress} (hres : resolveEnd l s.bindings k e = .ok a) :
    g.Tells s.engine.2 l k e a.text := by
  obtain ⟨v, hv, hkey, hresolution⟩ := hs.exists_resolution hg (hn.linkable hg) hkeep e
  exact ⟨v, hv, hkey, a, h.addressOf hg hs hn hv (hres ▸ hresolution), rfl⟩

/-! ### Every step -/

/-- What the history tells of goes on after a step that it tells of too. -/
lemma concat (h : Attested g mains before s) {xs : List Exchange}
    (hxs : s'.engine.2 = s.engine.2 ++ xs) (ho : g.Orderly s'.engine.2)
    (hcount : xs.countP (·.request.makes) = ([t].filter BuildStep.makes).length)
    (hb : s.bindings.Extends s'.bindings)
    (hbus : ∀ l v title, t = .visit l v → v.kind = .busAdd title → ∃ ids : BusIds,
      s'.bindings.node? v.key = some (.bus ids.id ids.inputs ids.outputs) ∧
        g.BusMade s'.engine.2 l v ids)
    (hmodule : ∀ l v spec, t = .visit l v → v.kind = .processing spec → ∃ bus ids,
      s'.bindings.node? v.key = some (v.moduleBinding bus ids) ∧ g.Encloses s'.engine.2 l bus ∧
        g.ModuleMade s'.engine.2 l v ids)
    (hlink : ∀ l k, t = .connect l k → ¬ l.LeavesOut k → g.ConnectionMade s'.engine.2 l k) :
    Attested g mains (before ++ [t]) s' where
  orderly := ho
  mains := by
    obtain ⟨rest, hmains⟩ := h.mains
    exact ⟨rest ++ xs, by rw [hxs, hmains]; rfl⟩
  turns := by
    rw [hxs, List.countP_append, List.filter_append, List.length_append, h.turns, hcount]
  bus := by
    intro l v title hvisit hv
    -- an earlier bus was bound and made before; what the engine was asked since changes neither
    rcases List.mem_append.mp hvisit with hvisit | hvisit
    · obtain ⟨ids, hbound, hmade⟩ := h.bus l v title hvisit hv
      exact ⟨ids, hb.node hbound, hxs ▸ hmade.append xs⟩
    · exact hbus l v title (List.mem_singleton.mp hvisit).symm hv
  module := by
    intro l v spec hvisit hv
    rcases List.mem_append.mp hvisit with hvisit | hvisit
    · obtain ⟨bus, ids, hbound, hencloses, hmade⟩ := h.module l v spec hvisit hv
      exact ⟨bus, ids, hb.node hbound, hxs ▸ hencloses.append xs, hxs ▸ hmade.append xs⟩
    · exact hmodule l v spec (List.mem_singleton.mp hvisit).symm hv
  link := by
    intro l k hdone hkeep
    rcases List.mem_append.mp hdone with hdone | hdone
    · exact hxs ▸ (h.link l k hdone hkeep).append xs
    · exact hlink l k (List.mem_singleton.mp hdone).symm hkeep

/-- A step that asks for nothing. -/
lemma concat_idle (h : Attested g mains before s) (hengine : s'.engine.2 = s.engine.2)
    (hb : s'.bindings = s.bindings) (ht : t.makes = false) :
    Attested g mains (before ++ [t]) s' := by
  have hxs : s'.engine.2 = s.engine.2 ++ [] := by rw [hengine, List.append_nil]
  refine h.concat hxs (hengine ▸ h.orderly) (by simp [ht]) (hb ▸ .refl _) ?_ ?_ ?_
  · rintro l v title rfl hv
    simp [BuildStep.makes, hv, NodeKind.isBus] at ht
  · rintro l v spec rfl hv
    simp [BuildStep.makes, hv, NodeKind.isModule] at ht
  · rintro l k rfl hkeep
    simp [BuildStep.makes, hkeep] at ht

variable (engine : Engine σ)

/-- Making a bus asks for nothing that is not allowed, however it ends. -/
lemma step_bus (hg : g.WellFormed) (hs : Recorded g mains before s)
    (h : Attested g mains before s) (hn : g.Next before (.visit l v)) {title : String}
    (hv : v.kind = .busAdd title) :
    Ends (Compiler.perform engine.logged (.visit l v)) s
      (fun _ s' => Attested g mains (before ++ [.visit l v]) s')
      (fun _ s' => g.Orderly s'.engine.2) := by
  obtain ⟨hl, -⟩ := Graph.visit_mem_steps.mp hn.mem
  have hmakes : (BuildStep.visit l v).makes = true := by simp [BuildStep.makes, hv, NodeKind.isBus]
  have hturn := h.turn hn hmakes
  have hallowed : g.Allows s.engine.2 (.addBus (s.bindings.busOf l) title
      (Text.joinCommas (childPortNames v.child .input))
      (Text.joinCommas (childPortNames v.child .output))) :=
    ⟨l, v, hturn, hv, rfl, rfl, h.encloses hg hl hn.subset (hn.ready hg)⟩
  rw [hs.perform_bus_iff _ hg hn hv]
  refine (engine.newBus_asked _ _ _ _ _).imp ?_ fun _ _ => h.orderly.asked hallowed
  rintro ids e ⟨hid, ports, he, hports⟩
  have ho : g.Orderly e.2 :=
    h.orderly.asked hallowed (he ▸ .followed _ _ _ (Exchange.followUp?_addBus hid))
  rw [List.append_assoc] at he
  refine h.concat he ho (by simp [hmakes, Request.makes])
    (hs.freeFor hg hn hv).extends ?_ ?_ (by simp)
  · rintro _ _ _ ⟨⟩ -
    refine ⟨ids, Bindings.node?_withBus_self, ?_, hid, ?_⟩
    · exact ⟨_, _, _, _, ports, .of_turn hturn he, fun d => (hports d).1.symm⟩
    · intro d id hid
      rw [← (hports d).1] at hid
      obtain ⟨p, hp, rfl⟩ := List.mem_map.mp hid
      exact (hports d).2 p hp
  · rintro _ _ _ ⟨⟩ hv'
    rw [hv] at hv'
    cases hv'

/-- Making a module asks for nothing that is not allowed, however it ends. -/
lemma step_module (hg : g.WellFormed) (hs : Recorded g mains before s)
    (h : Attested g mains before s) (hn : g.Next before (.visit l v)) {spec : ModuleSpec}
    (hv : v.kind = .processing spec) :
    Ends (Compiler.perform engine.logged (.visit l v)) s
      (fun _ s' => Attested g mains (before ++ [.visit l v]) s')
      (fun _ s' => g.Orderly s'.engine.2) := by
  obtain ⟨hl, -⟩ := Graph.visit_mem_steps.mp hn.mem
  have hmakes : (BuildStep.visit l v).makes = true := by
    simp [BuildStep.makes, hv, NodeKind.isModule]
  have hturn := h.turn hn hmakes
  have hencloses := h.encloses hg hl hn.subset (hn.ready hg)
  have hallowed : g.Allows s.engine.2 (.addModule (s.bindings.busOf l) spec) :=
    ⟨l, v, hturn, hv, hencloses⟩
  rw [hs.perform_module_iff _ hg hn hv]
  refine (engine.newModule_asked _ _ _).imp ?_ fun _ _ => h.orderly.asked hallowed
  rintro ids e ⟨hid, he, hports⟩
  have ho : g.Orderly e.2 :=
    h.orderly.asked hallowed (he ▸ .followed _ _ _ (Exchange.followUp?_addModule hid))
  rw [List.append_assoc] at he
  have hbind := Bindings.bindNode_of_none (hs.free_module hg hn hv)
    (v.moduleBinding (s.bindings.busOf l) ids)
  refine h.concat he ho (by simp [hmakes, Request.makes])
    (Bindings.bindNode_extends hbind) ?_ ?_ (by simp)
  · rintro _ _ _ ⟨⟩ hv'
    rw [hv] at hv'
    cases hv'
  · rintro _ _ _ ⟨⟩ -
    refine ⟨s.bindings.busOf l, ids, (Bindings.node?_cons _ _ _).trans (if_pos rfl),
      he ▸ hencloses.append _, ?_, hid, hports⟩
    exact ⟨_, _, .of_turn hturn he⟩

/-- Connecting a link asks for nothing that is not allowed, however it ends. -/
lemma step_link (hg : g.WellFormed) (hs : Recorded g mains before s)
    (h : Attested g mains before s) (hn : g.Next before (.connect l k)) :
    Ends (Compiler.perform engine.logged (.connect l k)) s
      (fun _ s' => Attested g mains (before ++ [.connect l k]) s')
      (fun _ s' => g.Orderly s'.engine.2) := by
  rw [hs.perform_link_iff _ hg hn]
  split
  · -- only a link at a node that was left out is skipped
    rename_i node hskip
    have hleft : l.LeavesOut k := by
      by_contra hkeep
      rw [(hs.skippedEnd?_eq_none hg hn).mpr hkeep] at hskip
      cases hskip
    exact h.concat_idle rfl rfl (by simp [BuildStep.makes, hleft])
  · rename_i hskip
    have hkeep := (hs.skippedEnd?_eq_none hg hn).mp hskip
    have hmakes : (BuildStep.connect l k).makes = true := by simp [BuildStep.makes, hkeep]
    have hturn := h.turn hn hmakes
    split
    · exact h.orderly
    · rename_i origin target haddr
      obtain ⟨horigin, htarget⟩ := linkAddresses_ok haddr
      have hallowed : g.Allows s.engine.2 (.addConnection origin.text target.text) :=
        ⟨l, k, hturn, h.tells hg hs hn hkeep horigin, h.tells hg hs hn hkeep htarget,
          h.settled hg hn⟩
      refine (engine.ask_logged _ _).imp (fun id e he => ?_) fun err e he =>
        h.orderly.asked hallowed (he ▸ .alone _ rfl)
      have hbind := Bindings.bindConnection_of_none (hs.free_link hg hn) k.id id
      refine h.concat he (h.orderly.asked hallowed (he ▸ .alone _ rfl))
        (by simp [hmakes, Request.makes]) (Bindings.bindConnection_extends hbind)
        (by simp) (by simp) ?_
      rintro _ _ ⟨⟩ -
      exact ⟨_, _, id, .of_turn hturn he⟩

/-- Every step goes on with an orderly history, also where it fails. -/
lemma step (hg : g.WellFormed) (hn : g.Next before t) (hs : Recorded g mains before s)
    (h : Attested g mains before s) :
    Ends (Compiler.perform engine.logged t) s (fun _ s' => Attested g mains (before ++ [t]) s')
      (fun _ s' => g.Orderly s'.engine.2) := by
  cases t with
  | enter l => exact h.concat_idle rfl rfl rfl
  | visit l v =>
    cases hv : v.kind with
    | busAdd title => exact h.step_bus engine hg hs hn hv
    | processing spec => exact h.step_module engine hg hs hn hv
    | unsupported tag =>
      rw [Recorded.perform_unsupported_iff _ hv]
      exact h.concat_idle rfl rfl
        (by simp [BuildStep.makes, hv, NodeKind.isBus, NodeKind.isModule])
    | mainInputs | mainOutputs | busInput | busOutput =>
      rw [Recorded.perform_idle_iff _ (by simp [hv]) (by simp [hv]) (by simp [hv])]
      exact h.concat_idle rfl rfl
        (by simp [BuildStep.makes, hv, NodeKind.isBus, NodeKind.isModule])
  | connect l k => exact h.step_link engine hg hs hn

end Attested

end Attested

/-- Whatever an engine answers, and however a compilation ends, the engine is asked for things in
their order, and only for what may be asked. A compilation that succeeds has asked for everything. -/
theorem compile_orderly {σ : Type} {d : Document} {g : Graph} (hd : Graph.build d = .ok g)
    (engine : Engine σ) (state : σ) : g.Orderly (history engine g state) ∧
      ∀ c, (compile engine g state).1 = .ok c → g.AllMade (history engine g state) := by
  have hg := Graph.build_wellFormed hd
  have hcompiles : Compiles engine.logged g (state, [])
      (fun _ e => g.Orderly e.2 ∧ g.AllMade e.2) (fun _ e => g.Orderly e.2) := by
    refine compiles hg (P := fun mains done s => Attested g mains done s) ?_ ?_
      fun _ _ _ h => ⟨h.orderly, h.allMade⟩
    · refine (engine.ask_logged _ _).imp (fun mains e he => ?_) fun err e he => ?_
      · rw [List.nil_append] at he
        have ho : g.Orderly e.2 := he ▸ .listMain _
        refine ⟨fun b _ => ⟨ho, ⟨[], he⟩, ?_, by simp, by simp, by simp⟩, fun _ _ _ _ _ _ => ho⟩
        simp [he, Request.makes]
      · exact he ▸ .listMain _
    · intro mains before t s hn hs h
      exact h.step engine hg hn hs
  refine ⟨(hcompiles.imp (fun _ _ h => h.1) fun _ _ => id).of_both, fun c hc => ?_⟩
  have hlogged : (compile engine.logged g (state, [])).1 = .ok c := by rw [compile_logged, hc]
  exact (hcompiles.ok_of_ok hlogged).2

/-- An engine with one physical port of each direction, whose buses have one of each too. -/
def narrowEngine : Engine Unit
  | .listMain, s => (.ok ⟨["in"], ["out"]⟩, s)
  | .addBus .., s => (.ok "bus", s)
  | .listBusPorts _, s => (.ok ⟨[⟨"i", "in"⟩], [⟨"o", "out"⟩]⟩, s)
  | .addModule .., s => (.ok "module", s)
  | .listModulePorts _, s => (.ok ⟨[], []⟩, s)
  | .addConnection .., s => (.ok "connection", s)

theorem wire_orderly : ∃ g, Graph.build wire = .ok g ∧
    (g.Orderly (history narrowEngine g ()) ∧
      ∀ c, (compile narrowEngine g ()).1 = .ok c → g.AllMade (history narrowEngine g ())) ∧
    (history narrowEngine g ()).map Exchange.request =
      [.listMain, .addBus "" "wire" "in" "out", .listBusPorts "bus",
        .addConnection "/bus:i" "/bus:o", .addConnection "in" "/bus:i",
        .addConnection "/bus:o" "out"] := by
  have hrequests : (Graph.build wire).toOption.map
      (fun g => (history narrowEngine g ()).map Exchange.request) =
      some [.listMain, .addBus "" "wire" "in" "out", .listBusPorts "bus",
        .addConnection "/bus:i" "/bus:o", .addConnection "in" "/bus:i",
        .addConnection "/bus:o" "out"] := by decide +kernel
  cases hwire : Graph.build wire with
  | error err =>
    rw [hwire] at hrequests
    cases hrequests
  | ok g =>
    rw [hwire] at hrequests
    exact ⟨g, rfl, compile_orderly hwire narrowEngine (), Option.some.inj hrequests⟩

end Patchbay
