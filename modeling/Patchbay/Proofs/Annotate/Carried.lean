import Patchbay.Proofs.Annotate.Again
import Patchbay.Proofs.Compile.Authored
import Patchbay.Proofs.Document.Stored
import Patchbay.Proofs.Graph.Flattening

/-!
# Ids in annotated documents

A document that was compiled for a virtual engine carries the ids of all that was built for it: a
bus, a module or the port of a bus in each node that stands for one, and a connection in each link
that no unsupported node is at.
-/

namespace Patchbay

open VirtualEngine (Bus Module)

def VirtualEngine.ownerId (owner : Option Bus) : String := (owner.map Bus.id).getD ""

mutual

/-- A level carries the ids of what an engine has for it. The level belongs to the bus `owner`. -/
inductive Document.Carries (e : VirtualEngine) : Option Bus → Document → Prop
  | level {owner : Option Bus} {m : Document} (busId : ∀ x, owner = some x → m.busId = some x.id)
      (nodes : ∀ n ∈ m.nodes, Node.Carries e owner n)
      (links : ∀ l ∈ m.links, ¬ m.LeavesOut l →
        ∃ x ∈ e.connections, l.connectionId = .string x.id) : Document.Carries e owner m

/-- A node in the bus `owner` carries the ids of what an engine has for it. -/
inductive Node.Carries (e : VirtualEngine) : Option Bus → Node → Prop
  | main {owner : Option Bus} {n : Node} (kind : NodeKind) (d : Direction) (slots : Nat)
      (means : n.Means kind) (asks : kind.mainSlots? = some (d, slots))
      (ids : Keyed.get? "ids" n.properties
        = some (Json.ofStrings ((e.mains.ports d).take slots))) : Node.Carries e owner n
  | bus {owner : Option Bus} {n : Node} (x : Bus) (m : Document) (means : n.Means (.busAdd x.title))
      (mem : x ∈ e.buses) (place : x.parent = VirtualEngine.ownerId owner)
      (id : Keyed.get? "id" n.properties = some (.string x.id))
      (inputs : Keyed.get? "bus_input_ids" n.properties = some (Json.ofStrings x.ids.inputs))
      (outputs : Keyed.get? "bus_output_ids" n.properties = some (Json.ofStrings x.ids.outputs))
      (subgraph : n.subgraph = some m) (inside : Document.Carries e (some x) m) :
      Node.Carries e owner n
  | port {owner : Bus} {n : Node} (kind : NodeKind) (d : Direction) (p : Port)
      (means : n.Means kind) (passes : kind.passThrough? d = some p.name)
      (mem : p ∈ owner.ports.ports d) (id : Keyed.get? "id" n.properties = some (.string p.id)) :
      Node.Carries e (some owner) n
  | outside {n : Node} (kind : NodeKind) (d : Direction) (means : n.Means kind)
      (passes : (kind.passThrough? d).isSome) : Node.Carries e none n
  | module {owner : Option Bus} {n : Node} (x : Module) (means : n.Means (.processing x.spec))
      (mem : x ∈ e.modules) (place : x.bus = VirtualEngine.ownerId owner)
      (id : Keyed.get? "id" n.properties = some (.string x.id)) : Node.Carries e owner n
  | unsupported {owner : Option Bus} {n : Node} (tag : String)
      (means : n.Means (.unsupported tag)) : Node.Carries e owner n

end

/-! ### The engine after a compilation -/

/-- A graph is built in an engine, and all there is of it is bound. -/
structure Built (name : Nat → String) (g : Graph) (s : Session VirtualEngine) : Prop where
  wellFormed : g.WellFormed
  recorded : Recorded g s.engine.mains g.steps s
  mirrors : Mirrors name s.engine.mains g.steps s
  complete : s.bindings.Complete g

/-- The bus of the engine that a level belongs to. -/
inductive Session.Owner (s : Session VirtualEngine) (l : Level) : Option Bus → Prop
  | root (parent : l.parent = none) : s.Owner l none
  | bus (x : Bus) (w : GraphNode) (parent : l.parent = some w.key) (child : w.child = some l)
      (names : ∀ d, (x.ports.ports d).map Port.name = l.portNames d)
      (holds : s.bindings.HoldsBus w x.ids) : s.Owner l (some x)

section Owner

variable {name : Nat → String} {g : Graph} {s : Session VirtualEngine} {l : Level} {v : GraphNode}
  {owner : Option Bus} {k : GraphLink}

/-- The bus that a level is expanded in is the one that owns it. -/
lemma Session.Owner.eq_ownerId (h : s.Owner l owner) {bus : String}
    (howned : s.bindings.Owned l bus) : bus = VirtualEngine.ownerId owner := by
  unfold Bindings.Owned at howned
  cases h with
  | root parent =>
    rw [parent] at howned
    exact howned
  | bus x w parent child names holds =>
    rw [parent] at howned
    obtain ⟨inputs, outputs, hbound⟩ := howned
    have heq := hbound.symm.trans holds.own
    cases heq
    rfl

/-- A pass-through of the level in a bus is bound to the port of the bus that has its name. -/
lemma Session.Owner.exists_port {x : Bus} (h : s.Owner l (some x)) (hfit : l.Fits)
    (hv : v ∈ l.nodes) {d : Direction} {port : String} (hpass : v.kind.passThrough? d = some port) :
    ∃ p ∈ x.ports.ports d, p.name = port ∧
      s.bindings.node? v.key = some (.busPort x.id p.id) := by
  cases h with | bus _ w parent child names holds
  -- ports and pass-throughs go together by position
  have hmem : (v.key.id, port) ∈ passThroughs d l.nodes :=
    List.mem_filterMap.mpr ⟨v, hv, by rw [hpass]; rfl⟩
  obtain ⟨i, hi⟩ := List.mem_iff_getElem?.mp hmem
  have hname : ((x.ports.ports d).map Port.name)[i]? = some port := by
    rw [names, Level.portNames, List.getElem?_map, hi]
    rfl
  rw [List.getElem?_map] at hname
  obtain ⟨p, hp, hport⟩ := Option.map_eq_some_iff.mp hname
  have hids : (x.ids.ports d)[i]? = some p.id := by
    have hports : x.ids.ports d = (x.ports.ports d).map Port.id := by cases d <;> rfl
    rw [hports, List.getElem?_map, hp]
    rfl
  have hnode : (l.portNodes d)[i]? = some v.key.id := by
    rw [Level.portNodes, List.getElem?_map, hi]
    rfl
  have hpair : (v.key.id, p.id) ∈ x.ids.pairs l := by
    have hzip : (v.key.id, p.id) ∈ (l.portNodes d).zip (x.ids.ports d) :=
      List.mem_of_getElem? (List.getElem?_zip_eq_some.mpr ⟨hnode, hids⟩)
    cases d
    · exact List.mem_append_left _ hzip
    · exact List.mem_append_right _ hzip
  have hkey : (⟨l.id, v.key.id⟩ : NodeKey) = v.key := by rw [← (hfit.node v hv).key_level]
  exact ⟨p, List.mem_of_getElem? hp, hport, hkey ▸ holds.port l child _ hpair⟩

namespace Built

/-- What a bus was bound to is a bus of the engine, and the level in it belongs to it. -/
lemma exists_bus (h : Built name g s) (hl : l ∈ g.levels) (hv : v ∈ l.nodes) {title : String}
    (hkind : v.kind = .busAdd title) : ∃ x ∈ s.engine.buses, BusMatches s.bindings (l, v) x ∧
      ∃ c, v.child = some c ∧ s.Owner c (some x) := by
  have hvisit := Graph.visit_mem_steps.mpr ⟨hl, hv⟩
  have hfit := (h.wellFormed.fits l hl).node v hv
  obtain ⟨ids, hids⟩ := h.recorded.bus l v title hvisit hkind
  obtain ⟨x, hx, hmatch, rfl⟩ := h.mirrors.exists_ids h.recorded hl hv hkind hids
  obtain ⟨c, hc⟩ := hfit.child_of_bus title hkind
  refine ⟨x, hx, hmatch, c, hc, .bus x v (hfit.child_parent c hc) hc (fun d => ?_) hids⟩
  rw [hmatch.names d, childPortNames, hc]
  rfl

/-- What a link was bound to is a connection of the engine. -/
lemma exists_connection (h : Built name g s) (hl : l ∈ g.levels) (hk : k ∈ l.links)
    (hkeep : ¬ l.LeavesOut k) :
    ∃ x ∈ s.engine.connections, s.bindings.connection? l.id k.index = some x.id := by
  have hmem : (l, k) ∈ keptLinks g.steps :=
    List.mem_filter.mpr ⟨List.mem_filterMap.mpr ⟨.connect l k,
      Graph.connect_mem_steps.mpr ⟨hl, hk⟩, rfl⟩, by simpa using hkeep⟩
  obtain ⟨x, hx, hmatch⟩ := forall₂_exists_right h.mirrors.connections hmem
  exact ⟨x, hx, hmatch.bound⟩

end Built

end Owner

/-- How a compilation leaves a fresh engine. -/
lemma exists_built {g : Graph} (hg : g.WellFormed) {name : Nat → String}
    (hname : VirtualEngine.Distinct name) {inputs outputs : Nat} {c : Compilation}
    (hc : (compile (VirtualEngine.engine name) g
      (VirtualEngine.new name inputs outputs [])).1 = .ok c) :
    ∃ s, Built name g s ∧ s.bindings = c.bindings ∧
      s.engine = (compile (VirtualEngine.engine name) g
        (VirtualEngine.new name inputs outputs [])).2 := by
  obtain ⟨-, s, hs, hmirrors, hengine, hbindings⟩ :=
    (compiles_virtual hg hname inputs outputs).ok_of_ok hc
  refine ⟨s, ⟨hg, hengine ▸ hs, hmirrors.mains_eq.symm ▸ hmirrors, ?_⟩, hbindings, hengine⟩
  exact hbindings ▸ compile_complete hg hc

/-! ### Links -/

/-- A link of an annotated level comes from one of the level and has the id of its connection. -/
lemma exists_of_mem_annotateLinks {b : Bindings} {level : Nat} {links : List Link} {link : Link} :
    ∀ {index : Nat}, link ∈ annotateLinks b level index links →
      ∃ l i, GraphLink.ofLink level i l ∈ linksFrom level index links ∧
        link.originId = l.originId ∧ link.targetId = l.targetId ∧
        ∀ id, b.connection? level i = some id → link.connectionId = .string id := by
  induction links with
  | nil =>
    intro index h
    cases h
  | cons l links ih =>
    intro index h
    rw [annotateLinks] at h
    rcases List.mem_cons.mp h with rfl | h
    · refine ⟨l, index, List.mem_cons_self, ?_⟩
      cases b.connection? level index <;> simp
    · obtain ⟨l', i, hmem, hl'⟩ := ih h
      exact ⟨l', i, List.mem_cons_of_mem _ hmem, hl'⟩

/-! ### Nodes and levels -/

section Annotate

variable {name : Nat → String} {g : Graph} {s : Session VirtualEngine} {l : Level} {v : GraphNode}
  {owner : Option Bus} {n : Node}

lemma Bindings.properties_of_bound {b : Bindings} {key : NodeKey} {x : NodeBinding}
    (h : b.node? key = some x) (properties : Json.Members) :
    b.properties key properties = x.overlayProperties properties := by
  unfold Bindings.properties
  rw [h]

/-- A node of the graph stands for the same kind of thing as its node with ids. -/
lemma Node.annotate_means (h : Built name g s) (hl : l ∈ g.levels) (hv : v ∈ l.nodes)
    (hshows : v.Shows l.id n) : (n.annotate g s.bindings l.id).Means v.kind :=
  (Node.classify_eq_ok_iff.mp hshows.kind).annotate (hshows.key ▸ h.complete.node l hl v hv)

/-- A node carries its ids if the level in it does. -/
lemma Node.annotate_carries (h : Built name g s) (hl : l ∈ g.levels) (hv : v ∈ l.nodes)
    (hshows : v.Shows l.id n) (howner : s.Owner l owner)
    (hsub : ∀ c x, v.child = some c → s.Owner c (some x) → ∃ m, n.subgraph = some m ∧
      (m.annotateLevel g s.bindings c.id).Carries s.engine (some x)) :
    (n.annotate g s.bindings l.id).Carries s.engine owner := by
  have hkey : (⟨l.id, n.id⟩ : NodeKey) = v.key := hshows.key.symm
  have hmeans := annotate_means h hl hv hshows
  have hvisit := Graph.visit_mem_steps.mpr ⟨hl, hv⟩
  have hproperties : ∀ x, s.bindings.node? v.key = some x →
      (n.annotate g s.bindings l.id).properties = x.overlayProperties n.properties := by
    intro x hx
    rw [annotate_eq_with, hkey]
    exact Bindings.properties_of_bound hx _
  have hmain : ∀ d slots, v.kind.mainSlots? = some (d, slots) →
      (n.annotate g s.bindings l.id).Carries s.engine owner := by
    intro d slots hslots
    refine .main v.kind d slots hmeans hslots ?_
    rw [hproperties _ (h.recorded.main l hl v hv d slots hslots)]
    exact Keyed.get?_insert_self _ _ _
  have hport : ∀ d port, v.kind.passThrough? d = some port →
      (n.annotate g s.bindings l.id).Carries s.engine owner := by
    intro d port hpass
    cases owner with
    | none => exact .outside v.kind d hmeans (Option.isSome_of_eq_some hpass)
    | some x =>
      obtain ⟨p, hp, rfl, hbusPort⟩ :=
        howner.exists_port (h.wellFormed.fits l hl) hv hpass
      refine .port v.kind d p hmeans hpass hp ?_
      rw [hproperties _ hbusPort]
      exact Keyed.get?_insert_self _ _ _
  -- one case for each kind of node, where those for physical ports and for ports of a bus are
  -- settled
  cases hkind : v.kind with
  | mainInputs slots => exact hmain .input slots (by rw [hkind]; rfl)
  | mainOutputs slots => exact hmain .output slots (by rw [hkind]; rfl)
  | busInput port => exact hport .input port (by rw [hkind]; rfl)
  | busOutput port => exact hport .output port (by rw [hkind]; rfl)
  | busAdd title =>
    obtain ⟨x, hx, hmatch, c, hc, hinside⟩ := h.exists_bus hl hv hkind
    obtain ⟨m, hm, hcarries⟩ := hsub c x hc hinside
    have hsubgraph : (n.annotate g s.bindings l.id).subgraph
        = some (m.annotateLevel g s.bindings c.id) := by
      rw [annotate_eq_with, hkey]
      dsimp only
      rw [h.wellFormed.childLevel?_of_mem hl hv, hc, Option.map_some, hm, Document.annotateChild]
    refine .bus x _ (hmatch.kind ▸ hmeans) hx (howner.eq_ownerId hmatch.owned) ?_ ?_ ?_ hsubgraph
      hcarries
    all_goals rw [hproperties _ hmatch.bound, NodeBinding.overlayProperties]
    · rw [Keyed.get?_insert_of_ne _ _ _ (by decide), Keyed.get?_insert_of_ne _ _ _ (by decide),
        Keyed.get?_insert_self]
    · rw [Keyed.get?_insert_of_ne _ _ _ (by decide), Keyed.get?_insert_self]
    · rw [Keyed.get?_insert_self]
  | processing spec =>
    obtain ⟨x, hx, hmatch⟩ := h.mirrors.exists_module hvisit hkind
    refine .module x (hmatch.kind ▸ hmeans) hx (howner.eq_ownerId hmatch.owned) ?_
    rw [hproperties _ hmatch.bound]
    exact Keyed.get?_insert_self _ _ _
  | unsupported tag => exact .unsupported tag (hkind ▸ hmeans)

/-- A level carries its ids. -/
theorem Document.annotateLevel_carries (h : Built name g s) {pairs : List (Document × Level)}
    (hpairs : ∀ m l, (m, l) ∈ pairs → l ∈ g.levels ∧ l.Unfolds pairs m) {m : Document}
    (hm : (m, l) ∈ pairs) (howner : s.Owner l owner) :
    (m.annotateLevel g s.bindings l.id).Carries s.engine owner := by
  -- on the document: what a bus holds is known of the levels in it
  induction m using Document.induction generalizing l owner with
  | step m ih =>
    obtain ⟨hl, hunfolds⟩ := hpairs m l hm
    obtain ⟨nodes, links, busId, extra⟩ := m
    rw [annotateLevel, Node.annotateList_eq_map]
    refine .level ?_ (List.forall_mem_map.mpr fun n hn => ?_) fun link hlink hkeep => ?_
    · rintro x rfl
      cases howner with | bus _ w parent child names holds
      dsimp only
      rw [holds.level l child]
      rfl
    · obtain ⟨v, hv, hshows⟩ := forall₂_exists_right hunfolds.nodes hn
      refine Node.annotate_carries h hl hv hshows.toShows howner fun c x hc hinside => ?_
      obtain ⟨sub, hsub, hmem⟩ := hshows.child c hc
      exact ⟨sub, hsub, ih n hn sub hsub hmem hinside⟩
    · obtain ⟨l', i, hmem, horigin, htarget, hid⟩ := exists_of_mem_annotateLinks hlink
      rw [← hunfolds.links] at hmem
      have hconnected : ¬ l.LeavesOut (.ofLink l.id i l') := by
        rintro ⟨e, v, hv, hkey, tag, hkind⟩
        obtain ⟨n, hn, hshows⟩ := forall₂_exists_right hunfolds.nodes.flip hv
        refine hkeep ⟨n.annotate g s.bindings l.id, List.mem_map_of_mem hn, ?_, tag,
          hkind ▸ Node.annotate_means h hl hv hshows.toShows⟩
        have hid : (⟨l.id, n.id⟩ : NodeKey) = (GraphLink.ofLink l.id i l').node e :=
          hshows.key.symm.trans hkey
        rw [Node.annotate_eq_with, horigin, htarget]
        cases e with
        | origin => exact .inl (congrArg NodeKey.id hid)
        | target => exact .inr (congrArg NodeKey.id hid)
      obtain ⟨x, hx, hbound⟩ := h.exists_connection hl hmem hconnected
      exact ⟨x, hx, hid _ hbound⟩

/-- The document with the ids of a compilation carries those of the engine that it was compiled
for. -/
theorem Document.annotate_carries {d : Document} (hd : Graph.build d = .ok g) (h : Built name g s) :
    (d.annotate g s.bindings).Carries s.engine none := by
  obtain ⟨hroot, hpairs⟩ := Graph.build_unfolds hd
  have hcarries := annotateLevel_carries h hpairs hroot (.root h.wellFormed.root_parent)
  rwa [h.wellFormed.root_id] at hcarries

end Annotate

end Patchbay
