import Patchbay.Proofs.Compile.Mains
import Patchbay.Proofs.Compile.Order
import Patchbay.Proofs.Engine.Conversation

/-!
# What was recorded

After any number of steps it is known of each node whether it is bound, and to what kind of thing:
nodes for physical ports from the beginning on, buses and modules once they were visited, and
pass-throughs once the bus around them was. All this holds for every engine.
-/

namespace Patchbay

variable {σ : Type}

/-- A bus and what lies in it are bound to the ids of the bus. -/
structure Bindings.HoldsBus (b : Bindings) (v : GraphNode) (ids : BusIds) : Prop where
  own : b.node? v.key = some (.bus ids.id ids.inputs ids.outputs)
  length_ports : ∀ d, (ids.ports d).length = (childPortNames v.child d).length
  port : ∀ c, v.child = some c → ∀ q ∈ ids.pairs c,
    b.node? ⟨c.id, q.1⟩ = some (.busPort ids.id q.2)
  level : ∀ c, v.child = some c → b.levelBus? c.id = some ids.id

/-- A bus that is bound with all its ports stays so. -/
lemma Bindings.HoldsBus.mono {b b' : Bindings} {v : GraphNode} {ids : BusIds}
    (h : b.HoldsBus v ids) (hb : b.Extends b') : b'.HoldsBus v ids :=
  ⟨hb.node h.own, h.length_ports, fun c hc q hq => hb.node (h.port c hc q hq),
    fun c hc => hb.levelBus (h.level c hc)⟩

/-- A pass-through of the level in a bus is bound to a port of the bus. -/
lemma Bindings.HoldsBus.exists_port {b : Bindings} {v w : GraphNode} {ids : BusIds} {l : Level}
    (h : b.HoldsBus w ids) (hchild : w.child = some l) (hl : l.Fits) (hv : v ∈ l.nodes)
    {d : Direction} (hpass : (v.kind.passThrough? d).isSome) :
    ∃ port, (v.key.id, port) ∈ ids.pairs l ∧ b.node? v.key = some (.busPort ids.id port) := by
  have hmem : v.key.id ∈ l.portNodes d := Level.mem_portNodes.mpr ⟨v, hv, rfl, hpass⟩
  have hlen : (ids.ports d).length = (l.portNodes d).length := by
    rw [h.length_ports, hchild]
    exact Level.length_portNames l d
  obtain ⟨port, hport⟩ := ids.exists_mem_pairs hmem hlen
  have hkey : (⟨l.id, v.key.id⟩ : NodeKey) = v.key := by rw [← (hl.node v hv).key_level]
  exact ⟨port, hport, hkey ▸ h.port l hchild _ hport⟩

/-- Why a node may be bound. -/
inductive BoundBy (done : List BuildStep) (l : Level) (v : GraphNode) : Prop where
  | main (h : v.kind.mainSlots?.isSome)
  | bus (title : String) (h : v.kind = .busAdd title) (hvisit : .visit l v ∈ done)
  | module (spec : ModuleSpec) (h : v.kind = .processing spec) (hvisit : .visit l v ∈ done)
  | port (d : Direction) (h : (v.kind.passThrough? d).isSome) (m : Level) (w : GraphNode)
      (hvisit : .visit m w ∈ done) (hchild : w.child = some l)

namespace BoundBy

variable {done : List BuildStep} {l : Level} {v : GraphNode}

/-- A bus is bound by its own visit and by no other step. -/
lemma bus_visited (h : BoundBy done l v) {title : String} (hv : v.kind = .busAdd title) :
    .visit l v ∈ done := by
  cases h with
  | main h => simp [hv, NodeKind.mainSlots?] at h
  | bus _ _ hvisit => exact hvisit
  | module _ h => simp [hv] at h
  | port d h => simp [hv, NodeKind.passThrough?] at h

/-- A module is bound by its own visit and by no other step. -/
lemma module_visited (h : BoundBy done l v) {spec : ModuleSpec} (hv : v.kind = .processing spec) :
    .visit l v ∈ done := by
  cases h with
  | main h => simp [hv, NodeKind.mainSlots?] at h
  | bus _ h => simp [hv] at h
  | module _ _ hvisit => exact hvisit
  | port d h => simp [hv, NodeKind.passThrough?] at h

/-- A pass-through is bound by the bus around it. -/
lemma owner_visited (h : BoundBy done l v) {d : Direction} (hv : (v.kind.passThrough? d).isSome) :
    ∃ m w, .visit m w ∈ done ∧ w.child = some l := by
  cases h with
  | main h => simp [NodeKind.mainSlots?_of_port hv] at h
  | bus _ h => simp [h, NodeKind.passThrough?] at hv
  | module _ h => simp [h, NodeKind.passThrough?] at hv
  | port _ _ m w hvisit hchild => exact ⟨m, w, hvisit, hchild⟩

lemma mono {done' : List BuildStep} (h : BoundBy done l v) (hsub : done ⊆ done') :
    BoundBy done' l v := by
  cases h with
  | main h => exact .main h
  | bus title h hvisit => exact .bus title h (hsub hvisit)
  | module spec h hvisit => exact .module spec h (hsub hvisit)
  | port d h m w hvisit hchild => exact .port d h m w (hsub hvisit) hchild

end BoundBy

/-- What is bound after some steps. -/
structure Recorded (g : Graph) (mains : MainPorts) (done : List BuildStep) (s : Session σ) :
    Prop where
  slots_le : ∀ l ∈ g.levels, ∀ v ∈ l.nodes, ∀ d n, v.kind.mainSlots? = some (d, n) →
    n ≤ (mains.ports d).length
  main : ∀ l ∈ g.levels, ∀ v ∈ l.nodes, ∀ d n, v.kind.mainSlots? = some (d, n) →
    s.bindings.node? v.key = some (.mains ((mains.ports d).take n))
  bus : ∀ l v title, .visit l v ∈ done → v.kind = .busAdd title →
    ∃ ids, s.bindings.HoldsBus v ids
  bound_by : ∀ l ∈ g.levels, ∀ v ∈ l.nodes, ∀ x, s.bindings.node? v.key = some x →
    BoundBy done l v
  connected : ∀ l ∈ g.levels, ∀ k ∈ l.links, ∀ c,
    s.bindings.connection? l.id k.index = some c → .connect l k ∈ done ∧ ¬ l.LeavesOut k
  level_by : ∀ l ∈ g.levels, ∀ bus, s.bindings.levelBus? l.id = some bus →
    ∃ m v, .visit m v ∈ done ∧ v.child = some l
  skipped : ∀ l ∈ g.levels, ∀ v ∈ l.nodes,
    v.key ∈ s.skipped ↔ .visit l v ∈ done ∧ ∃ tag, v.kind = .unsupported tag

lemma skippedEnd?_eq_none_iff {k : GraphLink} {skipped : List NodeKey} :
    k.skippedEnd? skipped = none ↔ ∀ e, k.node e ∉ skipped := by
  simp only [GraphLink.skippedEnd?, List.find?_eq_none, List.contains_iff_mem]
  constructor
  · rintro h (_ | _)
    · exact h k.origin (by simp)
    · exact h k.target (by simp)
  · intro h key hkey
    rcases List.mem_pair.mp hkey with rfl | rfl
    · exact h .origin
    · exact h .target

namespace Recorded

variable {g : Graph} {mains : MainPorts} {done before : List BuildStep} {s : Session σ}
  {l : Level} {v : GraphNode} {k : GraphLink}

/-- At first only the nodes for physical ports are bound. -/
lemma first {b : Bindings} (e : σ)
    (h : MainsBound mains (g.levels.flatMap Level.nodes) b) (hg : g.WellFormed) :
    Recorded g mains [] { engine := e, bindings := b } where
  slots_le l hl v hv := h.slots_le v (List.mem_flatMap.mpr ⟨l, hl, hv⟩)
  main l hl v hv := h.bound v (List.mem_flatMap.mpr ⟨l, hl, hv⟩)
  bus := by simp
  bound_by := by
    intro l hl v hv x hx
    obtain ⟨w, hw, hk, hmain⟩ := h.only v.key x hx
    obtain ⟨m, hm, hw⟩ := List.mem_flatMap.mp hw
    obtain ⟨-, rfl⟩ := hg.node_unique hm hl hw hv hk
    exact .main hmain
  connected := by
    intro l _ k _ c hc
    simp [Bindings.connection?, h.connections] at hc
  level_by := by
    intro l _ bus hbus
    simp [Bindings.levelBus?, h.levelBuses] at hbus
  skipped := by simp

/-! ### Free keys -/

/-- What no step has bound is free. -/
lemma free_of_not_boundBy (hs : Recorded g mains done s) (hl : l ∈ g.levels) (hv : v ∈ l.nodes)
    (h : ¬ BoundBy done l v) : s.bindings.node? v.key = none := by
  cases hx : s.bindings.node? v.key with
  | none => rfl
  | some x => exact (h (hs.bound_by l hl v hv x hx)).elim

/-- A bus that is about to be visited is recorded under free keys. -/
lemma freeFor (hg : g.WellFormed) (hs : Recorded g mains before s)
    (hn : g.Next before (.visit l v)) {title : String} (hv : v.kind = .busAdd title) :
    s.bindings.FreeFor v.key v.child := by
  obtain ⟨hl, hvl⟩ := Graph.visit_mem_steps.mp hn.mem
  have hfresh := hn.fresh hg
  refine ⟨?_, ?_, ?_⟩
  · exact hs.free_of_not_boundBy hl hvl fun h => hfresh (h.bus_visited hv)
  · intro c hc d i hi
    have hcl := Graph.WellFormed.child_mem hl hvl hc
    obtain ⟨w, hw, rfl, hport⟩ := Level.mem_portNodes.mp hi
    have hkey : (⟨c.id, w.key.id⟩ : NodeKey) = w.key := by
      rw [← ((hg.fits c hcl).node w hw).key_level]
    rw [hkey]
    -- only a visit of the node that holds the level binds its pass-throughs, and that is `v`
    refine hs.free_of_not_boundBy hcl hw fun h => ?_
    obtain ⟨m, w', hvisit, hchild⟩ := h.owner_visited hport
    obtain ⟨hm, hw'⟩ := Graph.visit_mem_steps.mp (hn.subset hvisit)
    obtain ⟨rfl, rfl⟩ := hg.owner_unique hl hm hvl hw' hc hchild
    exact hfresh hvisit
  · intro c hc
    cases hx : s.bindings.levelBus? c.id with
    | none => rfl
    | some bus =>
      exfalso
      obtain ⟨m, w, hvisit, hchild⟩ := hs.level_by c (Graph.WellFormed.child_mem hl hvl hc) bus hx
      obtain ⟨hm, hw⟩ := Graph.visit_mem_steps.mp (hn.subset hvisit)
      obtain ⟨rfl, rfl⟩ := hg.owner_unique hl hm hvl hw hc hchild
      exact hfresh hvisit

/-- A module that is about to be visited is recorded under a free key. -/
lemma free_module (hg : g.WellFormed) (hs : Recorded g mains before s)
    (hn : g.Next before (.visit l v)) {spec : ModuleSpec} (hv : v.kind = .processing spec) :
    s.bindings.node? v.key = none := by
  obtain ⟨hl, hvl⟩ := Graph.visit_mem_steps.mp hn.mem
  exact hs.free_of_not_boundBy hl hvl fun h => hn.fresh hg (h.module_visited hv)

/-- A link that is about to be connected is recorded under a free key. -/
lemma free_link (hg : g.WellFormed) (hs : Recorded g mains before s)
    (hn : g.Next before (.connect l k)) : s.bindings.connection? l.id k.index = none := by
  obtain ⟨hl, hk⟩ := Graph.connect_mem_steps.mp hn.mem
  cases hc : s.bindings.connection? l.id k.index with
  | none => rfl
  | some c => exact (hn.fresh hg (hs.connected l hl k hk c hc).1).elim

/-- A link is left out exactly if it touches a node that was. -/
lemma skippedEnd?_eq_none (hg : g.WellFormed) (hs : Recorded g mains before s)
    (hn : g.Next before (.connect l k)) :
    k.skippedEnd? s.skipped = none ↔ ¬ l.LeavesOut k := by
  obtain ⟨hl, hk⟩ := Graph.connect_mem_steps.mp hn.mem
  obtain ⟨-, hvisited⟩ := hn.ready hg
  rw [skippedEnd?_eq_none_iff]
  constructor
  · rintro h ⟨e, v, hv, hkey, htag⟩
    exact h e (hkey ▸ (hs.skipped l hl v hv).mpr ⟨hvisited v hv, htag⟩)
  · rintro h e hskip
    obtain ⟨v, hv, hkey, -⟩ := hg.exists_end hl hk e
    exact h ⟨e, v, hv, hkey, ((hs.skipped l hl v hv).mp (hkey ▸ hskip)).2⟩

/-- A node that the engine knows nothing like stays unbound. -/
lemma free_unsupported (hs : Recorded g mains done s) (hl : l ∈ g.levels) (hv : v ∈ l.nodes)
    {tag : String} (hkind : v.kind = .unsupported tag) : s.bindings.node? v.key = none := by
  refine hs.free_of_not_boundBy hl hv fun h => ?_
  cases h with
  | main h => simp [hkind, NodeKind.mainSlots?] at h
  | bus _ h => simp [hkind] at h
  | module _ h => simp [hkind] at h
  | port _ h => simp [hkind, NodeKind.passThrough?] at h

/-- A link that is left out stays unbound. -/
lemma free_leftOut (hs : Recorded g mains done s) (hl : l ∈ g.levels) {k : GraphLink}
    (hk : k ∈ l.links) (hleft : l.LeavesOut k) : s.bindings.connection? l.id k.index = none := by
  cases hc : s.bindings.connection? l.id k.index with
  | none => rfl
  | some c => exact ((hs.connected l hl k hk c hc).2 hleft).elim

/-- The root belongs to no bus. -/
lemma free_root (hg : g.WellFormed) (hs : Recorded g mains done s) (hsub : done ⊆ g.steps) :
    s.bindings.levelBus? g.root.id = none := by
  cases hx : s.bindings.levelBus? g.root.id with
  | none => rfl
  | some bus =>
    obtain ⟨m, w, hvisit, hchild⟩ := hs.level_by g.root (Graph.WellFormed.root_mem g) bus hx
    obtain ⟨hm, hw⟩ := Graph.visit_mem_steps.mp (hsub hvisit)
    exact (hg.child_ne_root hm hw hchild).elim

/-! ### What a step records -/

/-- What was recorded stays recorded after a step that accounts for what it adds. -/
lemma concat (hs : Recorded g mains before s) {t : BuildStep} {s' : Session σ}
    (hb : s.bindings.Extends s'.bindings)
    (hbus : ∀ l v title, t = .visit l v → v.kind = .busAdd title →
      ∃ ids, s'.bindings.HoldsBus v ids)
    (hnew : ∀ l ∈ g.levels, ∀ v ∈ l.nodes, ∀ x, s'.bindings.node? v.key = some x →
      s.bindings.node? v.key = some x ∨ BoundBy (before ++ [t]) l v)
    (hlink : ∀ l ∈ g.levels, ∀ k ∈ l.links, ∀ c, s'.bindings.connection? l.id k.index = some c →
      s.bindings.connection? l.id k.index = some c ∨ t = .connect l k ∧ ¬ l.LeavesOut k)
    (hlevel : ∀ l ∈ g.levels, ∀ bus, s'.bindings.levelBus? l.id = some bus →
      s.bindings.levelBus? l.id = some bus ∨ ∃ m v, t = .visit m v ∧ v.child = some l)
    (hskip : ∀ l ∈ g.levels, ∀ v ∈ l.nodes,
      v.key ∈ s'.skipped ↔ v.key ∈ s.skipped ∨ t = .visit l v ∧ ∃ tag, v.kind = .unsupported tag) :
    Recorded g mains (before ++ [t]) s' where
  slots_le := hs.slots_le
  main l hl v hv d n hn := hb.node (hs.main l hl v hv d n hn)
  bus := by
    intro l v title hvisit hv
    rcases List.mem_append.mp hvisit with hvisit | hvisit
    · obtain ⟨ids, hids⟩ := hs.bus l v title hvisit hv
      exact ⟨ids, hids.mono hb⟩
    · exact hbus l v title (List.mem_singleton.mp hvisit).symm hv
  bound_by := by
    intro l hl v hv x hx
    rcases hnew l hl v hv x hx with hx | h
    · exact (hs.bound_by l hl v hv x hx).mono (List.subset_append_left _ _)
    · exact h
  connected := by
    intro l hl k hk c hc
    rcases hlink l hl k hk c hc with hc | ⟨rfl, hkeep⟩
    · -- it was there before this step
      obtain ⟨hdone, hkeep⟩ := hs.connected l hl k hk c hc
      exact ⟨List.mem_append_left _ hdone, hkeep⟩
    · exact ⟨by simp, hkeep⟩
  level_by := by
    intro l hl bus hbus
    rcases hlevel l hl bus hbus with hbus | ⟨m, v, rfl, hchild⟩
    · obtain ⟨m, v, hvisit, hchild⟩ := hs.level_by l hl bus hbus
      exact ⟨m, v, List.mem_append_left _ hvisit, hchild⟩
    · exact ⟨m, v, by simp, hchild⟩
  skipped := by
    intro l hl v hv
    rw [hskip l hl v hv, hs.skipped l hl v hv, List.mem_append, List.mem_singleton, eq_comm,
      or_and_right]

/-- A step that records nothing. -/
lemma concat_idle (hs : Recorded g mains before s) {t : BuildStep} {s' : Session σ}
    (hb : s'.bindings = s.bindings) (hskip : s'.skipped = s.skipped)
    (ht : ∀ l v, t = .visit l v →
      (∀ title, v.kind ≠ .busAdd title) ∧ ∀ tag, v.kind ≠ .unsupported tag) :
    Recorded g mains (before ++ [t]) s' := by
  refine hs.concat (hb ▸ .refl _) ?_ ?_ ?_ ?_ ?_
  · intro l v title h hv
    exact ((ht l v h).1 title hv).elim
  · intro l _ v _ x hx
    exact .inl (hb ▸ hx)
  · intro l _ k _ c hc
    exact .inl (hb ▸ hc)
  · intro l _ bus hbus
    exact .inl (hb ▸ hbus)
  · intro l _ v _
    rw [hskip, or_iff_left]
    rintro ⟨h, tag, hv⟩
    exact (ht l v h).2 tag hv

/-- A bus that is made is bound with its ports in the level that it holds. -/
lemma withBus (hg : g.WellFormed) (hs : Recorded g mains before s)
    (hn : g.Next before (.visit l v)) {title : String} (hv : v.kind = .busAdd title)
    {ids : BusIds} (e : σ)
    (hlen : ∀ d, (ids.ports d).length = (childPortNames v.child d).length) :
    Recorded g mains (before ++ [.visit l v]) ((s.withBus v ids).withEngine e) := by
  obtain ⟨hl, hvl⟩ := Graph.visit_mem_steps.mp hn.mem
  have hfree := hs.freeFor hg hn hv
  refine hs.concat hfree.extends ?_ ?_ ?_ ?_ ?_
  · rintro m w title' ⟨⟩ -
    refine ⟨ids, Bindings.node?_withBus_self, hlen, ?_, ?_⟩
    · intro c hc q hq
      have hcl := Graph.WellFormed.child_mem hl hvl hc
      change (s.bindings.withBus v.key v.child ids).node? _ = _
      rw [hc]
      exact Bindings.node?_withBus_port (hg.fits c hcl) (hg.child_level_ne hl hvl hc) hq
    · intro c hc
      change (s.bindings.withBus v.key v.child ids).levelBus? c.id = _
      rw [Bindings.levelBus?_withBus, if_pos (by rw [hc]; rfl), hfree.level c hc]
      rfl
  · intro m hm w hw x hx
    by_cases hk : w.key = v.key
    · obtain ⟨rfl, rfl⟩ := hg.node_unique hm hl hw hvl hk
      exact .inr (.bus title hv (by simp))
    · -- besides the bus itself only the pass-throughs of its level are bound now
      by_cases hport : ∃ c, v.child = some c ∧ w.key.level = c.id ∧ ∃ d, w.key.id ∈ c.portNodes d
      · obtain ⟨c, hc, hlevel, d, hd⟩ := hport
        have hcl := Graph.WellFormed.child_mem hl hvl hc
        obtain ⟨w', hw', hid, hpass⟩ := Level.mem_portNodes.mp hd
        obtain ⟨rfl, rfl⟩ := hg.eq_of_key hm hcl hw hw' hlevel hid
        exact .inr (.port d hpass l v (by simp) hc)
      · left
        rw [← Bindings.node?_withBus_of_ne hk]
        · exact hx
        · intro c hc hlevel d hd
          exact hport ⟨c, hc, hlevel, d, hd⟩
  · intro m _ k _ c hc
    left
    simpa [Session.withBus, Session.withEngine] using hc
  · intro m hm bus hbus
    change (s.bindings.withBus v.key v.child ids).levelBus? m.id = _ at hbus
    rw [Bindings.levelBus?_withBus] at hbus
    split_ifs at hbus with hid
    · obtain ⟨c, hc, hcid⟩ := Option.map_eq_some_iff.mp hid
      obtain rfl := hg.level_unique (Graph.WellFormed.child_mem hl hvl hc) hm hcid
      exact .inr ⟨l, v, rfl, hc⟩
    · exact .inl hbus
  · intro m _ w _
    rw [or_iff_left]
    · rfl
    · rintro ⟨⟨⟩, tag, hw⟩
      rw [hv] at hw
      cases hw

/-- A module that is made is bound by its own visit. -/
lemma withModule (hg : g.WellFormed) (hs : Recorded g mains before s)
    (hn : g.Next before (.visit l v)) {spec : ModuleSpec} (hv : v.kind = .processing spec)
    (bus : String) (ids : ModuleIds) (e : σ) :
    Recorded g mains (before ++ [.visit l v]) ((s.withModule v bus ids).withEngine e) := by
  obtain ⟨hl, hvl⟩ := Graph.visit_mem_steps.mp hn.mem
  have hfree := hs.free_module hg hn hv
  have hbind := Bindings.bindNode_of_none hfree (v.moduleBinding bus ids)
  refine hs.concat (Bindings.bindNode_extends hbind) ?_ ?_ ?_ ?_ ?_
  · rintro m w title ⟨⟩ hw
    rw [hv] at hw
    cases hw
  · intro m hm w hw x hx
    change Bindings.node? { s.bindings with nodes := _ :: s.bindings.nodes } w.key = _ at hx
    rw [Bindings.node?_cons] at hx
    split_ifs at hx with hk
    · obtain ⟨rfl, rfl⟩ := hg.node_unique hm hl hw hvl hk
      exact .inr (.module spec hv (by simp))
    · exact .inl hx
  · exact fun _ _ _ _ _ hc => .inl hc
  · exact fun _ _ _ hbus => .inl hbus
  · intro m _ w _
    rw [or_iff_left]
    · rfl
    · rintro ⟨⟨⟩, tag, hw⟩
      rw [hv] at hw
      cases hw

/-- An unsupported node is left out by its own visit. -/
lemma withSkipped (hg : g.WellFormed) (hs : Recorded g mains before s)
    (hn : g.Next before (.visit l v)) {tag : String} (hv : v.kind = .unsupported tag) :
    Recorded g mains (before ++ [.visit l v]) (s.withSkipped v.key tag) := by
  obtain ⟨hl, hvl⟩ := Graph.visit_mem_steps.mp hn.mem
  refine hs.concat (.refl _) ?_ (fun _ _ _ _ _ hx => .inl hx) (fun _ _ _ _ _ hc => .inl hc)
    (fun _ _ _ hbus => .inl hbus) ?_
  · rintro m w title ⟨⟩ hw
    rw [hv] at hw
    cases hw
  · intro m hm w hw
    change w.key ∈ v.key :: s.skipped ↔ _
    rw [List.mem_cons, or_comm]
    refine or_congr_right ?_
    constructor
    · intro hk
      obtain ⟨rfl, rfl⟩ := hg.node_unique hm hl hw hvl hk
      exact ⟨rfl, tag, hv⟩
    · rintro ⟨⟨⟩, -⟩
      rfl

/-- A link that is connected was not left out. -/
lemma withConnection (hg : g.WellFormed) (hs : Recorded g mains before s)
    (hn : g.Next before (.connect l k)) (hkeep : ¬ l.LeavesOut k) (id : String) (e : σ) :
    Recorded g mains (before ++ [.connect l k]) ((s.withConnection l k id).withEngine e) := by
  obtain ⟨hl, hkl⟩ := Graph.connect_mem_steps.mp hn.mem
  have hfree := hs.free_link hg hn
  have hbind := Bindings.bindConnection_of_none hfree k.id id
  refine hs.concat (Bindings.bindConnection_extends hbind) (by simp)
    (fun _ _ _ _ _ hx => .inl hx) ?_ (fun _ _ _ hbus => .inl hbus) ?_
  · intro m hm k' hk' c hc
    change Bindings.connection? { s.bindings with connections := _ :: s.bindings.connections }
      m.id k'.index = _ at hc
    rw [Bindings.connection?_cons] at hc
    split_ifs at hc with heq
    · obtain ⟨hid, hindex⟩ := Prod.mk.inj heq
      obtain rfl := hg.level_unique hm hl hid
      obtain rfl := hg.link_unique hl hk' hkl hindex
      exact .inr ⟨rfl, hkeep⟩
    · exact .inl hc
  · intro m _ w _
    rw [or_iff_left]
    · rfl
    · rintro ⟨⟨⟩, -⟩

/-! ### Steps by the kind of their node -/

variable {ok : Unit → Session σ → Prop} {fail : CompileError → Session σ → Prop}

/-- The visit of a bus is the conversation that makes it. Its bindings cannot fail. -/
lemma perform_bus_iff (engine : Engine σ) (hg : g.WellFormed) (hs : Recorded g mains before s)
    (hn : g.Next before (.visit l v)) {title : String} (hv : v.kind = .busAdd title) :
    Ends (Compiler.perform engine (.visit l v)) s ok fail ↔
      Ends (engine.newBus (s.bindings.busOf l) title (childPortNames v.child .input)
          (childPortNames v.child .output)) s.engine
        (fun ids e => ok () ((s.withBus v ids).withEngine e))
        (fun err e => fail (.engine err) (s.withEngine e)) := by
  obtain ⟨hl, hvl⟩ := Graph.visit_mem_steps.mp hn.mem
  rw [Compiler.perform, Ends.bind_iff, Ends.get_iff, Compiler.visitNode]
  simp only [hv, Ends.bind_iff, Ends.pure_iff]
  exact Compiler.createBus_iff engine _ title
    (fun c hc => hg.fits c (Graph.WellFormed.child_mem hl hvl hc))
    (fun c hc => hg.child_level_ne hl hvl hc) (hs.freeFor hg hn hv)

/-- The visit of a module is the conversation that makes it. -/
lemma perform_module_iff (engine : Engine σ) (hg : g.WellFormed)
    (hs : Recorded g mains before s) (hn : g.Next before (.visit l v)) {spec : ModuleSpec}
    (hv : v.kind = .processing spec) :
    Ends (Compiler.perform engine (.visit l v)) s ok fail ↔
      Ends (engine.newModule (s.bindings.busOf l) spec) s.engine
        (fun ids e => ok () ((s.withModule v (s.bindings.busOf l) ids).withEngine e))
        (fun err e => fail (.engine err) (s.withEngine e)) := by
  rw [Compiler.perform, Ends.bind_iff, Ends.get_iff, Compiler.visitNode]
  simp only [hv]
  exact Compiler.createModule_iff engine _ spec (hs.free_module hg hn hv)

/-- A link is left out, or has no addresses, or is asked for. -/
lemma perform_link_iff (engine : Engine σ) (hg : g.WellFormed) (hs : Recorded g mains before s)
    (hn : g.Next before (.connect l k)) :
    Ends (Compiler.perform engine (.connect l k)) s ok fail ↔
      match k.skippedEnd? s.skipped with
      | some node => ok () (s.withWarnings [.skippedLink l.id k.id node])
      | none =>
        match Compiler.linkAddresses l s.bindings k with
        | .error err => fail err s
        | .ok (origin, target) =>
          Ends (engine.ask (.addConnection origin.text target.text)) s.engine
            (fun id e => ok () ((s.withConnection l k id).withEngine e))
            (fun err e => fail (.engine err) (s.withEngine e)) :=
  Compiler.connectLink_iff engine (hs.free_link hg hn)

lemma perform_unsupported_iff (engine : Engine σ) {tag : String}
    (hv : v.kind = .unsupported tag) :
    Ends (Compiler.perform engine (.visit l v)) s ok fail ↔ ok () (s.withSkipped v.key tag) := by
  rw [Compiler.perform, Ends.bind_iff, Ends.get_iff, Compiler.visitNode]
  simp only [hv]
  exact Compiler.skipNode_iff v.key tag

/-- Nodes for physical ports and ports of a bus need no visit. -/
lemma perform_idle_iff (engine : Engine σ) (hbus : ∀ title, v.kind ≠ .busAdd title)
    (hmodule : ∀ spec, v.kind ≠ .processing spec) (hskip : ∀ tag, v.kind ≠ .unsupported tag) :
    Ends (Compiler.perform engine (.visit l v)) s ok fail ↔ ok () s := by
  rw [Compiler.perform, Ends.bind_iff, Ends.get_iff, Compiler.visitNode]
  split
  · exact (hbus _ ‹_›).elim
  · exact (hmodule _ ‹_›).elim
  · exact (hskip _ ‹_›).elim
  all_goals exact Ends.pure_iff ()

/-- Every step keeps what was recorded. -/
theorem step (engine : Engine σ) (hg : g.WellFormed) {t : BuildStep} (hn : g.Next before t)
    (hs : Recorded g mains before s) :
    Ends (Compiler.perform engine t) s (fun _ s' => Recorded g mains (before ++ [t]) s')
      (fun _ _ => True) := by
  -- on the step, and for a visit on the kind of the node
  cases t with
  | enter l => exact hs.concat_idle rfl rfl (by simp)
  | visit l v =>
    cases hv : v.kind with
    | busAdd title =>
      rw [hs.perform_bus_iff engine hg hn hv]
      refine (engine.newBus_ends _ _ _ _ _).imp ?_ fun _ _ => id
      rintro ids e ⟨hins, houts⟩
      refine hs.withBus hg hn hv e ?_
      rintro (_ | _)
      · exact hins
      · exact houts
    | processing spec =>
      rw [hs.perform_module_iff engine hg hn hv]
      exact Ends.of_ok fun ids e => hs.withModule hg hn hv _ ids e
    | unsupported tag =>
      rw [perform_unsupported_iff engine hv]
      exact hs.withSkipped hg hn hv
    | mainInputs | mainOutputs | busInput | busOutput =>
      rw [perform_idle_iff engine (by simp [hv]) (by simp [hv]) (by simp [hv])]
      refine hs.concat_idle rfl rfl ?_
      rintro m w ⟨⟩
      simp [hv]
  | connect l k =>
    rw [hs.perform_link_iff engine hg hn]
    split
    · exact hs.concat_idle rfl rfl (by simp)
    · rename_i hskip
      have hkeep := (hs.skippedEnd?_eq_none hg hn).mp hskip
      split
      · trivial
      · exact Ends.of_ok fun id e => hs.withConnection hg hn hkeep id e

end Recorded

end Patchbay
