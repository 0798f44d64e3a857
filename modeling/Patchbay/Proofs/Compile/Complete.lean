import Patchbay.Proofs.Compile.Links
import Patchbay.Proofs.Compile.Whole

/-!
# Bindings of successful compilations

A compilation that succeeds has bound whatever can be bound and nothing else. Which places these are
depends on the graph alone, so two compilations of a graph bind the same places, whatever engines
they ask.
-/

namespace Patchbay

/-- What a node of a level is bound to in the end. -/
def GraphNode.BoundTo (l : Level) (v : GraphNode) (x : Option NodeBinding) : Prop :=
  match v.kind with
  | .mainInputs slots | .mainOutputs slots => ∃ ids, x = some (.mains ids) ∧ ids.length = slots
  | .busAdd _ => ∃ id inputs outputs, x = some (.bus id inputs outputs)
  | .busInput _ | .busOutput _ =>
    match l.parent with
    | none => x = none
    | some _ => ∃ bus port, x = some (.busPort bus port)
  | .processing _ => ∃ bus ids, x = some (v.moduleBinding bus ids)
  | .unsupported _ => x = none

structure Bindings.Complete (g : Graph) (b : Bindings) : Prop where
  node : ∀ l ∈ g.levels, ∀ v ∈ l.nodes, v.BoundTo l (b.node? v.key)
  connection : ∀ l ∈ g.levels, ∀ k ∈ l.links,
    (b.connection? l.id k.index).isSome ↔ ¬ l.LeavesOut k
  levelBus : ∀ l ∈ g.levels, (b.levelBus? l.id).isSome ↔ l.parent.isSome

/-- A node is bound to things of one kind, with as many slots, or both times to nothing. -/
inductive NodeBinding.Alike : Option NodeBinding → Option NodeBinding → Prop
  | unbound : Alike none none
  | mains (ids ids' : List String) : Alike (some (.mains ids)) (some (.mains ids'))
  | bus (id id' : String) (inputs inputs' outputs outputs' : List String) :
      Alike (some (.bus id inputs outputs)) (some (.bus id' inputs' outputs'))
  | busPort (bus bus' port port' : String) :
      Alike (some (.busPort bus port)) (some (.busPort bus' port'))
  | processing (bus bus' id id' : String) (inputs inputs' outputs outputs' : List (Option String))
      (length_inputs : inputs.length = inputs'.length)
      (length_outputs : outputs.length = outputs'.length) :
      Alike (some (.processing bus id inputs outputs)) (some (.processing bus' id' inputs' outputs'))

/-- What a node is bound to differs only in its ids. -/
lemma GraphNode.BoundTo.alike {l : Level} {v : GraphNode} {x x' : Option NodeBinding}
    (h : v.BoundTo l x) (h' : v.BoundTo l x') : NodeBinding.Alike x x' := by
  unfold BoundTo at h h'
  cases hk : v.kind <;> simp only [hk] at h h'
  case mainInputs | mainOutputs =>
    obtain ⟨ids, rfl, -⟩ := h
    obtain ⟨ids', rfl, -⟩ := h'
    exact .mains ids ids'
  case busAdd =>
    obtain ⟨id, inputs, outputs, rfl⟩ := h
    obtain ⟨id', inputs', outputs', rfl⟩ := h'
    exact .bus id id' inputs inputs' outputs outputs'
  case busInput | busOutput =>
    cases hparent : l.parent <;> simp only [hparent] at h h'
    · rw [h, h']
      exact .unbound
    · obtain ⟨bus, port, rfl⟩ := h
      obtain ⟨bus', port', rfl⟩ := h'
      exact .busPort bus bus' port port'
  case processing =>
    obtain ⟨bus, ids, rfl⟩ := h
    obtain ⟨bus', ids', rfl⟩ := h'
    -- the entries of a module are as many as its slots, with either engine
    exact .processing _ _ _ _ _ _ _ _ (by simp [matchPorts]) (by simp [matchPorts])
  case unsupported =>
    rw [h, h']
    exact .unbound

variable {σ : Type}

/-- The modules that were visited are bound, and so are the links that were connected. -/
structure Finished (done : List BuildStep) (s : Session σ) : Prop where
  module : ∀ l v spec, .visit l v ∈ done → v.kind = .processing spec →
    ∃ bus ids, s.bindings.node? v.key = some (v.moduleBinding bus ids)
  link : ∀ l k, .connect l k ∈ done → ¬ l.LeavesOut k →
    (s.bindings.connection? l.id k.index).isSome

namespace Finished

variable {g : Graph} {mains : MainPorts} {before : List BuildStep} {s s' : Session σ}
  {t : BuildStep} {l : Level} {v : GraphNode} {k : GraphLink}

lemma nil (s : Session σ) : Finished [] s := ⟨by simp, by simp⟩

/-- One more step leaves what was bound, and adds what belongs to it. -/
lemma concat (h : Finished before s) (hb : s.bindings.Extends s'.bindings)
    (hmodule : ∀ l v spec, t = .visit l v → v.kind = .processing spec →
      ∃ bus ids, s'.bindings.node? v.key = some (v.moduleBinding bus ids))
    (hlink : ∀ l k, t = .connect l k → ¬ l.LeavesOut k →
      (s'.bindings.connection? l.id k.index).isSome) : Finished (before ++ [t]) s' where
  module := by
    intro l v spec hvisit hv
    rcases List.mem_append.mp hvisit with hvisit | hvisit
    · obtain ⟨bus, ids, hbound⟩ := h.module l v spec hvisit hv
      exact ⟨bus, ids, hb.node hbound⟩
    · exact hmodule l v spec (List.mem_singleton.mp hvisit).symm hv
  link := by
    intro l k hdone hkeep
    rcases List.mem_append.mp hdone with hdone | hdone
    · obtain ⟨c, hc⟩ := Option.isSome_iff_exists.mp (h.link l k hdone hkeep)
      simp [hb.connection hc]
    · exact hlink l k (List.mem_singleton.mp hdone).symm hkeep

/-- A module is bound once it is visited. -/
lemma perform_module (engine : Engine σ) (hg : g.WellFormed) (hs : Recorded g mains before s)
    (hn : g.Next before (.visit l v)) {spec : ModuleSpec} (hv : v.kind = .processing spec) :
    Ends (Compiler.perform engine (.visit l v)) s
      (fun _ s' => ∃ bus ids, s'.bindings.node? v.key = some (v.moduleBinding bus ids))
      (fun _ _ => True) := by
  rw [hs.perform_module_iff engine hg hn hv]
  refine Ends.of_ok fun ids e => ⟨s.bindings.busOf l, ids, ?_⟩
  exact (Bindings.node?_cons _ _ _).trans (if_pos rfl)

/-- A link that is not left out is bound once it is connected. -/
lemma perform_link (engine : Engine σ) (hg : g.WellFormed) (hs : Recorded g mains before s)
    (hn : g.Next before (.connect l k)) (hkeep : ¬ l.LeavesOut k) :
    Ends (Compiler.perform engine (.connect l k)) s
      (fun _ s' => (s'.bindings.connection? l.id k.index).isSome) (fun _ _ => True) := by
  rw [hs.perform_link_iff engine hg hn, (hs.skippedEnd?_eq_none hg hn).mpr hkeep]
  dsimp only
  split
  · trivial
  · refine Ends.of_ok fun id e => ?_
    change (Bindings.connection? { s.bindings with connections := _ :: s.bindings.connections }
      l.id k.index).isSome
    rw [Bindings.connection?_cons, if_pos rfl]
    rfl

/-- Every step binds what it has to, if it succeeds. -/
lemma step (engine : Engine σ) (hg : g.WellFormed) (hn : g.Next before t)
    (hs : Recorded g mains before s) (h : Finished before s) :
    Ends (Compiler.perform engine t) s (fun _ s' => Finished (before ++ [t]) s')
      (fun _ _ => True) := by
  have hextends := Compiler.perform_extends engine t (s := s)
  cases t with
  | enter l => exact hextends.imp (fun _ _ hb => h.concat hb (by simp) (by simp)) fun _ _ => id
  | visit l v =>
    by_cases hv : ∃ spec, v.kind = .processing spec
    · -- of the nodes that are visited only modules are bound here; the others were bound earlier
      obtain ⟨spec, hv⟩ := hv
      refine (hextends.and (perform_module engine hg hs hn hv)).imp ?_ fun _ _ _ => trivial
      rintro _ s' ⟨hb, hbound⟩
      refine h.concat hb ?_ (by simp)
      rintro m w spec' ⟨⟩ -
      exact hbound
    · refine hextends.imp (fun _ _ hb => h.concat hb ?_ (by simp)) fun _ _ => id
      rintro m w spec ⟨⟩ hw
      exact (hv ⟨spec, hw⟩).elim
  | connect l k =>
    by_cases hkeep : l.LeavesOut k
    · refine hextends.imp (fun _ _ hb => h.concat hb (by simp) ?_) fun _ _ => id
      rintro m k' ⟨⟩ hkeep'
      exact (hkeep' hkeep).elim
    · refine (hextends.and (perform_link engine hg hs hn hkeep)).imp ?_ fun _ _ _ => trivial
      rintro _ s' ⟨hb, hbound⟩
      refine h.concat hb (by simp) ?_
      rintro m k' ⟨⟩ -
      exact hbound

/-- A port of a level is bound to the port of the bus around it, if there is one. -/
lemma boundTo_port (hg : g.WellFormed) (hs : Recorded g mains g.steps s) (hl : l ∈ g.levels)
    (hv : v ∈ l.nodes) {d : Direction} (hpass : (v.kind.passThrough? d).isSome) :
    match l.parent with
    | none => s.bindings.node? v.key = none
    | some _ => ∃ bus port, s.bindings.node? v.key = some (.busPort bus port) := by
  cases hparent : l.parent with
  | none =>
    obtain rfl := hg.eq_root_of_parent hl hparent
    exact hs.free_port_of_root hg (List.Subset.refl _) hv hpass
  | some key =>
    obtain ⟨m, -, w, -, hchild, ids, hids⟩ :=
      hs.exists_bus_around hg (hg.heldIn_steps hl) (List.Subset.refl _) hparent
    obtain ⟨port, -, hbound⟩ := hids.exists_port hchild (hg.fits l hl) hv hpass
    exact ⟨ids.id, port, hbound⟩

/-- What the nodes are bound to after all steps. -/
lemma boundTo (hg : g.WellFormed) (hs : Recorded g mains g.steps s) (h : Finished g.steps s)
    (hl : l ∈ g.levels) (hv : v ∈ l.nodes) : v.BoundTo l (s.bindings.node? v.key) := by
  have hvisit := Graph.visit_mem_steps.mpr ⟨hl, hv⟩
  have hmain : ∀ d n, v.kind.mainSlots? = some (d, n) →
      ∃ ids, s.bindings.node? v.key = some (.mains ids) ∧ ids.length = n := by
    intro d n hn
    exact ⟨_, hs.main l hl v hv d n hn, List.length_take_of_le (hs.slots_le l hl v hv d n hn)⟩
  unfold GraphNode.BoundTo
  split
  case h_1 slots hk => exact hmain .input slots (by rw [hk]; rfl)
  case h_2 slots hk => exact hmain .output slots (by rw [hk]; rfl)
  case h_3 title hk =>
    obtain ⟨ids, hids⟩ := hs.bus l v title hvisit hk
    exact ⟨ids.id, ids.inputs, ids.outputs, hids.own⟩
  case h_4 name hk => exact boundTo_port (d := .input) hg hs hl hv (by rw [hk]; rfl)
  case h_5 name hk => exact boundTo_port (d := .output) hg hs hl hv (by rw [hk]; rfl)
  case h_6 spec hk => exact h.module l v spec hvisit hk
  case h_7 tag hk => exact hs.free_unsupported hl hv hk

/-- What is bound after all steps. -/
lemma complete (hg : g.WellFormed) (hs : Recorded g mains g.steps s) (h : Finished g.steps s) :
    s.bindings.Complete g where
  node _ hl _ hv := h.boundTo hg hs hl hv
  connection := by
    intro l hl k hk
    constructor
    · intro hbound
      obtain ⟨c, hc⟩ := Option.isSome_iff_exists.mp hbound
      exact (hs.connected l hl k hk c hc).2
    · exact h.link l k (Graph.connect_mem_steps.mpr ⟨hl, hk⟩)
  levelBus := by
    intro l hl
    constructor
    · intro hbound
      by_contra hparent
      obtain rfl := hg.eq_root_of_parent hl (by simpa using hparent)
      simp [hs.free_root hg (List.Subset.refl _)] at hbound
    · intro hparent
      obtain ⟨key, hkey⟩ := Option.isSome_iff_exists.mp hparent
      obtain ⟨m, -, w, -, hchild, ids, hids⟩ :=
        hs.exists_bus_around hg (hg.heldIn_steps hl) (List.Subset.refl _) hkey
      simp [hids.level l hchild]

end Finished

/-- The bindings of a successful compilation are complete. -/
theorem compile_complete {engine : Engine σ} {g : Graph} (hg : g.WellFormed) {state : σ}
    {c : Compilation} (h : (compile engine g state).1 = .ok c) : c.bindings.Complete g := by
  have hall : Compiles engine g state (fun c _ => c.bindings.Complete g) (fun _ _ => True) := by
    refine compiles hg (P := fun _ done s => Finished done s) ?_ ?_ ?_
    · exact Ends.of_ok fun mains e => ⟨fun b _ => .nil _, fun _ _ _ _ _ _ => trivial⟩
    · intro mains before t s hn hs hp
      exact hp.step engine hg hn hs
    · intro mains s hs hp
      exact hp.complete hg hs
  exact hall.ok_of_ok h

end Patchbay
