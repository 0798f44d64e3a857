import Patchbay.Proofs.InPlace.Steps

/-!
# Nodes built in place

A node is built by the recursion over a document as it is by a compilation. The recursion is given
the ports of the bus around it, which the compilation finds in the bindings; afterwards the
recursion has the node written and knows how it is linked to, which the bindings say too.
-/

namespace Patchbay

variable {σ : Type} {g : Graph} {mains : MainPorts}

/-- The bus around a level, and which of its ports the level's nodes are. -/
inductive Around (g : Graph) (b : Bindings) (l : Level) : String → List (Int × String) → Prop
  | root (h : l = g.root) : Around g b l "" []
  | bus (m : Level) (w : GraphNode) (ids : BusIds) (hm : m ∈ g.levels) (hw : w ∈ m.nodes)
      (hchild : w.child = some l) (hids : b.HoldsBus w ids) : Around g b l ids.id (ids.pairs l)

namespace Around

variable {b b' : Bindings} {l : Level} {bus : String} {ports : List (Int × String)}

lemma mono (h : Around g b l bus ports) (hb : b.Extends b') : Around g b' l bus ports := by
  cases h with
  | root h => exact .root h
  | bus m w ids hm hw hchild hids => exact .bus m w ids hm hw hchild (hids.mono hb)

lemma busOf_eq (hg : g.WellFormed) (h : Around g b l bus ports) : b.busOf l = bus := by
  cases h with
  | root h =>
    subst h
    simp [Bindings.busOf, hg.root_parent]
  | bus m w ids hm hw hchild hids =>
    simp [Bindings.busOf, ((hg.fits m hm).node w hw).child_parent l hchild, hids.own]

/-- A pass-through has a port of the bus around it, unless it stands in the root. -/
lemma lookup (hg : g.WellFormed) (h : Around g b l bus ports) (hl : l ∈ g.levels)
    {v : GraphNode} (hv : v ∈ l.nodes) {d : Direction} (hpass : (v.kind.passThrough? d).isSome) :
    l = g.root ∧ ports.lookup v.key.id = none ∨
      ∃ port, ports.lookup v.key.id = some port ∧ b.node? v.key = some (.busPort bus port) := by
  cases h with
  | root h => exact .inl ⟨h, rfl⟩
  | bus m w ids hm hw hchild hids =>
    have hmem : v.key.id ∈ l.portNodes d := Level.mem_portNodes.mpr ⟨v, hv, rfl, hpass⟩
    have hlen : (ids.ports d).length = (l.portNodes d).length := by
      rw [hids.length_ports, hchild]
      exact Level.length_portNames l d
    -- the bus has as many ports as its level has pass-throughs
    obtain ⟨port, hport⟩ := ids.exists_mem_pairs hmem hlen
    refine .inr ⟨port, lookup_of_mem (ids.pairs_nodup (hg.fits l hl)) hport, ?_⟩
    have hbound := hids.port l hchild _ hport
    have hkey : (⟨l.id, v.key.id⟩ : NodeKey) = v.key := by
      rw [← ((hg.fits l hl).node v hv).key_level]
    rwa [hkey] at hbound

end Around

/-! ### Nodes by what they mean -/

namespace Worker

variable (engine : Engine σ) (place : BusPath) (bus : String) (ports : List (Int × String))
  {n : Node}

lemma treatNode_main {d : Direction} {slots : Nat} (h : n.meaning.mainSlots? = some (d, slots)) :
    treatNode engine place bus ports n = pure (n, .mains n.mainIds) := by
  cases n
  rw [treatNode]
  split <;> simp_all [NodeKind.mainSlots?]

lemma treatNode_port {d : Direction} (h : (n.meaning.passThrough? d).isSome) :
    treatNode engine place bus ports n = match ports.lookup n.id with
      | none => pure (n, .unbound)
      | some port => pure (n.withProperty "id" (.string port), .busPort bus port) := by
  cases n
  rw [treatNode]
  split <;> first | rfl | simp_all [NodeKind.passThrough?]

lemma treatNode_bus {title : String} (h : n.meaning = .busAdd title) :
    treatNode engine place bus ports n = do
      let nodes := (n.subgraph.map Document.nodes).getD []
      let ids ← makeBus engine bus title ((Node.passThroughs .input nodes).map Prod.snd)
        ((Node.passThroughs .output nodes).map Prod.snd)
      let subgraph ← treatChild engine (place ++ [n.id]) ids n.subgraph
      return ({ n.withBusIds ids with subgraph := subgraph }, .bus ids) := by
  cases n
  rw [treatNode]
  split <;> simp_all

lemma treatNode_module {spec : ModuleSpec} (h : n.meaning = .processing spec) :
    treatNode engine place bus ports n = do
      let ids ← makeModule engine place bus n spec
      return (n.withModuleIds ids, .module bus n ids) := by
  cases n
  rw [treatNode]
  split <;> simp_all

lemma treatNode_unsupported {tag : String} (h : n.meaning = .unsupported tag) :
    treatNode engine place bus ports n = do
      notice [.unsupportedNode place n.id tag]
      return (n, .leftOut) := by
  cases n
  rw [treatNode]
  split <;> simp_all

lemma treatChild_some (ids : BusIds) (d : Document) :
    treatChild engine place ids (some d) = do
      let d' ← treat engine place ids.id
        (((Node.passThroughs .input d.nodes).map Prod.fst).zip ids.inputs ++
          ((Node.passThroughs .output d.nodes).map Prod.fst).zip ids.outputs) d
      return some { d' with busId := some ids.id } := by
  cases d
  rw [treatChild]

end Worker

/-! ### What the recursion is given -/

section Given

variable {level : Nat} {n : Node} {v : GraphNode} {l : Level}

/-- No node asks for more physical ports than there are. -/
def EnoughMains (mains : MainPorts) (v : GraphNode) : Prop :=
  ∀ d k, v.kind.mainSlots? = some (d, k) → k ≤ (mains.ports d).length

/-- A node with physical ports written into it is still the same node of the graph. -/
lemma GraphNode.Stems.withMains (hv : v.Stems level n) (henough : EnoughMains mains v) :
    v.Stems level (n.withMains mains) := by
  have hmeaning : (n.withMains mains).meaning = n.meaning :=
    Node.meaning_withMains fun d k hk => henough d k (hv.meaning ▸ hk)
  have hsame : (n.withMains mains).id = n.id ∧ (n.withMains mains).inputs = n.inputs ∧
      (n.withMains mains).outputs = n.outputs := by
    rw [Node.withMains_eq]
    split <;> exact ⟨rfl, rfl, rfl⟩
  obtain ⟨hid, hin, hout⟩ := hsame
  refine ⟨by rw [hid, hv.key], hmeaning.trans hv.meaning, ?_, ?_⟩
  · rw [hv.inputNames, Node.inputNames, Node.inputNames, hin]
  · rw [hv.outputNames, Node.outputNames, Node.outputNames, hout]

/-- The nodes of a level mean the same after the physical ports were written into them. -/
lemma stems_withMainsList {ns : List Node} {vs : List GraphNode}
    (h : List.Forall₂ (fun n v => v.Stems level n) ns vs)
    (henough : ∀ v ∈ vs, EnoughMains mains v) :
    List.Forall₂ (fun n v => v.Stems level n) (Node.withMainsList mains ns) vs := by
  induction h with
  | nil => exact .nil
  | @cons n v ns vs hv _ ih =>
    rw [Node.withMainsList]
    exact .cons (hv.withMains (henough v List.mem_cons_self))
      (ih fun w hw => henough w (List.mem_cons_of_mem _ hw))

/-- Only a bus holds a level. -/
lemma Graph.WellFormed.childLevel?_of_other (hg : g.WellFormed) (hl : l ∈ g.levels)
    (hv : v ∈ l.nodes) (hkind : ∀ title, v.kind ≠ .busAdd title) : g.childLevel? v.key = none := by
  rw [hg.childLevel?_of_mem hl hv]
  cases hc : v.child with
  | none => rfl
  | some c =>
    obtain ⟨title, ht⟩ := ((hg.fits l hl).node v hv).bus_of_child c hc
    exact (hkind title ht).elim

lemma Graph.WellFormed.childSteps_of_other (hg : g.WellFormed) (hl : l ∈ g.levels)
    (hv : v ∈ l.nodes) (hkind : ∀ title, v.kind ≠ .busAdd title) : Level.childSteps v = [] := by
  have hchild := hg.childLevel?_of_other hl hv hkind
  rw [hg.childLevel?_of_mem hl hv, Option.map_eq_none_iff] at hchild
  rw [Level.childSteps_eq, hchild]
  rfl

end Given

/-! ### Nodes without a level -/

/-- A node was built on both sides. -/
structure NodeBuilt (g : Graph) (mains : MainPorts) (l : Level) (v : GraphNode) (n : Node)
    (s : Session σ) (built : Node × Anchor) (p : Progress σ) : Prop where
  abreast : Abreast g s p
  anchored : Anchored g s.bindings l v built.2
  written : Settled g mains s fun b => n.annotate g b l.id = built.1

section Nodes

variable {before : List BuildStep} {s : Session σ} {p : Progress σ} {l : Level} {v : GraphNode}
  {n : Node} {place : BusPath} {bus : String} {ports : List (Int × String)}

lemma performAll_idle (engine : Engine σ) (hbus : ∀ title, v.kind ≠ .busAdd title)
    (hmodule : ∀ spec, v.kind ≠ .processing spec) (hskip : ∀ tag, v.kind ≠ .unsupported tag)
    {ok : Unit → Session σ → Prop} {fail : CompileError → Session σ → Prop} :
    Ends (Compiler.performAll engine [.visit l v]) s ok fail ↔ ok () s := by
  rw [Compiler.performAll, Ends.bind_iff,
    Recorded.perform_idle_iff engine hbus hmodule hskip]
  exact Ends.pure_iff ()

/-- A node of physical ports was bound before, and its ids were written before. -/
lemma treat_main_alike (engine : Engine σ) (hg : g.WellFormed) (hl : l ∈ g.levels)
    (hv : v ∈ l.nodes) (hstem : v.Stems l.id n) {d : Direction} {slots : Nat}
    (hkind : v.kind.mainSlots? = some (d, slots)) (hs : Recorded g mains before s)
    (hp : Abreast g s p) :
    Alike (Compiler.performAll engine [.visit l v])
      (Worker.treatNode engine place bus ports (n.withMains mains)) s p
      (fun _ s' built p' => NodeBuilt g mains l v n s' built p') (FailAbreast g) := by
  have hmeaning : n.meaning.mainSlots? = some (d, slots) := hstem.meaning ▸ hkind
  have hmeaning' : (n.withMains mains).meaning.mainSlots? = some (d, slots) := by
    rw [(hstem.withMains fun d k hk => hs.slots_le l hl v hv d k hk).meaning, hkind]
  have hother : ∀ title, v.kind ≠ .busAdd title := by
    intro title h
    simp [h, NodeKind.mainSlots?] at hkind
  rw [Worker.treatNode_main engine place bus ports hmeaning', Node.mainIds_withMains hmeaning]
  refine Alike.pure_right ((performAll_idle engine hother ?_ ?_).mpr ⟨hp, ?_, ?_⟩)
  · intro spec h
    simp [h, NodeKind.mainSlots?] at hkind
  · intro tag h
    simp [h, NodeKind.mainSlots?] at hkind
  · exact .mains d slots _ hkind (hs.main l hl v hv d slots hkind)
  · intro z hz _
    rw [Node.annotate_mains hstem (hg.childLevel?_of_other hl hv hother)
      (hz.main l hl v hv d slots hkind), Node.withMains_of_main hmeaning]

/-- A pass-through has the port of the bus around it; at the root there is none. -/
lemma treat_port_alike (engine : Engine σ) (hg : g.WellFormed) (hl : l ∈ g.levels)
    (hv : v ∈ l.nodes) (hstem : v.Stems l.id n) {d : Direction}
    (hkind : (v.kind.passThrough? d).isSome) (haround : Around g s.bindings l bus ports)
    (hp : Abreast g s p) :
    Alike (Compiler.performAll engine [.visit l v])
      (Worker.treatNode engine place bus ports (n.withMains mains)) s p
      (fun _ s' built p' => NodeBuilt g mains l v n s' built p') (FailAbreast g) := by
  have hother : ∀ title, v.kind ≠ .busAdd title := by
    intro title h
    simp [h, NodeKind.passThrough?] at hkind
  have hsame : n.withMains mains = n := by
    apply Node.withMains_of_other
    · rw [hstem.meaning, NodeKind.mainSlots?_of_port hkind]
    · rwa [hstem.meaning]
  have hmeaning : (n.meaning.passThrough? d).isSome := hstem.meaning ▸ hkind
  have hidle : ∀ {ok : Unit → Session σ → Prop} {fail : CompileError → Session σ → Prop},
      Ends (Compiler.performAll engine [.visit l v]) s ok fail ↔ ok () s := by
    apply performAll_idle engine hother
    · intro spec h
      simp [h, NodeKind.passThrough?] at hkind
    · intro tag h
      simp [h, NodeKind.passThrough?] at hkind
  have hid : v.key.id = n.id := by rw [hstem.key]
  rw [hsame, Worker.treatNode_port engine place bus ports hmeaning, ← hid]
  rcases haround.lookup hg hl hv hkind with ⟨hroot, hnone⟩ | ⟨port, hport, hb⟩
  · rw [hnone]
    refine Alike.pure_right (hidle.mpr ⟨hp, .unbound d hkind hroot, fun z hz _ => ?_⟩)
    exact Node.annotate_unbound hstem (hg.childLevel?_of_other hl hv hother)
      (hz.free_port_of_root hg (List.Subset.refl _) (hroot ▸ hv) hkind)
  · rw [hport]
    refine Alike.pure_right (hidle.mpr ⟨hp, .busPort d bus port hkind hb, fun z _ hz => ?_⟩)
    exact Node.annotate_busPort hstem (hg.childLevel?_of_other hl hv hother) (hz.node hb)

/-- A module is made on both sides, and its ids are written. -/
lemma treat_module_alike (engine : Engine σ) (hg : g.WellFormed) (hl : g.Stands place l)
    (hv : v ∈ l.nodes) (hstem : v.Stems l.id n) {spec : ModuleSpec}
    (hkind : v.kind = .processing spec) (hn : g.Next before (.visit l v))
    (hs : Recorded g mains before s) (haround : Around g s.bindings l bus ports)
    (hp : Abreast g s p) :
    Alike (Compiler.performAll engine [.visit l v])
      (Worker.treatNode engine place bus ports (n.withMains mains)) s p
      (fun _ s' built p' => NodeBuilt g mains l v n s' built p') (FailAbreast g) := by
  have hsame : n.withMains mains = n := by
    apply Node.withMains_of_other <;> simp [hstem.meaning, hkind, NodeKind.mainSlots?]
  rw [hsame, Worker.treatNode_module engine place bus ports (hstem.meaning.trans hkind),
    Compiler.performAll, ← haround.busOf_eq hg]
  apply Alike.bind
  refine (visit_module_alike engine hg hs hn hkind hstem hl.number hp).imp ?_ fun _ _ _ _ => id
  rintro ⟨⟩ s' ids p' ⟨hp', hb⟩
  refine ⟨hp', .module spec _ n ids hkind hstem.inputNames hstem.outputNames hb, fun z _ hz => ?_⟩
  exact Node.annotate_module hstem (hg.childLevel?_of_other hl.mem hv (by simp [hkind]))
    (hz.node hb)

/-- A node of an unsupported type is left out on both sides. -/
lemma treat_unsupported_alike (engine : Engine σ) (hg : g.WellFormed) (hl : g.Stands place l)
    (hv : v ∈ l.nodes) (hstem : v.Stems l.id n) {tag : String}
    (hkind : v.kind = .unsupported tag) (hp : Abreast g s p) :
    Alike (Compiler.performAll engine [.visit l v])
      (Worker.treatNode engine place bus ports (n.withMains mains)) s p
      (fun _ s' built p' => NodeBuilt g mains l v n s' built p') (FailAbreast g) := by
  have hsame : n.withMains mains = n := by
    apply Node.withMains_of_other <;> simp [hstem.meaning, hkind, NodeKind.mainSlots?]
  rw [hsame, Worker.treatNode_unsupported engine place bus ports (hstem.meaning.trans hkind),
    Compiler.performAll]
  apply Alike.bind
  refine (visit_unsupported_alike engine hkind hstem hl.number hp).imp ?_ fun _ _ _ _ => id
  rintro ⟨⟩ s' ⟨⟩ p' hp'
  refine ⟨hp', .leftOut tag hkind, fun z hz _ => ?_⟩
  exact Node.annotate_unbound hstem (hg.childLevel?_of_other hl.mem hv (by simp [hkind]))
    (hz.free_unsupported hl.mem hv hkind)

/-- A node without a level is built alike on both sides. -/
lemma treat_leaf_alike (engine : Engine σ) (hg : g.WellFormed) (hl : g.Stands place l)
    (hv : v ∈ l.nodes) (hstem : v.Stems l.id n) (hother : ∀ title, v.kind ≠ .busAdd title)
    (hn : g.Next before (.visit l v)) (hs : Recorded g mains before s)
    (haround : Around g s.bindings l bus ports) (hp : Abreast g s p) :
    Alike (Compiler.performAll engine [.visit l v])
      (Worker.treatNode engine place bus ports (n.withMains mains)) s p
      (fun _ s' built p' => NodeBuilt g mains l v n s' built p') (FailAbreast g) := by
  cases hkind : v.kind with
  | busAdd title => exact (hother title hkind).elim
  | processing spec => exact treat_module_alike engine hg hl hv hstem hkind hn hs haround hp
  | unsupported tag => exact treat_unsupported_alike engine hg hl hv hstem hkind hp
  | mainInputs slots | mainOutputs slots =>
    exact treat_main_alike engine hg hl.mem hv hstem (by rw [hkind]; rfl) hs hp
  | busInput name =>
    have hpass : (v.kind.passThrough? .input).isSome := by
      rw [hkind]
      rfl
    exact treat_port_alike engine hg hl.mem hv hstem hpass haround hp
  | busOutput name =>
    have hpass : (v.kind.passThrough? .output).isSome := by
      rw [hkind]
      rfl
    exact treat_port_alike engine hg hl.mem hv hstem hpass haround hp

end Nodes

end Patchbay
