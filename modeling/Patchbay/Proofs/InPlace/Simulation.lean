import Patchbay.Engine.Virtual
import Patchbay.Proofs.Compile.Whole
import Patchbay.Proofs.Engine.History
import Patchbay.Proofs.InPlace.Nodes

/-!
# Compiling is building in place

A compilation goes through the levels of a graph in the order in which the recursion goes through
the document, and both are at the same place at any time. So they end alike, and the ids that the
compilation gathered are those that the recursion wrote.
-/

namespace Patchbay

variable {σ : Type} {g : Graph} {mains : MainPorts}

/-- The nodes of a level were built on both sides. -/
structure NodesBuilt (g : Graph) (mains : MainPorts) (l : Level) (vs : List GraphNode)
    (ns : List Node) (s : Session σ) (built : List Node × List (Int × Anchor)) (p : Progress σ) :
    Prop where
  abreast : Abreast g s p
  anchored : AllAnchored g s.bindings l vs built.2
  written : Settled g mains s fun b => Node.annotateList g b l.id ns = built.1

/-- A level was built on both sides. What bus it belongs to is written into it by the one who gave
it its ports. -/
structure LevelBuilt (g : Graph) (mains : MainPorts) (l : Level) (d : Document) (s : Session σ)
    (built : Document) (p : Progress σ) : Prop where
  abreast : Abreast g s p
  written : Settled g mains s fun b => d.annotateLevel g b l.id
    = { built with busId := (b.levelBus? l.id).or built.busId }

/-- The level that a node holds was built on both sides, if there is one. -/
structure ChildBuilt (g : Graph) (mains : MainPorts) (v : GraphNode) (sub : Option Document)
    (s : Session σ) (built : Option Document) (p : Progress σ) : Prop where
  abreast : Abreast g s p
  written : Settled g mains s fun b => Document.annotateChild g b (v.child.map Level.id) sub = built

lemma Recorded.enoughMains {done : List BuildStep} {s : Session σ} {l : Level} {v : GraphNode}
    (hs : Recorded g mains done s) (hl : l ∈ g.levels) (hv : v ∈ l.nodes) : EnoughMains mains v :=
  fun d k hk => hs.slots_le l hl v hv d k hk

/-- The nodes and links of a level are those of its document. -/
lemma Level.build_ok {parent : Option NodeKey} {depth next next' : Nat} {d : Document} {l : Level}
    (h : build parent depth next d = .ok (l, next')) :
    buildNodes parent depth l.id [] (next + 1) d.nodes = .ok (l.nodes, next') ∧
      l.links = linksFrom l.id 0 d.links := by
  cases d
  rw [build] at h
  obtain ⟨⟨vs, mid⟩, hvs, h⟩ := bind_eq_ok_iff.mp h
  obtain ⟨ks, hks, h⟩ := bind_eq_ok_iff.mp h
  cases h
  exact ⟨hvs, (buildLinks_ok hks).1⟩

/-- The pass-throughs of a document with physical ports written into it are those of its level. -/
lemma passThroughs_withMains {parent : Option NodeKey} {depth next next' : Nat} {d : Document}
    {l : Level} (h : Level.build parent depth next d = .ok (l, next'))
    (henough : ∀ v ∈ l.nodes, EnoughMains mains v) (dir : Direction) :
    Node.passThroughs dir (d.withMains mains).nodes = passThroughs dir l.nodes := by
  have hnodes : (d.withMains mains).nodes = Node.withMainsList mains d.nodes := by
    cases d
    rw [Document.withMains]
  rw [hnodes]
  exact passThroughs_of_stems
    (stems_withMainsList (Level.buildNodes_stem (Level.build_ok h).1) henough) dir

/-- The pass-throughs inside a node are the ports that its bus is made with. -/
lemma portNames_withMains {v : GraphNode} {depth next next' : Nat} {sub : Option Document}
    (h : Level.buildChild v.key depth next v.kind sub = .ok (v.child, next'))
    (hkind : ∃ title, v.kind = .busAdd title)
    (henough : ∀ c, v.child = some c → ∀ w ∈ c.nodes, EnoughMains mains w) (dir : Direction) :
    (Node.passThroughs dir (((Document.withMainsChild mains sub).map Document.nodes).getD [])).map
      Prod.snd = childPortNames v.child dir := by
  rcases Level.buildChild_ok h with ⟨_, d, c, -, rfl, hc, hd⟩ | ⟨hnone, -, hsub⟩
  · rw [hc, Document.withMainsChild, Option.map_some, Option.getD_some,
      passThroughs_withMains hd (henough c hc)]
    rfl
  · obtain ⟨title, hkind⟩ := hkind
    rw [hnone, hsub title hkind]
    rfl

/-- A bus is built alike on both sides if the level in it is. -/
lemma treat_bus_alike (engine : Engine σ) (hg : g.WellFormed) {l : Level} {v : GraphNode}
    {n : Node} {place : BusPath} {bus : String} {ports : List (Int × String)}
    {depth next next' : Nat} {before : List BuildStep} {s : Session σ} {p : Progress σ}
    (hl : g.Stands place l) (hv : v ∈ l.nodes) (hstem : v.Stems l.id n) {title : String}
    (hkind : v.kind = .busAdd title)
    (hchild : Level.buildChild v.key depth next v.kind n.subgraph = .ok (v.child, next'))
    (hn : g.Next before (.visit l v)) (hs : Recorded g mains before s)
    (haround : Around g s.bindings l bus ports) (hp : Abreast g s p)
    (hinside : ∀ {ids : BusIds} {s₁ : Session σ} {p₁ : Progress σ},
      Recorded g mains (before ++ [.visit l v]) s₁ → s₁.bindings.HoldsBus v ids →
      Abreast g s₁ p₁ →
      Alike (Compiler.performAll engine (Level.childSteps v))
        (Worker.treatChild engine (place ++ [n.id]) ids
          (Document.withMainsChild mains n.subgraph)) s₁ p₁
        (fun _ s' built p' => ChildBuilt g mains v n.subgraph s' built p') (FailAbreast g)) :
    Alike (Compiler.performAll engine (.visit l v :: Level.childSteps v))
      (Worker.treatNode engine place bus ports (n.withMains mains)) s p
      (fun _ s' built p' => NodeBuilt g mains l v n s' built p') (FailAbreast g) := by
  have hmeaning := (hstem.withMains (hs.enoughMains hl.mem hv)).meaning.trans hkind
  have hsame : n.withMains mains
      = { n with subgraph := Document.withMainsChild mains n.subgraph } :=
    Node.withMains_of_bus (hstem.meaning.trans hkind)
  have hnames := fun dir => portNames_withMains hchild ⟨title, hkind⟩
    (fun c hc w hw => hs.enoughMains (Graph.WellFormed.child_mem hl.mem hv hc) hw) dir
  rw [Worker.treatNode_bus engine place bus ports hmeaning, Compiler.performAll,
    ← haround.busOf_eq hg, hsame]
  simp only [hnames]
  apply Alike.bind
  refine ((visit_bus_alike engine hg hs hn hkind hp).and_ends ((hs.step engine hg hn).and
    (Compiler.perform_extends engine _))).imp ?_ fun _ _ _ _ h => h.1
  rintro ⟨⟩ s₁ ids p₁ ⟨⟨hp₁, hids⟩, hs₁, -⟩
  apply Alike.bind_right
  -- what is inside the bus only adds to the bindings, so the bus keeps its ids
  refine ((hinside hs₁ hids hp₁).and_ends (Compiler.performAll_extends engine _)).imp ?_
    fun _ _ _ _ h => h.1
  rintro ⟨⟩ s₂ sub' p₂ ⟨hbuilt, hext₂⟩
  have hown := (hids.mono hext₂).own
  refine ⟨hbuilt.abreast, .bus title ids hkind hown, fun z hz hext => ?_⟩
  have hwritten := hbuilt.written z hz hext
  refine (Node.annotate_bus hstem (hext.node hown)).trans ?_
  rw [hg.childLevel?_of_mem hl.mem hv, hwritten]
  rfl

mutual

/-- A level is built alike on both sides. -/
theorem treat_alike (engine : Engine σ) (hg : g.WellFormed) {parent : Option NodeKey}
    {depth next : Nat} : ∀ {d : Document} {l : Level} {next' : Nat} {place : BusPath}
    {bus : String} {ports : List (Int × String)} {before after : List BuildStep} {s : Session σ}
    {p : Progress σ}, Level.build parent depth next d = .ok (l, next') → g.Stands place l →
      g.steps = before ++ l.steps ++ after → Recorded g mains before s →
      Around g s.bindings l bus ports → Abreast g s p →
      Alike (Compiler.performAll engine l.steps)
        (Worker.treat engine place bus ports (d.withMains mains)) s p
        (fun _ s' built p' => LevelBuilt g mains l d s' built p') (FailAbreast g)
  | ⟨nodes, links, busId, extra⟩, l, next', place, bus, ports, before, after, s, p, hd, hl, hsteps,
      hs, haround, hp => by
    obtain ⟨hnodes, hlinks⟩ := Level.build_ok hd
    dsimp only at hnodes hlinks
    rw [Level.steps_eq, hlinks] at hsteps ⊢
    rw [Document.withMains, Worker.treat, Compiler.performAll, Compiler.performAll_append]
    have henter : g.Next before (.enter l) := ⟨_, by rw [hsteps, List.append_assoc]; rfl⟩
    apply Alike.bind
    refine ((enter_alike engine hl hp).and_ends ((hs.step engine hg henter).and
      (Compiler.perform_extends engine _))).imp ?_ fun _ _ _ _ h => h.1
    rintro ⟨⟩ s₁ ⟨⟩ p₁ ⟨hp₁, hs₁, hext₁⟩
    apply Alike.bind
    have hnodesteps : g.steps = (before ++ [.enter l]) ++ l.nodesSteps l.nodes
        ++ ((linksFrom l.id 0 links).map (.connect l) ++ after) := by rw [hsteps]; simp
    refine ((treatNodes_alike engine hg hnodes (fun v hv => hv) hl hnodesteps hs₁
      (haround.mono hext₁) hp₁).and_ends (hs₁.performAll engine hg hnodesteps)).imp ?_
      fun _ _ _ _ h => h.1
    rintro ⟨⟩ s₂ ⟨nodes', anchors⟩ p₂ ⟨hbuilt, hs₂, hext₂⟩
    apply Alike.bind_right
    have hlinksteps : g.steps = (before ++ [.enter l] ++ l.nodesSteps l.nodes)
        ++ (linksFrom l.id 0 links).map (.connect l) ++ after := by rw [hsteps]; simp
    refine ((connectAll_alike engine hg hl.number hlinksteps hs₂ hbuilt.anchored
      hbuilt.abreast).and_ends (Compiler.performAll_extends engine _)).imp ?_
      fun _ _ _ _ h => h.1
    rintro ⟨⟩ s₃ links' p₃ ⟨⟨hp₃, hwritten⟩, hext₃⟩
    refine ⟨hp₃, ((hbuilt.written.mono hext₃).and hwritten).imp ?_⟩
    rintro b ⟨hn, hk⟩
    rw [Document.annotateLevel, hn, hk]

/-- The nodes of a level are built alike on both sides. -/
theorem treatNodes_alike (engine : Engine σ) (hg : g.WellFormed) {parent : Option NodeKey}
    {depth : Nat} {l : Level} {place : BusPath} {bus : String} {ports : List (Int × String)} :
    ∀ {ns : List Node} {earlier vs : List GraphNode} {next next' : Nat}
    {before after : List BuildStep} {s : Session σ} {p : Progress σ},
      Level.buildNodes parent depth l.id earlier next ns = .ok (vs, next') →
      (∀ v ∈ vs, v ∈ l.nodes) → g.Stands place l →
      g.steps = before ++ l.nodesSteps vs ++ after → Recorded g mains before s →
      Around g s.bindings l bus ports → Abreast g s p →
      Alike (Compiler.performAll engine (l.nodesSteps vs))
        (Worker.treatNodes engine place bus ports (Node.withMainsList mains ns)) s p
        (fun _ s' built p' => NodesBuilt g mains l vs ns s' built p') (FailAbreast g)
  | [], _, vs, _, _, before, after, s, p, hns, hvs, hl, hsteps, hs, haround, hp => by
    rw [Level.buildNodes] at hns
    cases hns
    rw [Level.nodesSteps_nil, Node.withMainsList, Worker.treatNodes]
    exact ⟨hp, .nil, fun _ _ _ => rfl⟩
  | n :: ns, _, vs, _, _, before, after, s, p, hns, hvs, hl, hsteps, hs, haround, hp => by
    rw [Level.buildNodes] at hns
    obtain ⟨⟨v, mid⟩, hn, hns⟩ := bind_eq_ok_iff.mp hns
    obtain ⟨⟨ws, mid'⟩, hws, hns⟩ := bind_eq_ok_iff.mp hns
    cases hns
    rw [Level.nodesSteps_cons, ← List.cons_append] at hsteps ⊢
    rw [Node.withMainsList, Worker.treatNodes, Compiler.performAll_append]
    have hnsteps : g.steps = before ++ (.visit l v :: Level.childSteps v)
        ++ (l.nodesSteps ws ++ after) := by rw [hsteps]; simp
    have hv := hvs v List.mem_cons_self
    have hid : (n.withMains mains).id = v.key.id := by
      rw [((Level.buildNode_ok hn).1.stems.withMains (hs.enoughMains hl.mem hv)).key]
    apply Alike.bind
    refine ((treatNode_alike engine hg hn hv hl hnsteps hs haround hp).and_ends
      (hs.performAll engine hg hnsteps)).imp ?_ fun _ _ _ _ h => h.1
    -- what the first node became stays as it is while the others are built
    rintro ⟨⟩ s₁ ⟨n', anchor⟩ p₁ ⟨hbuilt, hs₁, hext₁⟩
    have hwsteps : g.steps = (before ++ (.visit l v :: Level.childSteps v)) ++ l.nodesSteps ws
        ++ after := by rw [hsteps]; simp
    apply Alike.bind_right
    refine ((treatNodes_alike engine hg hws (fun w hw => hvs w (List.mem_cons_of_mem _ hw)) hl
      hwsteps hs₁ (haround.mono hext₁) hbuilt.abreast).and_ends
      (Compiler.performAll_extends engine _)).imp ?_ fun _ _ _ _ h => h.1
    rintro ⟨⟩ s₂ ⟨ns', anchors⟩ p₂ ⟨hrest, hext₂⟩
    refine ⟨hrest.abreast, .cons ⟨hid, hbuilt.anchored.mono hext₂⟩ hrest.anchored, ?_⟩
    refine ((hbuilt.written.mono hext₂).and hrest.written).imp ?_
    rintro b ⟨hn, hns⟩
    rw [Node.annotateList, hn, hns]

/-- A node is built alike on both sides. -/
theorem treatNode_alike (engine : Engine σ) (hg : g.WellFormed) {parent : Option NodeKey}
    {depth : Nat} {l : Level} {place : BusPath} {bus : String} {ports : List (Int × String)} :
    ∀ {n : Node} {earlier : List GraphNode} {v : GraphNode} {next next' : Nat}
    {before after : List BuildStep} {s : Session σ} {p : Progress σ},
      Level.buildNode parent depth l.id earlier next n = .ok (v, next') → v ∈ l.nodes →
      g.Stands place l → g.steps = before ++ (.visit l v :: Level.childSteps v) ++ after →
      Recorded g mains before s → Around g s.bindings l bus ports → Abreast g s p →
      Alike (Compiler.performAll engine (.visit l v :: Level.childSteps v))
        (Worker.treatNode engine place bus ports (n.withMains mains)) s p
        (fun _ s' built p' => NodeBuilt g mains l v n s' built p') (FailAbreast g)
  | ⟨id, type, title, properties, subgraph, inputs, outputs, extra⟩, _, v, _, _, before, after, s,
      p, hbuild, hv, hl, hsteps, hs, haround, hp => by
    obtain ⟨hfrom, hchild⟩ := Level.buildNode_ok hbuild
    have hstem := hfrom.stems
    have hn : g.Next before (.visit l v) := ⟨_, by rw [hsteps, List.append_assoc]; rfl⟩
    by_cases hbus : ∃ title, v.kind = .busAdd title
    · obtain ⟨title', hbus⟩ := hbus
      refine treat_bus_alike engine hg hl hv hstem hbus hchild hn hs haround hp
        fun hs₁ hids hp₁ => ?_
      have hplace : ∀ c, v.child = some c → g.Stands (place ++ [id]) c := by
        intro c hc
        have hc' := hl.child hg hv hc
        rwa [hstem.key] at hc'
      have hinside : g.steps = (before ++ [.visit l v]) ++ Level.childSteps v ++ after := by
        rw [hsteps]
        simp
      exact treatChild_alike engine hg hchild ⟨title', hbus⟩ hl.mem hv hplace hinside hs₁ hids hp₁
    · have hother : ∀ title, v.kind ≠ .busAdd title := fun title ht => hbus ⟨title, ht⟩
      rw [hg.childSteps_of_other hl.mem hv hother]
      exact treat_leaf_alike engine hg hl hv hstem hother hn hs haround hp

/-- The level that a node holds is built alike on both sides. -/
theorem treatChild_alike (engine : Engine σ) (hg : g.WellFormed) {depth : Nat} {l : Level}
    {v : GraphNode} {place : BusPath} {ids : BusIds} : ∀ {sub : Option Document} {next next' : Nat}
    {before after : List BuildStep} {s : Session σ} {p : Progress σ},
      Level.buildChild v.key depth next v.kind sub = .ok (v.child, next') →
      (∃ title, v.kind = .busAdd title) → l ∈ g.levels → v ∈ l.nodes →
      (∀ c, v.child = some c → g.Stands place c) →
      g.steps = before ++ Level.childSteps v ++ after → Recorded g mains before s →
      s.bindings.HoldsBus v ids → Abreast g s p →
      Alike (Compiler.performAll engine (Level.childSteps v))
        (Worker.treatChild engine place ids (Document.withMainsChild mains sub)) s p
        (fun _ s' built p' => ChildBuilt g mains v sub s' built p') (FailAbreast g)
  | none, _, _, before, after, s, p, hchild, hbus, hl, hv, hplace, hsteps, hs, hids, hp => by
    rcases Level.buildChild_ok hchild with ⟨_, _, _, -, hsub, -⟩ | ⟨hnone, -⟩
    · cases hsub
    · rw [Level.childSteps_eq, hnone, Document.withMainsChild, Worker.treatChild]
      exact ⟨hp, fun _ _ _ => rfl⟩
  | some d, _, _, before, after, s, p, hchild, hbus, hl, hv, hplace, hsteps, hs, hids, hp => by
    rcases Level.buildChild_ok hchild with ⟨_, _, c, -, ⟨⟩, hc, hd⟩ | ⟨-, -, hnone⟩
    · have hc' := hplace c hc
      have hports : ∀ dir, (Node.passThroughs dir (d.withMains mains).nodes).map Prod.fst
          = c.portNodes dir := by
        intro dir
        rw [passThroughs_withMains hd (fun w hw => hs.enoughMains hc'.mem hw)]
        rfl
      rw [Level.childSteps_eq, hc] at hsteps ⊢
      rw [Document.withMainsChild, Worker.treatChild_some, hports, hports]
      apply Alike.bind_right
      refine ((treat_alike engine hg hd hc' hsteps hs (.bus l v ids hl hv hc hids) hp).and_ends
        (Compiler.performAll_extends engine _)).imp ?_ fun _ _ _ _ h => h.1
      rintro ⟨⟩ s₁ d' p₁ ⟨hbuilt, hext₁⟩
      refine ⟨hbuilt.abreast, fun z hz hext => ?_⟩
      have hlevel := (hids.mono (hext₁.trans hext)).level c hc
      have hwritten := hbuilt.written z hz hext
      beta_reduce at hwritten ⊢
      rw [hlevel] at hwritten
      rw [hc]
      exact congrArg some hwritten
    · obtain ⟨title, hbus⟩ := hbus
      cases hnone title hbus

end

/-! ### Whole compilations -/

section Whole

variable {d : Document}

/-- Once the physical ports are bound, everything is built alike. -/
lemma treat_root_alike (engine : Engine σ) (hd : Graph.build d = .ok g) (state : σ)
    {b : Bindings} (hb : MainsBound mains (g.levels.flatMap Level.nodes) b) :
    Alike (Compiler.expandLevel engine "" g.root)
      (Worker.treat engine [] "" [] (d.withMains mains)) { engine := state, bindings := b }
      { engine := state }
      (fun _ s d' p => Abreast g s p ∧ d.annotate g s.bindings = d') (FailAbreast g) := by
  have hg := Graph.build_wellFormed hd
  obtain ⟨⟨l, next⟩, hl, hroot⟩ := bind_eq_ok_iff.mp hd
  cases hroot
  have hsteps : Graph.steps ⟨l⟩ = [] ++ l.steps ++ [] := by simp [Graph.steps]
  have hfirst := Recorded.first state hb hg
  refine Alike.congr (expandLevel_root_run hg _) rfl ?_
  refine ((treat_alike engine hg hl (.root hg) hsteps hfirst (.root rfl) ⟨rfl, rfl⟩).and_ends
    (hfirst.performAll engine hg hsteps)).imp ?_ fun _ _ _ _ h => h.1
  rintro ⟨⟩ s d' p ⟨hbuilt, hs, -⟩
  refine ⟨hbuilt.abreast, ?_⟩
  have hwritten := hbuilt.written s hs (.refl _)
  have hnone := hs.free_root hg (List.Subset.refl _)
  have hid : l.id = 0 := hg.root_id
  beta_reduce at hwritten
  rw [hnone, hid] at hwritten
  cases d'
  exact hwritten

/-- A compilation and the recursion over the document end alike. -/
theorem build_alike (engine : Engine σ) (hd : Graph.build d = .ok g) (state : σ) :
    Alike (Compiler.buildGraph engine g) (Worker.build engine d) { engine := state }
      { engine := state }
      (fun _ s d' p => Abreast g s p ∧ d.annotate g s.bindings = d') (FailAbreast g) := by
  have hg := Graph.build_wellFormed hd
  rw [Compiler.buildGraph, Worker.build]
  apply Alike.bind
  apply Alike.of_ends
  simp only [Compiler.converse_iff, Worker.talk_iff]
  refine Ends.twice (Ends.of_all (fun mains e => ?_) fun err e => ⟨rfl, rfl⟩)
  have hcheck := checkMains_built hd mains
  have hspec := bindMains_spec mains (Graph.WellFormed.keys_nodup hg)
  -- by `hcheck` both sides fail at the same node or neither fails
  cases hb : bindMains mains {} (g.levels.flatMap Level.nodes) <;>
    cases hc : d.checkMains mains <;> rw [hb, hc] at hcheck <;> cases hcheck
  case error.error.refl failure =>
    apply Alike.of_errors
    · change (proceed (bindMains mains {} (g.levels.flatMap Level.nodes)) >>= _).run _ = _
      rw [hb]
      rfl
    · rfl
    · exact ⟨rfl, rfl⟩
  case ok.ok.refl b _ =>
    rw [hb] at hspec
    refine Alike.congr ?_ rfl (treat_root_alike engine hd e hspec)
    change (proceed (bindMains mains {} (g.levels.flatMap Level.nodes)) >>= _).run _ = _
    rw [hb]
    rfl

/-- What is left in the end is the same. -/
lemma outcome_eq (engine : Engine σ) (hd : Graph.build d = .ok g) (state : σ) :
    (compile engine g state).1.map (fun c => (d.annotate g c.bindings, c.report))
        = ((d.buildInPlace engine state).1.mapError (BuildFailure.numbered g.number)).map
          (fun r => (r.1, r.2.numbered g.number)) ∧
      (compile engine g state).2 = (d.buildInPlace engine state).2 := by
  have halike := build_alike engine hd state
  unfold Alike at halike
  unfold compile Document.buildInPlace
  revert halike
  rcases (Compiler.buildGraph engine g).run { engine := state } with ⟨_ | _, s⟩ <;>
    rcases (Worker.build engine d).run { engine := state } with ⟨_ | _, p⟩
  · rintro ⟨rfl, hengine⟩
    exact ⟨rfl, hengine⟩
  · -- that one side fails and the other does not is ruled out
    exact False.elim
  · exact False.elim
  · rintro ⟨hp, rfl⟩
    refine ⟨?_, hp.engine⟩
    simp [Except.map, Except.mapError, hp.report]

/-- Compiling the graph of a document and writing the ids into the document is the same as building
the document in place. Every engine ends in the same state with the same document and report, or
with the same error, and is sent the same requests on the way. -/
theorem compile_annotate_eq_buildInPlace (hd : Graph.build d = .ok g) (engine : Engine σ)
    (state : σ) :
    (compile engine g state).1.map (fun c => (d.annotate g c.bindings, c.report))
        = ((d.buildInPlace engine state).1.mapError (BuildFailure.numbered g.number)).map
          (fun r => (r.1, r.2.numbered g.number)) ∧
      (compile engine g state).2 = (d.buildInPlace engine state).2 ∧
      history engine g state = (d.buildInPlace engine.logged (state, [])).2.2 := by
  have hsame := outcome_eq engine hd state
  exact ⟨hsame.1, hsame.2, congrArg Prod.snd (outcome_eq engine.logged hd (state, [])).2⟩

theorem wire_builtInPlace : ∃ g, Graph.build wire = .ok g ∧
    (compile (VirtualEngine.engine numberedId) g (VirtualEngine.new numberedId 1 1 [])).1.map
        (fun c => (wire.annotate g c.bindings, c.report))
        = ((wire.buildInPlace (VirtualEngine.engine numberedId)
          (VirtualEngine.new numberedId 1 1 [])).1.mapError (BuildFailure.numbered g.number)).map
          (fun r => (r.1, r.2.numbered g.number)) ∧
      (compile (VirtualEngine.engine numberedId) g (VirtualEngine.new numberedId 1 1 [])).2
        = (wire.buildInPlace (VirtualEngine.engine numberedId)
          (VirtualEngine.new numberedId 1 1 [])).2 ∧
      history (VirtualEngine.engine numberedId) g (VirtualEngine.new numberedId 1 1 [])
        = (wire.buildInPlace (VirtualEngine.engine numberedId).logged
          (VirtualEngine.new numberedId 1 1 [], [])).2.2 := by
  have hwire : Graph.build wire = .ok _ := rfl
  exact ⟨_, hwire, compile_annotate_eq_buildInPlace hwire (VirtualEngine.engine numberedId) _⟩

end Whole

end Patchbay
