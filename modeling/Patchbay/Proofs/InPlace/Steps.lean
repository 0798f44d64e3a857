import Patchbay.Proofs.InPlace.Links

/-!
# Steps side by side

A step of a compilation and the same part of the recursion over the document send the same requests,
and after the same answers the same is reported on both sides.
-/

namespace Patchbay

variable {σ : Type} {g : Graph} {mains : MainPorts} {before : List BuildStep} {s : Session σ}
  {p : Progress σ}

/-- The engine and the report are the same on both sides. -/
structure Abreast (g : Graph) (s : Session σ) (p : Progress σ) : Prop where
  engine : s.engine = p.engine
  report : s.report = p.account.numbered g.number

/-- Both sides failed, for the same reason. -/
def FailAbreast (g : Graph) (err : CompileError) (s : Session σ) (failure : BuildFailure)
    (p : Progress σ) : Prop :=
  err = failure.numbered g.number ∧ s.engine = p.engine

/-- What was recorded stays recorded over some steps. -/
lemma Recorded.performAll (engine : Engine σ) (hg : g.WellFormed) {ts after : List BuildStep}
    (hsteps : g.steps = before ++ ts ++ after) (hs : Recorded g mains before s) :
    Ends (Compiler.performAll engine ts) s
      (fun _ s' => Recorded g mains (before ++ ts) s' ∧ s.bindings.Extends s'.bindings)
      (fun _ _ => True) :=
  (Compiler.performAll_ends engine (fun _ _ _ hn hs => hs.step engine hg hn) hsteps hs).and
    (Compiler.performAll_extends engine ts) |>.forget

namespace Worker

variable {α : Type} {ok : α → Progress σ → Prop} {fail : BuildFailure → Progress σ → Prop}

lemma talk_iff (c : Conversation σ α) :
    Ends (talk c) p ok fail ↔ Ends c p.engine (fun a e => ok a { p with engine := e })
      (fun err e => fail (.engine err) { p with engine := e }) := by
  rcases h : c.run p.engine with ⟨_ | _, e⟩ <;> simp [Ends, talk, h, Except.mapError]

@[simp] lemma enter_iff {ok : Unit → Progress σ → Prop} (change : Account → Account) :
    Ends (enter change) p ok fail ↔ ok () { p with account := change p.account } := Iff.rfl

@[simp] lemma notice_iff {ok : Unit → Progress σ → Prop} (ns : List Notice) :
    Ends (notice ns) p ok fail ↔
      ok () { p with account := { p.account with notices := p.account.notices ++ ns } } := Iff.rfl

/-- Making a bus ends as the conversation with the engine does, and is counted. -/
lemma makeBus_iff {ok : BusIds → Progress σ → Prop} (engine : Engine σ) (bus title : String)
    (inputs outputs : List String) :
    Ends (makeBus engine bus title inputs outputs) p ok fail ↔
      Ends (engine.newBus bus title inputs outputs) p.engine
        (fun ids e =>
          ok ids { engine := e, account := { p.account with buses := p.account.buses + 1 } })
        (fun err e => fail (.engine err) { p with engine := e }) := by
  rw [makeBus, Ends.bind_iff, talk_iff]
  rfl

/-- Making a module ends as the conversation does; the ports that do not match are noticed. -/
lemma makeModule_iff {ok : ModuleIds → Progress σ → Prop} (engine : Engine σ) (place : BusPath)
    (bus : String) (n : Node) (spec : ModuleSpec) :
    Ends (makeModule engine place bus n spec) p ok fail ↔
      Ends (engine.newModule bus spec) p.engine
        (fun ids e => ok ids
          { engine := e
            account := { p.account with
              modules := p.account.modules + 1
              notices := p.account.notices ++
                unmatchedNotices place n.id .input ids.ports.inputs n.inputNames ++
                unmatchedNotices place n.id .output ids.ports.outputs n.outputNames } })
        (fun err e => fail (.engine err) { p with engine := e }) := by
  rw [makeModule, Ends.bind_iff, talk_iff]
  rfl

lemma unmatchedNotices_numbered {number : BusPath → Nat} {place : BusPath} {node : Int}
    {key : NodeKey} (hkey : key = ⟨number place, node⟩) (d : Direction) (reported : List Port)
    (names : List String) :
    (unmatchedNotices place node d reported names).map (Notice.numbered number)
      = unmatched key d reported names := by
  rw [unmatchedNotices, unmatched, List.map_map, hkey]
  rfl

end Worker

/-- The depth of a level is the length of its place. -/
lemma enter_alike (engine : Engine σ) {l : Level} {place : BusPath} (hl : g.Stands place l)
    (hp : Abreast g s p) :
    Alike (Compiler.perform engine (.enter l))
      (Worker.enter fun a => { a with maxDepth := max a.maxDepth place.length }) s p
      (fun _ s' _ p' => Abreast g s' p') (FailAbreast g) := by
  apply Alike.of_ends
  rw [Compiler.perform, Compiler.report_iff, Worker.enter_iff]
  refine ⟨hp.engine, ?_⟩
  simp [hp.report, Account.numbered, hl.depth]

/-! ### Nodes -/

section Nodes

variable {l : Level} {v : GraphNode} {n : Node} {place : BusPath}

/-- A node whose level has the number of a place. -/
lemma GraphNode.Stems.key_at (hv : v.Stems l.id n) (hnumber : g.number place = l.id) :
    v.key = ⟨g.number place, n.id⟩ := by rw [hv.key, hnumber]

/-- A bus is made alike on both sides, and the node is bound to it. -/
lemma visit_bus_alike (engine : Engine σ) (hg : g.WellFormed) (hs : Recorded g mains before s)
    (hn : g.Next before (.visit l v)) {title : String} (hkind : v.kind = .busAdd title)
    (hp : Abreast g s p) :
    Alike (Compiler.perform engine (.visit l v))
      (Worker.makeBus engine (s.bindings.busOf l) title (childPortNames v.child .input)
        (childPortNames v.child .output)) s p
      (fun _ s' ids p' => Abreast g s' p' ∧ s'.bindings.HoldsBus v ids) (FailAbreast g) := by
  have hvisit : Alike (Compiler.perform engine (.visit l v))
      (Worker.makeBus engine (s.bindings.busOf l) title (childPortNames v.child .input)
        (childPortNames v.child .output)) s p
      (fun _ s' ids p' => Abreast g s' p' ∧
        s'.bindings.node? v.key = some (.bus ids.id ids.inputs ids.outputs)) (FailAbreast g) := by
    apply Alike.of_ends
    rw [hs.perform_bus_iff engine hg hn hkind]
    simp only [Worker.makeBus_iff, ← hp.engine]
    refine Ends.twice (Ends.of_all (fun ids e => ⟨⟨rfl, ?_⟩, ?_⟩) fun err e => ⟨rfl, rfl⟩)
    · simp [Session.withBus, Session.withEngine, hp.report, Account.numbered]
    · exact Bindings.node?_withBus_self
  refine (hvisit.and_ends (hs.step engine hg hn)).imp ?_ fun _ _ _ _ h => h.1
  rintro ⟨⟩ s' ids p' ⟨⟨hp', hb⟩, hs'⟩
  -- the ids that are recorded are the ones that the bindings hold
  obtain ⟨ids', hids⟩ := hs'.bus l v title (by simp) hkind
  obtain ⟨hid, hins, houts⟩ : ids'.id = ids.id ∧ ids'.inputs = ids.inputs ∧
      ids'.outputs = ids.outputs := by simpa using hids.own.symm.trans hb
  have heq : ids' = ids := by
    cases ids'
    cases ids
    simp_all
  exact ⟨hp', heq ▸ hids⟩

/-- A module is made alike on both sides, and the same of its ports are unmatched. -/
lemma visit_module_alike (engine : Engine σ) (hg : g.WellFormed)
    (hs : Recorded g mains before s) (hn : g.Next before (.visit l v)) {spec : ModuleSpec}
    (hkind : v.kind = .processing spec) (hv : v.Stems l.id n) (hnumber : g.number place = l.id)
    (hp : Abreast g s p) :
    Alike (Compiler.perform engine (.visit l v))
      (Worker.makeModule engine place (s.bindings.busOf l) n spec) s p
      (fun _ s' ids p' => Abreast g s' p' ∧
        s'.bindings.node? v.key = some (v.moduleBinding (s.bindings.busOf l) ids))
      (FailAbreast g) := by
  apply Alike.of_ends
  rw [hs.perform_module_iff engine hg hn hkind]
  simp only [Worker.makeModule_iff, ← hp.engine]
  refine Ends.twice (Ends.of_all (fun ids e => ⟨⟨rfl, ?_⟩, ?_⟩) fun err e => ⟨rfl, rfl⟩)
  · simp [Session.withModule, Session.withEngine, hp.report, Account.numbered,
      Worker.unmatchedNotices_numbered (hv.key_at hnumber), hv.inputNames, hv.outputNames]
  · exact (Bindings.node?_cons _ _ _).trans (if_pos rfl)

/-- Both sides say that a node was left out. -/
lemma visit_unsupported_alike (engine : Engine σ) {tag : String}
    (hkind : v.kind = .unsupported tag) (hv : v.Stems l.id n) (hnumber : g.number place = l.id)
    (hp : Abreast g s p) :
    Alike (Compiler.perform engine (.visit l v))
      (Worker.notice [.unsupportedNode place n.id tag]) s p
      (fun _ s' _ p' => Abreast g s' p') (FailAbreast g) := by
  apply Alike.of_ends
  rw [Recorded.perform_unsupported_iff engine hkind, Worker.notice_iff]
  refine ⟨hp.engine, ?_⟩
  simp [Session.withSkipped, Session.withWarnings, hp.report, Account.numbered, Notice.numbered,
    hv.key_at hnumber]

end Nodes

/-! ### Links -/

section Links

variable {l : Level} {place : BusPath} {anchors : List (Int × Anchor)} {link : Link} {index : Nat}

/-- A node that an end of a link is at, and how it is linked to. -/
lemma AllAnchored.exists_end {b : Bindings} (hg : g.WellFormed) (hl : l ∈ g.levels)
    (ha : AllAnchored g b l l.nodes anchors) (hk : GraphLink.ofLink l.id index link ∈ l.links)
    (e : LinkEnd) :
    ∃ v ∈ l.nodes, v.key = ⟨l.id, link.node e⟩ ∧ l.node? (link.node e) = some v ∧
      v.slots e ≠ .none ∧ ∃ a, anchors.lookup (link.node e) = some a ∧ Anchored g b l v a := by
  obtain ⟨v, hv, hkey, hnode, hslots⟩ := hg.exists_end hl hk e
  rw [GraphLink.node_ofLink] at hkey hnode
  obtain ⟨a, hlookup, ha⟩ := ha.lookup (hg.fits l hl).ids_nodup hv
  rw [hkey] at hlookup
  refine ⟨v, hv, hkey, hnode, ?_, a, hlookup, ha⟩
  rcases hslots with h | ⟨n, h, -⟩ <;> simp [h]

/-- Links are left out for the same node. -/
lemma skippedEnd?_anchored (hg : g.WellFormed) (hs : Recorded g mains before s)
    (hn : g.Next before (.connect l (.ofLink l.id index link)))
    (ha : AllAnchored g s.bindings l l.nodes anchors) :
    (GraphLink.ofLink l.id index link).skippedEnd? s.skipped
      = (link.leftOut? anchors).map fun node => ⟨l.id, node⟩ := by
  obtain ⟨hl, hk⟩ := Graph.connect_mem_steps.mp hn.mem
  obtain ⟨-, hvisited⟩ := hn.ready hg
  have hend : ∀ e, s.skipped.contains (⟨l.id, link.node e⟩ : NodeKey)
      = isLeftOut anchors (link.node e) := by
    intro e
    obtain ⟨v, hv, hkey, -, -, a, hlookup, ha⟩ := ha.exists_end hg hl hk e
    have hskip := hs.skipped l hl v hv
    rw [hkey, and_iff_right (hvisited v hv), ← ha.eq_leftOut_iff] at hskip
    rw [isLeftOut, hlookup, Bool.eq_iff_iff, List.contains_iff_mem, hskip]
    cases a <;> simp
  have ho : s.skipped.contains (⟨l.id, link.originId⟩ : NodeKey) = _ := hend .origin
  have ht : s.skipped.contains (⟨l.id, link.targetId⟩ : NodeKey) = _ := hend .target
  simp only [GraphLink.skippedEnd?, Link.leftOut?, GraphLink.ofLink, List.find?_cons,
    List.find?_nil, ho, ht, Link.node]
  cases isLeftOut anchors link.originId <;> cases isLeftOut anchors link.targetId <;> rfl

/-- Both sides come up with the same address for an end, or with the same reason why there is
none. -/
lemma address_alike (hg : g.WellFormed) (hs : Recorded g mains before s)
    (hn : g.Next before (.connect l (.ofLink l.id index link))) (hnumber : g.number place = l.id)
    (ha : AllAnchored g s.bindings l l.nodes anchors)
    (hkeep : ¬ l.LeavesOut (.ofLink l.id index link)) (e : LinkEnd) :
    (link.address place anchors e).mapError (BuildFailure.numbered g.number)
      = resolveEnd l s.bindings (.ofLink l.id index link) e := by
  obtain ⟨hl, hk⟩ := Graph.connect_mem_steps.mp hn.mem
  obtain ⟨v, hv, hkey, hnode, hslots, a, hlookup, ha⟩ := ha.exists_end hg hl hk e
  refine address_anchored hnumber ha hlookup hnode hkey hslots ?_ ?_
  · intro tag htag
    exact hkeep ⟨e, v, hv, by rw [GraphLink.node_ofLink, hkey], tag, htag⟩
  · rintro d rfl hpass
    exact hs.free_port_of_root hg hn.subset hv hpass

/-- A link is connected, or left out, and becomes what annotating makes of it. -/
lemma connect_alike (engine : Engine σ) (hg : g.WellFormed) (hs : Recorded g mains before s)
    (hn : g.Next before (.connect l (.ofLink l.id index link))) (hnumber : g.number place = l.id)
    (ha : AllAnchored g s.bindings l l.nodes anchors) (hp : Abreast g s p) :
    Alike (Compiler.perform engine (.connect l (.ofLink l.id index link)))
      (Worker.connect engine place anchors link) s p
      (fun _ s' link' p' => Abreast g s' p' ∧ Settled g mains s' fun b =>
        ∀ ls, annotateLinks b l.id index (link :: ls)
          = link' :: annotateLinks b l.id (index + 1) ls)
      (FailAbreast g) := by
  obtain ⟨hl, hk⟩ := Graph.connect_mem_steps.mp hn.mem
  have hskip := skippedEnd?_anchored hg hs hn ha
  have hleaves := hs.skippedEnd?_eq_none hg hn
  apply Alike.of_ends
  rw [hs.perform_link_iff engine hg hn, hskip]
  unfold Worker.connect
  cases hleft : link.leftOut? anchors with
  | some node =>
    simp only [Option.map_some, Ends.bind_iff, Worker.notice_iff, Ends.pure_iff]
    refine ⟨⟨hp.engine, ?_⟩, fun z hz _ ls => ?_⟩
    · simp [Session.withWarnings, hp.report, Account.numbered, Notice.numbered, hnumber,
        GraphLink.ofLink]
    · -- no connection is ever bound for this link, so annotating leaves it as it is
      have hfree := hz.free_leftOut hl hk (by
        by_contra hkeep
        rw [hleaves.mpr hkeep, hleft] at hskip
        cases hskip)
      change z.bindings.connection? l.id index = none at hfree
      rw [annotateLinks, hfree]
  | none =>
    have hkeep := hleaves.mp (by rw [hskip, hleft]; rfl)
    simp only [Option.map_none, Compiler.linkAddresses,
      ← address_alike hg hs hn hnumber ha hkeep]
    cases horigin : link.address place anchors .origin with
    | error failure => exact ⟨rfl, hp.engine⟩
    | ok origin =>
      cases htarget : link.address place anchors .target with
      | error failure => exact ⟨rfl, hp.engine⟩
      | ok target =>
        simp only [Ends.bind_iff, Ends.proceed_ok, Worker.talk_iff, Worker.enter_iff,
          Ends.pure_iff, ← hp.engine]
        refine Ends.twice (Ends.of_all (fun id e => ⟨⟨rfl, ?_⟩, fun z _ hz ls => ?_⟩)
          fun err e => ⟨rfl, rfl⟩)
        · simp [Session.withConnection, Session.withEngine, hp.report, Account.numbered]
        · have hconnected : z.bindings.connection? l.id index = some id :=
            hz.connection ((Bindings.connection?_cons _ _ _ _ _).trans (if_pos rfl))
          rw [annotateLinks, hconnected]

/-- The links of a level are connected one after the other. -/
lemma connectAll_alike (engine : Engine σ) (hg : g.WellFormed) (hnumber : g.number place = l.id) :
    ∀ {links : List Link} {index : Nat} {before after : List BuildStep} {s : Session σ}
      {p : Progress σ},
      g.steps = before ++ (linksFrom l.id index links).map (.connect l) ++ after →
      Recorded g mains before s → AllAnchored g s.bindings l l.nodes anchors → Abreast g s p →
      Alike (Compiler.performAll engine ((linksFrom l.id index links).map (.connect l)))
        (Worker.connectAll engine place anchors links) s p
        (fun _ s' links' p' => Abreast g s' p' ∧
          Settled g mains s' fun b => annotateLinks b l.id index links = links')
        (FailAbreast g)
  | [], index, before, after, s, p, _, _, _, hp => ⟨hp, fun _ _ _ => rfl⟩
  | link :: links, index, before, after, s, p, hsteps, hs, ha, hp => by
    have hn : g.Next before (.connect l (.ofLink l.id index link)) :=
      ⟨_, by rw [hsteps, linksFrom, List.map_cons, List.append_assoc, List.cons_append]⟩
    rw [linksFrom, List.map_cons, Compiler.performAll, Worker.connectAll]
    apply Alike.bind
    have hkeep := (hs.step engine hg hn).and (Compiler.perform_extends engine _)
    refine ((connect_alike engine hg hs hn hnumber ha hp).and_ends hkeep).imp ?_
      fun _ _ _ _ h => h.1
    rintro ⟨⟩ s₁ link' p₁ ⟨⟨hp₁, hlink⟩, hs₁, hext⟩
    apply Alike.bind_right
    have hsteps₁ : g.steps = (before ++ [.connect l (.ofLink l.id index link)])
        ++ (linksFrom l.id (index + 1) links).map (.connect l) ++ after := by
      rw [hsteps, linksFrom]
      simp
    have hrest := connectAll_alike engine hg hnumber hsteps₁ hs₁ (ha.mono hext) hp₁
    refine (hrest.and_ends (Compiler.performAll_extends engine _)).imp ?_ fun _ _ _ _ h => h.1
    rintro ⟨⟩ s₂ links' p₂ ⟨⟨hp₂, hlinks⟩, hext₂⟩
    refine ⟨hp₂, ((hlink.mono hext₂).and hlinks).imp ?_⟩
    rintro b ⟨hb, rfl⟩
    exact hb links

end Links

end Patchbay
