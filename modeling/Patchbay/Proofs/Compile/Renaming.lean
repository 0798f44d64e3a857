import Patchbay.Proofs.Address
import Patchbay.Proofs.Engine.Agreement
import Patchbay.Proofs.Engine.Conversation

/-!
# Ids are only names

A compilation looks at no id that it was given: it checks that the ids can be parts of addresses,
keeps them and sends them back. So where an engine answers with other ids in the place of those of
another one, the compilation has the same course with both, and ends with the same result up to
these ids.
-/

namespace Patchbay

/-- Ids that stand for each other. The empty id stands for no bus, on both sides. -/
structure Renaming (ρ : String → String → Prop) : Prop where
  empty : ρ "" ""
  isOpaque : ∀ x y, ρ x y → isOpaque x = true ∧ isOpaque y = true
  one_to_one : ∀ x y x' y', ρ x y → ρ x' y' → (x = x' ↔ y = y')

variable {ρ : String → String → Prop} {σ τ α β : Type}

/-! ### Renamed ids in data -/

section Renamed

variable (ρ)

structure Port.Renamed (p q : Port) : Prop where
  id : ρ p.id q.id
  name : p.name = q.name

structure PortList.Renamed (p q : PortList) : Prop where
  inputs : List.Forall₂ (Port.Renamed ρ) p.inputs q.inputs
  outputs : List.Forall₂ (Port.Renamed ρ) p.outputs q.outputs

structure MainPorts.Renamed (m n : MainPorts) : Prop where
  inputs : List.Forall₂ ρ m.inputs n.inputs
  outputs : List.Forall₂ ρ m.outputs n.outputs

structure BusIds.Renamed (x y : BusIds) : Prop where
  id : ρ x.id y.id
  inputs : List.Forall₂ ρ x.inputs y.inputs
  outputs : List.Forall₂ ρ x.outputs y.outputs

structure ModuleIds.Renamed (x y : ModuleIds) : Prop where
  id : ρ x.id y.id
  ports : x.ports.Renamed ρ y.ports

/-- What a node became, in one engine and in the other. -/
inductive NodeBinding.Renamed : NodeBinding → NodeBinding → Prop
  | mains {ids ids' : List String} (h : List.Forall₂ ρ ids ids') :
      Renamed (.mains ids) (.mains ids')
  | bus {id id' : String} {inputs inputs' outputs outputs' : List String} (h : ρ id id')
      (hinputs : List.Forall₂ ρ inputs inputs') (houtputs : List.Forall₂ ρ outputs outputs') :
      Renamed (.bus id inputs outputs) (.bus id' inputs' outputs')
  | busPort {bus bus' port port' : String} (hbus : ρ bus bus') (hport : ρ port port') :
      Renamed (.busPort bus port) (.busPort bus' port')
  | processing {bus bus' id id' : String} {inputs inputs' outputs outputs' : List (Option String)}
      (hbus : ρ bus bus') (h : ρ id id') (hinputs : List.Forall₂ (Option.Rel ρ) inputs inputs')
      (houtputs : List.Forall₂ (Option.Rel ρ) outputs outputs') :
      Renamed (.processing bus id inputs outputs) (.processing bus' id' inputs' outputs')

/-- The same things are bound, and to what stands for each other. -/
structure Bindings.Renamed (b c : Bindings) : Prop where
  nodes : List.Forall₂ (fun p q => p.1 = q.1 ∧ p.2.Renamed ρ q.2) b.nodes c.nodes
  connections : List.Forall₂ (fun p q => p.1 = q.1 ∧ ρ p.2 q.2) b.connections c.connections
  levelBuses : List.Forall₂ (fun p q => p.1 = q.1 ∧ ρ p.2 q.2) b.levelBuses c.levelBuses

inductive PortAddress.Renamed : PortAddress → PortAddress → Prop
  | main {p p' : String} (hport : ρ p p') : Renamed (.main p) (.main p')
  | bus {b b' p p' : String} (hbus : ρ b b') (hport : ρ p p') : Renamed (.bus b p) (.bus b' p')
  | moduleInput {b b' m m' p p' : String} (hbus : ρ b b') (hmodule : ρ m m') (hport : ρ p p') :
      Renamed (.moduleInput b m p) (.moduleInput b' m' p')
  | moduleOutput {b b' m m' p p' : String} (hbus : ρ b b') (hmodule : ρ m m') (hport : ρ p p') :
      Renamed (.moduleOutput b m p) (.moduleOutput b' m' p')

inductive Request.Renamed : Request → Request → Prop
  | listMain : Renamed .listMain .listMain
  | addBus {parent parent' : String} (title inputs outputs : String) (hparent : ρ parent parent') :
      Renamed (.addBus parent title inputs outputs) (.addBus parent' title inputs outputs)
  | listBusPorts {bus bus' : String} (hbus : ρ bus bus') :
      Renamed (.listBusPorts bus) (.listBusPorts bus')
  | addModule {bus bus' : String} (spec : ModuleSpec) (hbus : ρ bus bus') :
      Renamed (.addModule bus spec) (.addModule bus' spec)
  | listModulePorts {id id' : String} (h : ρ id id') :
      Renamed (.listModulePorts id) (.listModulePorts id')
  | addConnection {origin origin' target target' : PortAddress}
      (horigin : origin.Renamed ρ origin') (htarget : target.Renamed ρ target') :
      Renamed (.addConnection origin.text target.text) (.addConnection origin'.text target'.text)

/-- The same answer to two requests of a kind. -/
def Request.AnswersRenamed : (r r' : Request) → r.Answer → r'.Answer → Prop
  | .listMain, .listMain => MainPorts.Renamed ρ
  | .addBus .., .addBus .. => ρ
  | .listBusPorts _, .listBusPorts _ => PortList.Renamed ρ
  | .addModule .., .addModule .. => ρ
  | .listModulePorts _, .listModulePorts _ => PortList.Renamed ρ
  | .addConnection .., .addConnection .. => ρ
  | _, _ => fun _ _ => False

structure Compilation.Renamed (c d : Compilation) : Prop where
  bindings : c.bindings.Renamed ρ d.bindings
  report : c.report = d.report

end Renamed

lemma MainPorts.Renamed.ports {m n : MainPorts} (h : m.Renamed ρ n) (d : Direction) :
    List.Forall₂ ρ (m.ports d) (n.ports d) := by
  cases d
  · exact h.inputs
  · exact h.outputs

lemma forall₂_ids {ps qs : List Port} (h : List.Forall₂ (Port.Renamed ρ) ps qs) :
    List.Forall₂ ρ (ps.map Port.id) (qs.map Port.id) :=
  List.rel_map (fun _ _ hp => hp.id) h

lemma PortAddress.Renamed.separable {a a' : PortAddress} (hρ : Renaming ρ) (h : a.Renamed ρ a') :
    a.Separable ∧ a'.Separable := by
  cases h with
  | main hport => simp [separable_main_iff, hρ.isOpaque _ _ hport]
  | bus hbus hport => simp [separable_bus_iff, hρ.isOpaque _ _ hbus, hρ.isOpaque _ _ hport]
  | moduleInput hbus hmodule hport =>
    simp [separable_moduleInput_iff, hρ.isOpaque _ _ hbus, hρ.isOpaque _ _ hmodule,
      hρ.isOpaque _ _ hport]
  | moduleOutput hbus hmodule hport =>
    simp [separable_moduleOutput_iff, hρ.isOpaque _ _ hbus, hρ.isOpaque _ _ hmodule,
      hρ.isOpaque _ _ hport]

/-- An address is renamed into one address at most. -/
lemma PortAddress.Renamed.right_unique {a b b' : PortAddress} (hρ : Renaming ρ)
    (h : a.Renamed ρ b) (h' : a.Renamed ρ b') : b = b' := by
  have hunique : ∀ {x y y' : String}, ρ x y → ρ x y' → y = y' :=
    fun hy hy' => (hρ.one_to_one _ _ _ _ hy hy').mp rfl
  cases h with
  | main hport =>
    cases h' with
    | main hport' => rw [hunique hport hport']
  | bus hbus hport =>
    cases h' with
    | bus hbus' hport' => rw [hunique hbus hbus', hunique hport hport']
  | moduleInput hbus hmodule hport =>
    cases h' with
    | moduleInput hbus' hmodule' hport' =>
      rw [hunique hbus hbus', hunique hmodule hmodule', hunique hport hport']
  | moduleOutput hbus hmodule hport =>
    cases h' with
    | moduleOutput hbus' hmodule' hport' =>
      rw [hunique hbus hbus', hunique hmodule hmodule', hunique hport hport']

/-! ### Recording -/

namespace Bindings.Renamed

variable {b c : Bindings}

lemma node? (h : b.Renamed ρ c) (k : NodeKey) :
    Option.Rel (NodeBinding.Renamed ρ) (b.node? k) (c.node? k) :=
  forall₂_lookup_rel h.nodes k

lemma bindNode (h : b.Renamed ρ c) (k : NodeKey) {x y : NodeBinding} (hxy : x.Renamed ρ y) :
    Echoes (Bindings.Renamed ρ) (b.bindNode k x) (c.bindNode k y) := by
  unfold Bindings.bindNode
  refine optionRel_elim (h.node? k) ?_ fun _ _ _ => .error _
  exact .ok ⟨.cons ⟨rfl, hxy⟩ h.nodes, h.connections, h.levelBuses⟩

lemma bindConnection (h : b.Renamed ρ c) (level index : Nat) (link : Int) {x y : String}
    (hxy : ρ x y) :
    Echoes (Bindings.Renamed ρ) (b.bindConnection level index link x)
      (c.bindConnection level index link y) := by
  unfold Bindings.bindConnection connection?
  refine optionRel_elim (forall₂_lookup_rel h.connections (level, index)) ?_ fun _ _ _ => .error _
  exact .ok ⟨h.nodes, .cons ⟨rfl, hxy⟩ h.connections, h.levelBuses⟩

lemma bindLevelBus (h : b.Renamed ρ c) (level : Nat) {x y : String} (hxy : ρ x y) :
    (b.bindLevelBus level x).Renamed ρ (c.bindLevelBus level y) := by
  unfold Bindings.bindLevelBus levelBus?
  refine optionRel_elim (forall₂_lookup_rel h.levelBuses level) ?_ fun _ _ _ => h
  exact ⟨h.nodes, h.connections, .cons ⟨rfl, hxy⟩ h.levelBuses⟩

end Bindings.Renamed

/-- A node is bound to the renamed physical ports, or fails with the same error. -/
lemma bindMain_renamed {mains mains' : MainPorts} (hm : mains.Renamed ρ mains') {b c : Bindings}
    (h : b.Renamed ρ c) (v : GraphNode) :
    Echoes (Bindings.Renamed ρ) (bindMain mains b v) (bindMain mains' c v) := by
  unfold bindMain
  split
  · exact .ok h
  · next d slots _ =>
    have hports := hm.ports d
    dsimp only
    rw [← hports.length_eq]
    split_ifs
    · exact (h.bindNode _ (.mains (List.forall₂_take slots hports))).mapError _
    · exact .error _

lemma bindMains_renamed {mains mains' : MainPorts} (hm : mains.Renamed ρ mains') {b c : Bindings}
    (h : b.Renamed ρ c) (nodes : List GraphNode) :
    Echoes (Bindings.Renamed ρ) (bindMains mains b nodes) (bindMains mains' c nodes) := by
  refine Echoes.foldlM (P := (· = ·)) ?_ (List.forall₂_refl nodes) h
  rintro b c h v _ rfl
  exact bindMain_renamed hm h v

/-- Pass-throughs are bound to the renamed ports, or fail with the same error. -/
lemma bindPassThroughs_renamed {bus bus' : String} (hbus : ρ bus bus') (level : Nat)
    (nodes : List Int) {ports ports' : List String} (hports : List.Forall₂ ρ ports ports')
    {b c : Bindings} (h : b.Renamed ρ c) :
    Echoes (Bindings.Renamed ρ) (bindPassThroughs level bus (nodes.zip ports) b)
      (bindPassThroughs level bus' (nodes.zip ports') c) := by
  refine Echoes.foldlM (P := fun p q => p.1 = q.1 ∧ ρ p.2 q.2) ?_ ?_ h
  · rintro b c h ⟨node, port⟩ ⟨_, port'⟩ ⟨rfl, hport⟩
    exact h.bindNode _ (.busPort hbus hport)
  · induction hports generalizing nodes with
    | nil => simp
    | cons hport _ ih =>
      cases nodes with
      | nil => exact .nil
      | cons node nodes => exact .cons ⟨rfl, hport⟩ (ih nodes)

lemma bindInside_renamed {ids ids' : BusIds} (hids : ids.Renamed ρ ids') (child : Option Level)
    {b c : Bindings} (h : b.Renamed ρ c) :
    Echoes (Bindings.Renamed ρ) (bindInside child ids b) (bindInside child ids' c) := by
  cases child with
  | none => exact .ok h
  | some l =>
    refine (bindPassThroughs_renamed hids.id l.id _ hids.inputs h).bind fun b c h => ?_
    refine (bindPassThroughs_renamed hids.id l.id _ hids.outputs h).bind fun b c h => ?_
    exact .ok (h.bindLevelBus l.id hids.id)

/-! ### Reading what was recorded -/

/-- Ports are matched by name, and renaming keeps their names. -/
lemma matchPorts_renamed {ps qs : List Port} (h : List.Forall₂ (Port.Renamed ρ) ps qs)
    (names : List String) :
    List.Forall₂ (Option.Rel ρ) (matchPorts ps names) (matchPorts qs names) := by
  have hnames : List.Forall₂ (· = ·) names names := List.forall₂_same.mpr fun name _ => rfl
  refine List.rel_map ?_ hnames
  rintro name _ rfl
  exact optionRel_map (forall₂_find?_rel h fun p q hpq => by rw [hpq.name]) fun _ _ hpq => hpq.id

lemma unmatched_renamed {ps qs : List Port} (h : List.Forall₂ (Port.Renamed ρ) ps qs)
    (key : NodeKey) (d : Direction) (names : List String) :
    unmatched key d ps names = unmatched key d qs names := by
  have hany : ∀ name, (ps.any fun p => p.name = name) = qs.any fun p => p.name = name := by
    intro name
    induction h with
    | nil => rfl
    | cons hpq _ ih => rw [List.any_cons, List.any_cons, ih, hpq.name]
  simp only [unmatched, hany]

/-- An end of a link has a renamed address, or none with the same error. -/
lemma resolveEnd_renamed {b c : Bindings} (h : b.Renamed ρ c) (l : Level) (k : GraphLink)
    (e : LinkEnd) :
    Echoes (PortAddress.Renamed ρ) (resolveEnd l b k e) (resolveEnd l c k e) := by
  unfold resolveEnd
  dsimp only
  refine optionRel_elim (h.node? (k.node e)) ?_ fun x y hxy => ?_
  · cases l.node? (k.node e).id <;> exact .error _
  · cases l.node? (k.node e).id with
    | none => exact .error _
    | some v =>
      dsimp only
      -- Only a few kinds of nodes can be bound in this way, and at one end each.
      cases hxy with
      | mains hids =>
        have hport := forall₂_getElem?_rel hids (k.slot e)
        cases v.kind <;> cases e <;> dsimp only <;> first
          | exact .error _
          | exact optionRel_elim hport (.error _) fun _ _ hp => .ok (.main hp)
      | bus hid hinputs houtputs =>
        have hin := forall₂_getElem?_rel hinputs (k.slot e)
        have hout := forall₂_getElem?_rel houtputs (k.slot e)
        cases v.kind <;> cases e <;> dsimp only <;> first
          | exact .error _
          | exact optionRel_elim hin (.error _) fun _ _ hp => .ok (.bus hid hp)
          | exact optionRel_elim hout (.error _) fun _ _ hp => .ok (.bus hid hp)
      | busPort hbus hport =>
        cases v.kind <;> cases e <;> first
          | exact .error _
          | exact .ok (.bus hbus hport)
      | processing hbus hid hinputs houtputs =>
        have hin := optionRel_join (forall₂_getElem?_rel hinputs (k.slot e))
        have hout := optionRel_join (forall₂_getElem?_rel houtputs (k.slot e))
        cases v.kind <;> cases e <;> dsimp only <;> first
          | exact .error _
          | exact optionRel_elim hin (.error _) fun _ _ hp => .ok (.moduleInput hbus hid hp)
          | exact optionRel_elim hout (.error _) fun _ _ hp => .ok (.moduleOutput hbus hid hp)

/-! ### Conversations -/

lemma opaque_of_renamed (hρ : Renaming ρ) {ps qs : List Port}
    (h : List.Forall₂ (Port.Renamed ρ) ps qs) : ∀ q ∈ qs, isOpaque q.id = true := by
  induction h with
  | nil => simp
  | cons hpq _ ih => exact List.forall_mem_cons.mpr ⟨(hρ.isOpaque _ _ hpq.id).2, ih⟩

/-- The renamed ids pass the check if the ids do. -/
lemma busPortIds_renamed (hρ : Renaming ρ) (bus bus' : String) (d : Direction) {ps qs : List Port}
    (h : List.Forall₂ (Port.Renamed ρ) ps qs) (expected : Nat) {ids : List String}
    (hids : busPortIds bus d ps expected = .ok ids) :
    ∃ ids', busPortIds bus' d qs expected = .ok ids' ∧ List.Forall₂ ρ ids ids' := by
  obtain ⟨hlength, -, rfl⟩ := busPortIds_ok_iff.mp hids
  exact ⟨_, busPortIds_ok_iff.mpr ⟨h.length_eq ▸ hlength, opaque_of_renamed hρ h, rfl⟩,
    forall₂_ids h⟩

/-- The one engine answers renamed requests with renamed answers, where the other one grants
them. -/
def Engine.Renames (engine : Engine σ) (ρ : String → String → Prop) (R : σ → τ → Prop)
    (engine' : Engine τ) : Prop :=
  ∀ r r', r.Renamed ρ r' → Follows R (fun _ => True) (Request.AnswersRenamed ρ r r')
    (engine.ask r) (engine'.ask r')

variable {R : σ → τ → Prop} {engine : Engine σ} {engine' : Engine τ}

namespace Engine

lemma checkOpaque_follows (hρ : Renaming ρ) (operation : String) {x y : String} (hxy : ρ x y) :
    Follows R (fun _ => True) (fun _ _ => True) (proceed (checkOpaque operation x))
      (proceed (checkOpaque operation y)) :=
  .proceed_of_ok (fun _ => trivial)
    fun _ _ => ⟨(), checkOpaque_ok_iff.mpr (hρ.isOpaque _ _ hxy).2, trivial⟩

/-- A bus that is made by the first engine is made by the second one, with renamed ids. -/
lemma newBus_follows (hρ : Renaming ρ) (h : engine.Renames ρ R engine') {parent parent' : String}
    (hparent : ρ parent parent') (title : String) (inputs outputs : List String) :
    Follows R (fun _ => True) (BusIds.Renamed ρ) (engine.newBus parent title inputs outputs)
      (engine'.newBus parent' title inputs outputs) := by
  refine (h _ _ (.addBus _ _ _ hparent)).bind fun id id' (hid : ρ id id') => ?_
  refine (checkOpaque_follows hρ _ hid).bind fun _ _ _ => ?_
  refine (h _ _ (.listBusPorts hid)).bind fun ports ports' (hports : ports.Renamed ρ ports') => ?_
  refine (Follows.proceed_of_ok (fun _ => trivial)
    fun _ => busPortIds_renamed hρ _ _ _ hports.inputs _).bind fun _ _ hins => ?_
  refine (Follows.proceed_of_ok (fun _ => trivial)
    fun _ => busPortIds_renamed hρ _ _ _ hports.outputs _).bind fun _ _ houts => ?_
  exact .pure ⟨hid, hins, houts⟩

/-- A module that is made by the first engine is made by the second one, with renamed ids. -/
lemma newModule_follows (hρ : Renaming ρ) (h : engine.Renames ρ R engine') {bus bus' : String}
    (hbus : ρ bus bus') (spec : ModuleSpec) :
    Follows R (fun _ => True) (ModuleIds.Renamed ρ) (engine.newModule bus spec)
      (engine'.newModule bus' spec) := by
  refine (h _ _ (.addModule _ hbus)).bind fun id id' (hid : ρ id id') => ?_
  refine (checkOpaque_follows hρ _ hid).bind fun _ _ _ => ?_
  refine (h _ _ (.listModulePorts hid)).bind
    fun ports ports' (hports : ports.Renamed ρ ports') => ?_
  have hall := opaque_of_renamed hρ (List.rel_append hports.inputs hports.outputs)
  refine (Follows.proceed_of_ok (V := fun _ _ => True) (fun _ => trivial)
    fun _ _ => ⟨(), forM_checkOpaque_ok_iff.mpr hall, trivial⟩).bind fun _ _ _ => ?_
  exact .pure ⟨hid, hports⟩

end Engine

/-! ### Steps -/

/-- Two sessions that differ only in ids, and in engines that are related. -/
structure Session.Renamed (ρ : String → String → Prop) (R : σ → τ → Prop) (s : Session σ)
    (t : Session τ) : Prop where
  engine : R s.engine t.engine
  bindings : s.bindings.Renamed ρ t.bindings
  report : s.report = t.report
  skipped : s.skipped = t.skipped

/-- Whether the engine refused a request, or its answer was of no use. -/
def CompileError.IsEngine (err : CompileError) : Prop := ∃ e, err = .engine e

namespace Compiler

/-- Where the talk with the second engine goes as with the first one, so does the step of the
compilation. -/
lemma converse_follows {V : α → β → Prop} {talk : Conversation σ α} {talk' : Conversation τ β}
    (h : Follows R (fun _ => True) V talk talk') :
    Follows (Session.Renamed ρ R) CompileError.IsEngine V (converse talk) (converse talk') := by
  rintro s t hst
  have hs := h s.engine t.engine hst.engine
  revert hs
  simp only [converse, ExceptT.run_mk]
  rcases talk.run s.engine with ⟨e | a, s'⟩ <;> rcases talk'.run t.engine with ⟨_ | _, t'⟩
  · exact fun _ => .inr ⟨_, rfl⟩
  · exact fun _ => .inr ⟨_, rfl⟩
  · rintro ⟨⟨_, herr, -⟩, -⟩
    cases herr
  · rintro ⟨⟨_, hb, hab⟩, hs'⟩
    cases hb
    exact ⟨⟨_, rfl, hab⟩, hs', hst.bindings, hst.report, hst.skipped⟩

/-- What is recorded is renamed, and it fails with the same error if it fails. -/
lemma record_follows {change change' : Bindings → Except CompileError Bindings}
    (h : ∀ b c : Bindings, b.Renamed ρ c → Echoes (Bindings.Renamed ρ) (change b) (change' c)) :
    Follows (Session.Renamed ρ R) CompileError.IsEngine (fun _ _ => True) (record change)
      (record change') := by
  intro s t hst
  rw [record_run, record_run]
  have hchange := h _ _ hst.bindings
  revert hchange
  rcases change s.bindings with _ | _ <;> rcases change' t.bindings with _ | _ <;> rintro ⟨⟩
  · exact .inl ⟨rfl, hst⟩
  · exact ⟨⟨_, rfl, trivial⟩, hst.engine, ‹_›, hst.report, hst.skipped⟩

lemma bind?_follows {change change' : Bindings → Except BindingError Bindings}
    (h : ∀ b c : Bindings, b.Renamed ρ c → Echoes (Bindings.Renamed ρ) (change b) (change' c)) :
    Follows (Session.Renamed ρ R) CompileError.IsEngine (fun _ _ => True) (bind? change)
      (bind? change') :=
  record_follows fun b c hbc => (h b c hbc).mapError CompileError.binding

lemma report_follows (change : Report → Report) :
    Follows (Session.Renamed ρ R) CompileError.IsEngine (fun _ _ => True) (report change)
      (report change) :=
  fun _ _ h => ⟨⟨_, rfl, trivial⟩, h.engine, h.bindings, congrArg change h.report, h.skipped⟩

lemma skipNode_follows (key : NodeKey) (tag : String) :
    Follows (Session.Renamed ρ R) CompileError.IsEngine (fun _ _ => True) (skipNode key tag)
      (skipNode key tag) :=
  fun _ _ h => ⟨⟨_, rfl, trivial⟩, h.engine, h.bindings,
    congrArg (fun r : Report =>
      { r with warnings := r.warnings ++ [Warning.unsupportedNode key tag] }) h.report,
    congrArg (key :: ·) h.skipped⟩

lemma createBus_follows (hρ : Renaming ρ) (h : engine.Renames ρ R engine') {parent parent' : String}
    (hparent : ρ parent parent') (key : NodeKey) (title : String) (child : Option Level) :
    Follows (Session.Renamed ρ R) CompileError.IsEngine ρ
      (createBus engine parent key title child) (createBus engine' parent' key title child) := by
  refine (converse_follows (Engine.newBus_follows hρ h hparent _ _ _)).bind fun ids ids' hids => ?_
  refine (bind?_follows fun _ _ => bindInside_renamed hids child).bind fun _ _ _ => ?_
  refine (bind?_follows fun _ _ hb => hb.bindNode key (.bus hids.id hids.inputs hids.outputs)).bind
    fun _ _ _ => ?_
  exact (report_follows _).bind fun _ _ _ => .pure hids.id

lemma createModule_follows (hρ : Renaming ρ) (h : engine.Renames ρ R engine')
    {bus bus' : String} (hbus : ρ bus bus') (key : NodeKey)
    (inputNames outputNames : List String) (spec : ModuleSpec) :
    Follows (Session.Renamed ρ R) CompileError.IsEngine (fun _ _ => True)
      (createModule engine bus key inputNames outputNames spec)
      (createModule engine' bus' key inputNames outputNames spec) := by
  refine (converse_follows (Engine.newModule_follows hρ h hbus spec)).bind fun ids ids' hids => ?_
  rw [unmatched_renamed hids.ports.inputs, unmatched_renamed hids.ports.outputs]
  refine (report_follows _).bind fun _ _ _ => (report_follows _).bind fun _ _ _ => ?_
  refine (bind?_follows fun _ _ hb => hb.bindNode key (.processing hbus hids.id
    (matchPorts_renamed hids.ports.inputs _) (matchPorts_renamed hids.ports.outputs _))).bind
      fun _ _ _ => ?_
  exact report_follows _

/-- A link is connected by the renamed addresses. -/
lemma connectLink_follows (h : engine.Renames ρ R engine') (l : Level) (k : GraphLink) :
    Follows (Session.Renamed ρ R) CompileError.IsEngine (fun _ _ => True)
      (connectLink engine l k) (connectLink engine' l k) := by
  rw [connectLink_eq, connectLink_eq]
  refine Follows.get_bind (P := fun known known' => known.1.Renamed ρ known'.1 ∧
    known.2 = known'.2) (connectBy engine l k) (connectBy engine' l k)
    (fun s t hst => ⟨hst.bindings, hst.skipped⟩) ?_
  rintro ⟨b, ks⟩ ⟨c, _⟩ ⟨hbc, rfl⟩
  unfold connectBy
  dsimp only
  -- what was left out is the same with both engines, so the link is skipped in both or in none
  split
  · exact report_follows _
  · refine (Follows.proceed (resolveEnd_renamed hbc l k .origin)).bind fun _ _ horigin => ?_
    refine (Follows.proceed (resolveEnd_renamed hbc l k .target)).bind fun _ _ htarget => ?_
    refine (converse_follows (h _ _ (.addConnection horigin htarget))).bind
      fun id id' (hid : ρ id id') => ?_
    refine (bind?_follows fun _ _ hb => hb.bindConnection _ _ _ hid).bind fun _ _ _ => ?_
    exact report_follows _

lemma connectLinks_follows (h : engine.Renames ρ R engine') (l : Level) (ks : List GraphLink) :
    Follows (Session.Renamed ρ R) CompileError.IsEngine (fun _ _ => True)
      (connectLinks engine l ks) (connectLinks engine' l ks) := by
  induction ks with
  | nil => exact .pure trivial
  | cons k ks ih => exact (connectLink_follows h l k).bind fun _ _ _ => ih

mutual

/-- A level is expanded in the renamed bus, by recursion on it. -/
theorem expandLevel_follows (hρ : Renaming ρ) (h : engine.Renames ρ R engine') :
    ∀ {bus bus' : String}, ρ bus bus' → ∀ l : Level,
    Follows (Session.Renamed ρ R) CompileError.IsEngine (fun _ _ => True)
      (expandLevel engine bus l) (expandLevel engine' bus' l)
  | bus, bus', hbus, ⟨id, parent, depth, nodes, links⟩ => by
    rw [expandLevel, expandLevel]
    refine (report_follows _).bind fun _ _ _ => ?_
    exact (expandNodes_follows hρ h hbus nodes).bind fun _ _ _ =>
      connectLinks_follows h _ links

theorem expandNodes_follows (hρ : Renaming ρ) (h : engine.Renames ρ R engine') :
    ∀ {bus bus' : String}, ρ bus bus' → ∀ vs : List GraphNode,
    Follows (Session.Renamed ρ R) CompileError.IsEngine (fun _ _ => True)
      (expandNodes engine bus vs) (expandNodes engine' bus' vs)
  | bus, bus', hbus, [] => by
    rw [expandNodes, expandNodes]
    exact .pure trivial
  | bus, bus', hbus, v :: vs => by
    rw [expandNodes, expandNodes]
    exact (expandNode_follows hρ h hbus v).bind fun _ _ _ => expandNodes_follows hρ h hbus vs

theorem expandNode_follows (hρ : Renaming ρ) (h : engine.Renames ρ R engine') :
    ∀ {bus bus' : String}, ρ bus bus' → ∀ v : GraphNode,
    Follows (Session.Renamed ρ R) CompileError.IsEngine (fun _ _ => True)
      (expandNode engine bus v) (expandNode engine' bus' v)
  | bus, bus', hbus, ⟨key, kind, inputNames, outputNames, child⟩ => by
    cases kind <;> simp only [expandNode]
    case busAdd title =>
      exact (createBus_follows hρ h hbus key title child).bind fun _ _ hid =>
        expandChild_follows hρ h hid child
    case processing spec => exact createModule_follows hρ h hbus key inputNames outputNames spec
    case unsupported tag => exact skipNode_follows key tag
    all_goals exact .pure trivial

theorem expandChild_follows (hρ : Renaming ρ) (h : engine.Renames ρ R engine') :
    ∀ {bus bus' : String}, ρ bus bus' → ∀ child : Option Level,
    Follows (Session.Renamed ρ R) CompileError.IsEngine (fun _ _ => True)
      (expandChild engine bus child) (expandChild engine' bus' child)
  | bus, bus', hbus, none => by
    rw [expandChild, expandChild]
    exact .pure trivial
  | bus, bus', hbus, some l => by
    rw [expandChild, expandChild]
    exact expandLevel_follows hρ h hbus l

end

end Compiler

/-- Where an engine answers as another one does, up to ids, compilations end in the same way up to
these ids, unless the first engine refuses something. -/
theorem compile_follows (hρ : Renaming ρ) (h : engine.Renames ρ R engine') (g : Graph) {s : σ}
    {t : τ} (hs : R s t) (hgrants : ∀ e, (compile engine g s).1 ≠ .error (.engine e)) :
    Echoes (Compilation.Renamed ρ) (compile engine g s).1 (compile engine' g t).1 ∧
      R (compile engine g s).2 (compile engine' g t).2 := by
  have hbuild : Follows (Session.Renamed ρ R) CompileError.IsEngine (fun _ _ => True)
      (Compiler.buildGraph engine g) (Compiler.buildGraph engine' g) := by
    rw [Compiler.buildGraph_eq, Compiler.buildGraph_eq]
    refine (Compiler.converse_follows (h _ _ .listMain)).bind
      fun mains mains' (hmains : mains.Renamed ρ mains') => ?_
    exact (Compiler.record_follows fun _ _ hb => bindMains_renamed hmains hb _).bind fun _ _ _ =>
      Compiler.expandLevel_follows hρ h hρ.empty g.root
  have hrun := hbuild { engine := s } { engine := t } ⟨hs, ⟨.nil, .nil, .nil⟩, rfl, rfl⟩
  revert hrun hgrants
  unfold compile
  rcases (Compiler.buildGraph engine g).run { engine := s } with ⟨e | _, s'⟩ <;>
    rcases (Compiler.buildGraph engine' g).run { engine := t } with ⟨_ | _, t'⟩ <;> intro hgrants
  · rintro (⟨herr, hs'⟩ | ⟨e, rfl⟩)
    · cases herr
      exact ⟨.error _, hs'.engine⟩
    · exact (hgrants e rfl).elim
  · rintro (⟨herr, -⟩ | ⟨e, rfl⟩)
    · cases herr
    · exact (hgrants e rfl).elim
  · rintro ⟨⟨_, herr, -⟩, -⟩
    cases herr
  · rintro ⟨-, hs'⟩
    exact ⟨.ok ⟨hs'.bindings, hs'.report⟩, hs'.engine⟩

end Patchbay
