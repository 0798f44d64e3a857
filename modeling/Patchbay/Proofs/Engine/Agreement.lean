import Patchbay.Compile
import Patchbay.Proofs.Graph.WellFormed
import Patchbay.Proofs.Runs

/-!
# Engines that agree

Where two engines give the same answers, a compilation does the same with both of them. This holds
up to the point where the first engine refuses what the second one grants: there the first
compilation ends, and the second one goes on by itself.
-/

namespace Patchbay

variable {σ τ : Type} {R : σ → τ → Prop} {cut : EngineError → σ → τ → Prop} {engine : Engine σ}
  {engine' : Engine τ}

def Request.ofModule : Request → Bool
  | addModule .. | listModulePorts _ => true
  | listMain | addBus .. | listBusPorts _ | addConnection .. => false

namespace Engine

/-- Two engines answer all requests alike, unless the first one breaks off. -/
def Tracks (engine : Engine σ) (R : σ → τ → Prop) (cut : EngineError → σ → τ → Prop)
    (engine' : Engine τ) : Prop :=
  ∀ r, Agree R cut (engine.ask r) (engine'.ask r)

/-- A module is made by its requests alone, so they go the same way with both engines. -/
lemma newModule_agree (h : engine.Tracks R cut engine') (bus : String)
    (spec : ModuleSpec) :
    Agree R cut (engine.newModule bus spec) (engine'.newModule bus spec) :=
  (h _).bind fun id => (Agree.proceed _).bind fun _ =>
    (h (.listModulePorts id)).bind fun _ => (Agree.proceed _).bind fun _ => Agree.pure _

end Engine

/-- Two sessions that differ at most in their engines, and these are related. -/
structure Session.Agrees (R : σ → τ → Prop) (s : Session σ) (t : Session τ) : Prop where
  engine : R s.engine t.engine
  bindings : s.bindings = t.bindings
  report : s.report = t.report
  skipped : s.skipped = t.skipped

/-- An error that the engine broke off with. -/
def CompileError.Cuts (cut : EngineError → σ → τ → Prop) (err : CompileError) (s : Session σ)
    (t : Session τ) : Prop :=
  ∃ e, err = .engine e ∧ cut e s.engine t.engine

namespace Compiler

variable {α : Type}

/-- A step that talks to the engine goes the same way if the talk does. -/
lemma converse_agree {talk : Conversation σ α} {talk' : Conversation τ α}
    (h : Agree R cut talk talk') :
    Agree (Session.Agrees R) (CompileError.Cuts cut) (converse talk) (converse talk') where
  together := by
    rintro ⟨s, b, r, k⟩ ⟨t, _, _, _⟩ ⟨hs, rfl, rfl, rfl⟩
    have hst := h.together s t hs
    revert hst
    simp only [converse, ExceptT.run_mk]
    -- both fail, only one of them does, or neither
    rcases talk.run s with ⟨e | a, s'⟩ <;> rcases talk'.run t with ⟨_ | _, t'⟩
    all_goals simp only [Except.mapError]
    · rintro (⟨herr, hs'⟩ | hcut)
      · cases herr
        exact .inl ⟨rfl, hs', rfl, rfl, rfl⟩
      · exact .inr ⟨_, rfl, hcut⟩
    · rintro (⟨herr, -⟩ | hcut)
      · cases herr
      · exact .inr ⟨_, rfl, hcut⟩
    · rintro ⟨herr, -⟩
      cases herr
    · rintro ⟨hab, hs'⟩
      cases hab
      exact ⟨rfl, hs', rfl, rfl, rfl⟩
  alone := by
    rintro _ s t ⟨e, rfl, hcut⟩
    have ht := h.alone e s.engine t.engine hcut
    unfold Ends at ht ⊢
    revert ht
    simp only [converse, ExceptT.run_mk]
    rcases talk'.run t.engine with ⟨_ | _, t'⟩ <;> exact fun ht => ⟨e, rfl, ht⟩

/-- Changes the bindings, or fails. -/
def record (change : Bindings → Except CompileError Bindings) : Compiler σ Unit := do
  let s ← get
  let b ← proceed (change s.bindings)
  set { s with bindings := b }

lemma record_run (change : Bindings → Except CompileError Bindings) (s : Session σ) :
    (record change).run s = match change s.bindings with
      | .ok b => (.ok (), { s with bindings := b })
      | .error e => (.error e, s) := by
  unfold record
  rw [run_bind]
  change (proceed (change s.bindings) >>= fun b => set { s with bindings := b }).run s = _
  rw [run_bind]
  cases change s.bindings <;> rfl

/-- The physical ports are bound before anything else is done. -/
lemma buildGraph_eq (engine : Engine σ) (g : Graph) :
    buildGraph engine g = (do
      let mains : MainPorts ← converse (engine.ask .listMain)
      record fun b => bindMains mains b (g.levels.flatMap Level.nodes)
      expandLevel engine "" g.root) := by
  simp only [buildGraph, record, bind_assoc]

/-- What is recorded does not depend on the engine. -/
lemma record_agree (change : Bindings → Except CompileError Bindings) :
    Agree (Session.Agrees R) (CompileError.Cuts cut) (record change) (record change) where
  together := by
    rintro ⟨s, b, r, k⟩ ⟨t, _, _, _⟩ ⟨hs, rfl, rfl, rfl⟩
    rw [record_run, record_run]
    dsimp only
    cases change b with
    | ok b' => exact ⟨rfl, hs, rfl, rfl, rfl⟩
    | error e => exact .inl ⟨rfl, hs, rfl, rfl, rfl⟩
  alone := by
    intro e s t hcut
    unfold Ends
    rw [record_run]
    cases change t.bindings <;> exact hcut

lemma bind?_agree (change : Bindings → Except BindingError Bindings) :
    Agree (Session.Agrees R) (CompileError.Cuts cut) (bind? change) (bind? change) :=
  record_agree fun b => (change b).mapError .binding

lemma report_agree (change : Report → Report) :
    Agree (Session.Agrees R) (CompileError.Cuts cut) (report change) (report change) where
  together _ _ h := ⟨rfl, h.engine, h.bindings, congrArg change h.report, h.skipped⟩
  alone _ _ _ h := h

lemma skipNode_agree (key : NodeKey) (tag : String) :
    Agree (Session.Agrees R) (CompileError.Cuts cut) (skipNode key tag) (skipNode key tag) where
  together _ _ h := ⟨rfl, h.engine, h.bindings,
    congrArg (fun r : Report =>
      { r with warnings := r.warnings ++ [Warning.unsupportedNode key tag] }) h.report,
    congrArg (key :: ·) h.skipped⟩
  alone _ _ _ h := h

lemma createModule_agree (h : engine.Tracks R cut engine') (bus : String)
    (key : NodeKey) (inputNames outputNames : List String) (spec : ModuleSpec) :
    Agree (Session.Agrees R) (CompileError.Cuts cut)
      (createModule engine bus key inputNames outputNames spec)
      (createModule engine' bus key inputNames outputNames spec) :=
  (converse_agree (Engine.newModule_agree h _ _)).bind fun _ => (report_agree _).bind fun _ =>
    (report_agree _).bind fun _ => (bind?_agree _).bind fun _ => report_agree _

def connectBy (engine : Engine σ) (l : Level) (k : GraphLink) (known : Bindings × List NodeKey) :
    Compiler σ Unit :=
  match k.skippedEnd? known.2 with
  | some node => warn [.skippedLink l.id k.id node]
  | none => do
    let origin ← proceed (resolveEnd l known.1 k .origin)
    let target ← proceed (resolveEnd l known.1 k .target)
    let id : String ← converse (engine.ask (.addConnection origin.text target.text))
    bind? fun b => b.bindConnection l.id k.index k.id id
    report fun r => { r with connections := r.connections + 1 }

/-- A link is connected by what is bound and left out so far. -/
lemma connectLink_eq (engine : Engine σ) (l : Level) (k : GraphLink) :
    connectLink engine l k = (do let s ← get; connectBy engine l k (s.bindings, s.skipped)) := rfl

/-- Two engines take the steps of a compilation alike: they answer alike what is not asked about
modules, and modules become the same if they are made of nodes in `P`. -/
structure StepsAgree (R : σ → τ → Prop) (cut : EngineError → σ → τ → Prop) (P : GraphNode → Prop)
    (engine : Engine σ) (engine' : Engine τ) : Prop where
  ask : ∀ r : Request, r.ofModule = false → Agree R cut (engine.ask r) (engine'.ask r)
  module : ∀ (bus : String) (v : GraphNode) (spec : ModuleSpec), P v → v.kind = .processing spec →
    Agree (Session.Agrees R) (CompileError.Cuts cut)
      (createModule engine bus v.key v.inputNames v.outputNames spec)
      (createModule engine' bus v.key v.inputNames v.outputNames spec)

/-- Engines that agree on every request agree on every module, too. -/
lemma StepsAgree.of_tracks (h : engine.Tracks R cut engine') :
    StepsAgree R cut (fun _ => True) engine engine' where
  ask r _ := h r
  module _ _ _ _ _ := createModule_agree h _ _ _ _ _

section Steps

variable {P : GraphNode → Prop}

lemma newBus_agree (h : StepsAgree R cut P engine engine') (parent title : String)
    (inputs outputs : List String) :
    Agree R cut (engine.newBus parent title inputs outputs)
      (engine'.newBus parent title inputs outputs) :=
  (h.ask _ rfl).bind fun id => (Agree.proceed _).bind fun _ =>
    (h.ask (.listBusPorts id) rfl).bind fun _ => (Agree.proceed _).bind fun _ =>
      (Agree.proceed _).bind fun _ => Agree.pure _

lemma createBus_agree (h : StepsAgree R cut P engine engine') (parent : String) (key : NodeKey)
    (title : String) (child : Option Level) :
    Agree (Session.Agrees R) (CompileError.Cuts cut) (createBus engine parent key title child)
      (createBus engine' parent key title child) :=
  (converse_agree (newBus_agree h _ _ _ _)).bind fun _ => (bind?_agree _).bind fun _ =>
    (bind?_agree _).bind fun _ => (report_agree _).bind fun _ => Agree.pure _

/-- A link is resolved to the same addresses, or to the same error before the engine is asked. -/
lemma connectLink_agree (h : StepsAgree R cut P engine engine') (l : Level) (k : GraphLink) :
    Agree (Session.Agrees R) (CompileError.Cuts cut) (connectLink engine l k)
      (connectLink engine' l k) := by
  rw [connectLink_eq, connectLink_eq]
  refine Agree.get_bind (connectBy engine l k) (connectBy engine' l k)
    (fun s t hs => by rw [hs.bindings, hs.skipped]) fun known => ?_
  unfold connectBy
  split
  · exact report_agree _
  · exact (Agree.proceed _).bind fun _ => (Agree.proceed _).bind fun _ =>
      (converse_agree (h.ask _ rfl)).bind fun _ => (bind?_agree _).bind fun _ =>
        report_agree _

lemma connectLinks_agree (h : StepsAgree R cut P engine engine') (l : Level)
    (ks : List GraphLink) :
    Agree (Session.Agrees R) (CompileError.Cuts cut) (connectLinks engine l ks)
      (connectLinks engine' l ks) := by
  induction ks with
  | nil => exact Agree.pure _
  | cons k ks ih => exact (connectLink_agree h l k).bind fun _ => ih

mutual

/-- A level is expanded in the same way, by recursion on it. `P` is what is needed of the nodes. -/
theorem expandLevel_agree (h : StepsAgree R cut P engine engine') : ∀ (bus : String) (l : Level),
    (∀ m ∈ l.flatten, ∀ v ∈ m.nodes, P v) →
    Agree (Session.Agrees R) (CompileError.Cuts cut) (expandLevel engine bus l)
      (expandLevel engine' bus l)
  | bus, ⟨id, parent, depth, nodes, links⟩, hP => by
    rw [Level.flatten_mk, List.forall_mem_cons] at hP
    rw [expandLevel, expandLevel]
    exact (report_agree _).bind fun _ => (expandNodes_agree h bus nodes hP.1 hP.2).bind fun _ =>
      connectLinks_agree h _ links

theorem expandNodes_agree (h : StepsAgree R cut P engine engine') : ∀ (bus : String)
    (vs : List GraphNode), (∀ v ∈ vs, P v) →
    (∀ m ∈ Level.flattenNodes vs, ∀ v ∈ m.nodes, P v) →
    Agree (Session.Agrees R) (CompileError.Cuts cut) (expandNodes engine bus vs)
      (expandNodes engine' bus vs)
  | bus, [], _, _ => by
    rw [expandNodes, expandNodes]
    exact Agree.pure _
  | bus, v :: vs, hvs, hP => by
    rw [Level.flattenNodes_cons, List.forall_mem_append] at hP
    rw [List.forall_mem_cons] at hvs
    rw [expandNodes, expandNodes]
    exact (expandNode_agree h bus v hvs.1 hP.1).bind fun _ => expandNodes_agree h bus vs hvs.2 hP.2

/-- Only buses, modules and unsupported nodes do anything when they are expanded. -/
theorem expandNode_agree (h : StepsAgree R cut P engine engine') : ∀ (bus : String)
    (v : GraphNode), P v →
    (∀ m ∈ Level.flattenNode v, ∀ w ∈ m.nodes, P w) →
    Agree (Session.Agrees R) (CompileError.Cuts cut) (expandNode engine bus v)
      (expandNode engine' bus v)
  | bus, ⟨key, kind, inputNames, outputNames, child⟩, hv, hP => by
    cases kind <;> simp only [expandNode]
    case busAdd title =>
      rw [Level.flattenNode_eq] at hP
      exact (createBus_agree h bus key title child).bind fun id => expandChild_agree h id child hP
    case processing spec =>
      exact h.module bus ⟨key, .processing spec, inputNames, outputNames, child⟩ spec hv rfl
    case unsupported tag => exact skipNode_agree key tag
    all_goals exact Agree.pure _

theorem expandChild_agree (h : StepsAgree R cut P engine engine') : ∀ (bus : String)
    (child : Option Level),
    (∀ m ∈ (child.map Level.flatten).getD [], ∀ v ∈ m.nodes, P v) →
    Agree (Session.Agrees R) (CompileError.Cuts cut) (expandChild engine bus child)
      (expandChild engine' bus child)
  | bus, none, _ => by
    rw [expandChild, expandChild]
    exact Agree.pure _
  | bus, some l, hP => by
    rw [expandChild, expandChild]
    exact expandLevel_agree h bus l hP

end

end Steps

end Compiler

/-- Compilations with two engines that take its steps alike end alike, unless the first engine
breaks off. -/
theorem compile_agree_of_steps {P : GraphNode → Prop}
    (h : Compiler.StepsAgree R cut P engine engine') {g : Graph}
    (hP : ∀ l ∈ g.levels, ∀ v ∈ l.nodes, P v) {s : σ} {t : τ} (hs : R s t) :
    (compile engine g s).1 = (compile engine' g t).1 ∧
        R (compile engine g s).2 (compile engine' g t).2 ∨
      ∃ e, (compile engine g s).1 = .error (.engine e) ∧
        cut e (compile engine g s).2 (compile engine' g t).2 := by
  have hbuild : Agree (Session.Agrees R) (CompileError.Cuts cut) (Compiler.buildGraph engine g)
      (Compiler.buildGraph engine' g) := by
    rw [Compiler.buildGraph_eq, Compiler.buildGraph_eq]
    exact (Compiler.converse_agree (h.ask _ rfl)).bind fun mains =>
      (Compiler.record_agree _).bind fun _ => Compiler.expandLevel_agree h "" g.root hP
  -- from here on only the ends of the two runs are compared
  have hrun := hbuild.together { engine := s } { engine := t } ⟨hs, rfl, rfl, rfl⟩
  revert hrun
  unfold compile
  rcases (Compiler.buildGraph engine g).run { engine := s } with ⟨_ | _, s'⟩ <;>
    rcases (Compiler.buildGraph engine' g).run { engine := t } with ⟨_ | _, t'⟩
  · rintro (⟨herr, hs'⟩ | ⟨e, rfl, hcut⟩)
    · cases herr
      exact .inl ⟨rfl, hs'.engine⟩
    · exact .inr ⟨e, rfl, hcut⟩
  · rintro (⟨herr, -⟩ | ⟨e, rfl, hcut⟩)
    · cases herr
    · exact .inr ⟨e, rfl, hcut⟩
  · rintro ⟨herr, -⟩
    cases herr
  · rintro ⟨-, hs'⟩
    exact .inl ⟨by simp [Except.map, hs'.bindings, hs'.report], hs'.engine⟩

/-- Compilations with two engines that agree end alike, unless the first engine breaks off. -/
theorem compile_agree (h : engine.Tracks R cut engine') (g : Graph) {s : σ}
    {t : τ} (hs : R s t) :
    (compile engine g s).1 = (compile engine' g t).1 ∧
        R (compile engine g s).2 (compile engine' g t).2 ∨
      ∃ e, (compile engine g s).1 = .error (.engine e) ∧
        cut e (compile engine g s).2 (compile engine' g t).2 :=
  compile_agree_of_steps (.of_tracks h) (fun _ _ _ _ => trivial) hs

/-- What an engine keeps whatever it is asked, it keeps in a compilation. -/
theorem compile_keeps {P : σ → Prop} (h : ∀ r s, P s → P (engine r s).2) (g : Graph) {s : σ}
    (hs : P s) : P (compile engine g s).2 := by
  have hsame : engine.Tracks (fun s t => s = t ∧ P s) (fun _ _ _ => False) engine := by
    intro r
    refine ⟨?_, fun _ _ _ => False.elim⟩
    rintro s _ ⟨rfl, hs⟩
    have hnext := h r s hs
    simp only [Engine.ask, ExceptT.run_mk]
    revert hnext
    rcases engine r s with ⟨_ | _, s'⟩
    · exact fun hnext => .inl ⟨rfl, rfl, hnext⟩
    · exact fun hnext => ⟨rfl, rfl, hnext⟩
  obtain ⟨-, -, hlast⟩ | ⟨-, -, hcut⟩ := compile_agree hsame g ⟨rfl, hs⟩
  · exact hlast
  · exact hcut.elim

end Patchbay
