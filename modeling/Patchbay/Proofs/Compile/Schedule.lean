import Patchbay.Proofs.Compile.Steps

/-!
# The schedule of a compilation

The recursion of a compilation over the levels of a graph is taken apart into steps, one after the
other. The bus that a level's nodes are made in is no longer passed along: it is what the node that
holds the level was bound to.
-/

namespace Patchbay

/-- One step of building a graph. -/
inductive BuildStep where
  | enter (l : Level)
  | visit (l : Level) (v : GraphNode)
  | connect (l : Level) (k : GraphLink)

namespace Level

mutual

/-- The steps of a level and all levels in it. -/
def steps : Level → List BuildStep
  | ⟨id, parent, depth, nodes, links⟩ =>
    .enter ⟨id, parent, depth, nodes, links⟩ ::
      (nodesSteps ⟨id, parent, depth, nodes, links⟩ nodes ++
        links.map (.connect ⟨id, parent, depth, nodes, links⟩))

def nodesSteps (l : Level) : List GraphNode → List BuildStep
  | [] => []
  | v :: vs => .visit l v :: (childSteps v ++ nodesSteps l vs)

def childSteps : GraphNode → List BuildStep
  | ⟨_, _, _, _, none⟩ => []
  | ⟨_, _, _, _, some l⟩ => steps l

end

lemma steps_eq (l : Level) :
    l.steps = .enter l :: (l.nodesSteps l.nodes ++ l.links.map (.connect l)) := by
  obtain ⟨id, parent, depth, nodes, links⟩ := l
  simp [steps]

@[simp] lemma nodesSteps_nil (l : Level) : l.nodesSteps [] = [] := by simp [nodesSteps]

@[simp] lemma nodesSteps_cons (l : Level) (v : GraphNode) (vs : List GraphNode) :
    l.nodesSteps (v :: vs) = .visit l v :: (childSteps v ++ l.nodesSteps vs) := by
  simp [nodesSteps]

lemma childSteps_eq (v : GraphNode) : childSteps v = (v.child.map steps).getD [] := by
  obtain ⟨key, kind, inputNames, outputNames, _ | l⟩ := v <;> simp [childSteps]

end Level

/-- The bus that a level belongs to. -/
def Bindings.busOf (b : Bindings) (l : Level) : String :=
  match l.parent.bind b.node? with
  | some (.bus id _ _) => id
  | _ => ""

/-- A level belongs to a bus, or to none if it is not nested. -/
def Bindings.Owned (b : Bindings) (l : Level) (bus : String) : Prop :=
  match l.parent with
  | none => bus = ""
  | some k => ∃ inputs outputs, b.node? k = some (.bus bus inputs outputs)

namespace Bindings

variable {b b' : Bindings} {l : Level} {bus : String}

/-- The bus that owns a level can be read off the bindings. -/
lemma Owned.busOf_eq (h : b.Owned l bus) : b.busOf l = bus := by
  unfold Owned at h
  unfold busOf
  split at h
  · rename_i hl
    simp [hl, h]
  · rename_i hl
    obtain ⟨inputs, outputs, h⟩ := h
    simp [hl, h]

lemma Owned.mono (h : b.Owned l bus) (hb : b.Extends b') : b'.Owned l bus := by
  unfold Owned at *
  split at h
  · exact h
  · obtain ⟨inputs, outputs, h⟩ := h
    exact ⟨inputs, outputs, hb.node h⟩

end Bindings

namespace Compiler

variable {σ : Type} {s : Session σ} {l : Level} {bus : String}

/-- Makes what a node stands for, without what lies in it. -/
def visitNode (engine : Engine σ) (bus : String) (v : GraphNode) : Compiler σ Unit :=
  match v.kind with
  | .busAdd title => do
    let _ ← createBus engine bus v.key title v.child
  | .processing spec => createModule engine bus v.key v.inputNames v.outputNames spec
  | .unsupported tag => skipNode v.key tag
  | .mainInputs _ | .mainOutputs _ | .busInput _ | .busOutput _ => pure ()

def perform (engine : Engine σ) : BuildStep → Compiler σ Unit
  | .enter l => report fun r => { r with maxDepth := max r.maxDepth l.depth }
  | .visit l v => do
    let s ← get
    visitNode engine (s.bindings.busOf l) v
  | .connect l k => connectLink engine l k

def performAll (engine : Engine σ) : List BuildStep → Compiler σ Unit
  | [] => pure ()
  | t :: ts => do
    perform engine t
    performAll engine ts

/-- Two runs of steps after each other are one run of all of them. -/
lemma performAll_append (engine : Engine σ) (ts us : List BuildStep) :
    performAll engine (ts ++ us) = performAll engine ts >>= fun _ => performAll engine us := by
  induction ts with
  | nil => simp [performAll]
  | cons t ts ih => simp [performAll, ih]

/-! ### Steps keep what was recorded -/

lemma bind?_ends (record : Bindings → Except BindingError Bindings) :
    Ends (bind? record) s (fun _ s' => record s.bindings = .ok s'.bindings)
      (fun _ _ => True) := by
  simp only [bind?, Ends.bind_iff, Ends.get_iff, Ends.proceed_iff, Ends.set_iff]
  exact ⟨fun b => mapError_eq_ok_iff.mp, fun _ _ => trivial⟩

lemma converse_ends {α : Type} (talk : Conversation σ α) :
    Ends (converse talk) s (fun _ s' => s'.bindings = s.bindings) (fun _ _ => True) := by
  rw [converse_iff]
  rcases h : talk.run s.engine with ⟨_ | _, e⟩ <;> simp [Ends, h, Session.withEngine]

lemma bindInside_extends {child : Option Level} {ids : BusIds} {b b' : Bindings}
    (h : bindInside child ids b = .ok b') : b.Extends b' := by
  cases child with
  | none =>
    cases h
    exact .refl b
  | some c =>
    obtain ⟨b₁, h₁, h⟩ := bind_eq_ok_iff.mp h
    obtain ⟨b₂, h₂, h⟩ := bind_eq_ok_iff.mp h
    cases h
    exact ((bindPassThroughs_extends h₁).trans (bindPassThroughs_extends h₂)).trans
      (Bindings.bindLevelBus_extends c.id ids.id)

/-- What was bound stays bound when a bus is made, and the node is bound to the bus. -/
lemma createBus_ends (engine : Engine σ) (key : NodeKey) (title : String)
    (child : Option Level) :
    Ends (createBus engine bus key title child) s
      (fun id s' => s.bindings.Extends s'.bindings ∧
        ∃ inputs outputs, s'.bindings.node? key = some (.bus id inputs outputs))
      (fun _ _ => True) := by
  rw [createBus, Ends.bind_iff]
  refine (converse_ends _).imp (fun ids s₁ h₁ => ?_) fun _ _ _ => trivial
  rw [Ends.bind_iff]
  refine (bind?_ends _).imp (fun _ s₂ h₂ => ?_) fun _ _ _ => trivial
  rw [Ends.bind_iff, bindNode]
  refine (bind?_ends _).imp (fun _ s₃ h₃ => ?_) fun _ _ _ => trivial
  simp only [Ends.bind_iff, report_iff, Ends.pure_iff]
  refine ⟨?_, ids.inputs, ids.outputs, ?_⟩
  · rw [← h₁]
    exact (bindInside_extends h₂).trans (Bindings.bindNode_extends h₃)
  · obtain ⟨-, hb⟩ := Bindings.bindNode_ok h₃
    rw [hb, Bindings.node?_cons, if_pos rfl]

lemma visitNode_extends (engine : Engine σ) (v : GraphNode) :
    Ends (visitNode engine bus v) s (fun _ s' => s.bindings.Extends s'.bindings)
      (fun _ _ => True) := by
  unfold visitNode
  split
  · simp only [Ends.bind_iff, Ends.pure_iff]
    exact (createBus_ends engine v.key _ v.child).imp (fun _ _ h => h.1) fun _ _ _ => trivial
  · rw [createModule, Ends.bind_iff]
    refine (converse_ends _).imp (fun ids s₁ h₁ => ?_) fun _ _ _ => trivial
    simp only [Ends.bind_iff, warn_iff, bindNode]
    refine (bind?_ends _).imp (fun _ s₂ h₂ => ?_) fun _ _ _ => trivial
    rw [report_iff, ← h₁]
    exact Bindings.bindNode_extends h₂
  · rw [skipNode_iff]
    exact .refl _
  all_goals exact .refl _

/-- However a link ends, what was bound stays bound. -/
lemma connectLink_extends (engine : Engine σ) (k : GraphLink) :
    Ends (connectLink engine l k) s (fun _ s' => s.bindings.Extends s'.bindings)
      (fun _ _ => True) := by
  rw [connectLink, Ends.bind_iff, Ends.get_iff]
  split
  · exact .refl _
  · simp only [Ends.bind_iff, Ends.proceed_iff]
    refine ⟨fun origin _ => ⟨fun target _ => ?_, fun _ _ => trivial⟩, fun _ _ => trivial⟩
    refine (converse_ends _).imp (fun id s₁ h₁ => ?_) fun _ _ _ => trivial
    refine (bind?_ends _).imp (fun _ s₂ h₂ => ?_) fun _ _ _ => trivial
    rw [report_iff, ← h₁]
    exact Bindings.bindConnection_extends h₂

/-- A step only adds to what is bound. -/
lemma perform_extends (engine : Engine σ) (t : BuildStep) :
    Ends (perform engine t) s (fun _ s' => s.bindings.Extends s'.bindings)
      (fun _ _ => True) := by
  cases t with
  | enter l => exact .refl _
  | visit l v =>
    rw [perform, Ends.bind_iff, Ends.get_iff]
    exact visitNode_extends engine v
  | connect l k => exact connectLink_extends engine k

lemma performAll_extends (engine : Engine σ) (ts : List BuildStep) :
    Ends (performAll engine ts) s (fun _ s' => s.bindings.Extends s'.bindings)
      (fun _ _ => True) := by
  induction ts generalizing s with
  | nil => exact .refl _
  | cons t ts ih =>
    rw [performAll, Ends.bind_iff]
    exact (perform_extends engine t).imp
      (fun _ _ h => ih.imp (fun _ _ => h.trans) fun _ _ => id) fun _ _ => id

/-! ### The recursion follows the schedule -/

lemma perform_visit_run (engine : Engine σ) (v : GraphNode) (h : s.bindings.Owned l bus) :
    (perform engine (.visit l v)).run s = (visitNode engine bus v).run s := by
  rw [perform, run_bind]
  change (visitNode engine (s.bindings.busOf l) v).run s = _
  rw [h.busOf_eq]

lemma connectLinks_run (engine : Engine σ) (ks : List GraphLink) :
    connectLinks engine l ks = performAll engine (ks.map (.connect l)) := by
  induction ks with
  | nil => rfl
  | cons k ks ih => simp [connectLinks, performAll, perform, ih]

mutual

/-- Expanding a level, in the bus that owns it, is performing the steps of the level. -/
theorem expandLevel_run (engine : Engine σ) : ∀ {l : Level} {bus : String} {s : Session σ},
    (∀ m ∈ l.flatten, m.Fits) → s.bindings.Owned l bus →
      (expandLevel engine bus l).run s = (performAll engine l.steps).run s
  | ⟨id, parent, depth, nodes, links⟩, bus, s, hfit, hbus => by
    rw [expandLevel, Level.steps, performAll]
    refine run_bind_congr rfl (p := fun _ s' => s'.bindings = s.bindings) rfl ?_
    rintro ⟨⟩ s₁ h₁
    rw [performAll_append, connectLinks_run]
    have hl := hfit _ (Level.mem_flatten_self _)
    have hrun : (expandNodes engine bus nodes).run s₁ = (performAll engine
        (Level.nodesSteps ⟨id, parent, depth, nodes, links⟩ nodes)).run s₁ :=
      expandNodes_run engine hl.node (fun m hm => hfit m (by simp [hm])) (h₁ ▸ hbus)
    exact run_bind_congr hrun (performAll_extends engine _) fun _ _ _ => rfl

/-- Expanding nodes is visiting each of them and doing the steps of the level that it holds. -/
theorem expandNodes_run (engine : Engine σ) : ∀ {l : Level} {vs : List GraphNode}
    {bus : String} {s : Session σ}, (∀ v ∈ vs, v.Fits l.id l.depth) →
      (∀ m ∈ Level.flattenNodes vs, m.Fits) → s.bindings.Owned l bus →
      (expandNodes engine bus vs).run s = (performAll engine (l.nodesSteps vs)).run s
  | l, [], bus, s, _, _, _ => by simp [expandNodes, performAll]
  | l, v :: vs, bus, s, hnodes, hfit, hbus => by
    rw [expandNodes, Level.nodesSteps_cons, ← List.cons_append, performAll_append]
    have hrun := expandNode_run engine (hnodes v List.mem_cons_self)
      (fun m hm => hfit m (by simp [hm])) hbus
    refine run_bind_congr hrun (performAll_extends engine _) ?_
    rintro ⟨⟩ s₁ h₁
    exact expandNodes_run engine (fun w hw => hnodes w (List.mem_cons_of_mem _ hw))
      (fun m hm => hfit m (by simp [hm])) (hbus.mono h₁)

theorem expandNode_run (engine : Engine σ) : ∀ {l : Level} {v : GraphNode} {bus : String}
    {s : Session σ}, v.Fits l.id l.depth → (∀ m ∈ Level.flattenNode v, m.Fits) →
      s.bindings.Owned l bus →
      (expandNode engine bus v).run s
        = (performAll engine (.visit l v :: Level.childSteps v)).run s
  | l, ⟨key, kind, inputNames, outputNames, none⟩, bus, s, hv, hfit, hbus => by
    have hvisit := perform_visit_run engine ⟨key, kind, inputNames, outputNames, none⟩ hbus
    have hexpand : expandNode engine bus ⟨key, kind, inputNames, outputNames, none⟩
        = visitNode engine bus ⟨key, kind, inputNames, outputNames, none⟩ := by
      cases kind <;> simp [expandNode, visitNode, expandChild]
    rw [hexpand, ← hvisit, Level.childSteps]
    simp [performAll]
  | l, ⟨key, kind, inputNames, outputNames, some c⟩, bus, s, hv, hfit, hbus => by
    have hvisit := perform_visit_run engine ⟨key, kind, inputNames, outputNames, some c⟩ hbus
    -- only a bus holds a level, and once it is bound it owns that level
    obtain ⟨title, rfl⟩ := hv.bus_of_child c rfl
    have hparent : c.parent = some key := hv.child_parent c rfl
    rw [performAll, run_bind, hvisit, ← run_bind, Level.childSteps]
    simp only [expandNode, visitNode, bind_assoc, pure_bind, expandChild]
    refine run_bind_congr rfl (createBus_ends engine key title (some c)) ?_
    rintro id s₁ ⟨-, inputs, outputs, hkey⟩
    apply expandLevel_run engine fun m hm => hfit m (by simpa [Level.flattenNode] using hm)
    simp only [Bindings.Owned, hparent]
    exact ⟨inputs, outputs, hkey⟩

end

end Compiler

end Patchbay
