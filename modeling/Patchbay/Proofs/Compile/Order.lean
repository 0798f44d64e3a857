import Patchbay.Proofs.Compile.Schedule
import Patchbay.Proofs.Graph.Keys

/-!
# The order of steps

Every step of a graph is taken once. When a node is visited, the bus around it was visited before;
when a link is connected, so were all nodes of its level.
-/

namespace Patchbay

/-! ### Every step once -/

namespace Level

/-- The steps of a level without those of the levels in it. -/
def ownSteps (l : Level) : List BuildStep :=
  .enter l :: (l.nodes.map (.visit l) ++ l.links.map (.connect l))

lemma mem_ownSteps {l : Level} {t : BuildStep} :
    t ∈ l.ownSteps ↔ t = .enter l ∨ (∃ v ∈ l.nodes, .visit l v = t) ∨
      ∃ k ∈ l.links, .connect l k = t := by
  simp [ownSteps]

/-- A level does nothing twice by itself, since its keys and positions are distinct. -/
lemma ownSteps_nodup {l : Level} (hl : l.Fits) : l.ownSteps.Nodup := by
  rw [ownSteps, List.nodup_cons, List.nodup_append]
  refine ⟨by simp, ?_, ?_, by simp⟩
  · refine (List.Nodup.of_map _ hl.ids_nodup).map ?_
    rintro v w ⟨⟩
    rfl
  · refine (List.Nodup.of_map GraphLink.index (hl.link_index ▸ List.nodup_range)).map ?_
    rintro k k' ⟨⟩
    rfl

mutual

/-- The steps of a level are its own and those of the levels in it. -/
theorem steps_perm : ∀ l : Level, l.steps.Perm (l.flatten.flatMap ownSteps)
  | ⟨id, parent, depth, nodes, links⟩ => by
    rw [steps, flatten_mk, List.flatMap_cons, ownSteps, List.cons_append, List.append_assoc]
    refine List.Perm.cons _ ?_
    refine ((nodesSteps_perm _ nodes).append_right _).trans ?_
    rw [List.append_assoc]
    exact List.perm_append_comm.append_left _

theorem nodesSteps_perm (l : Level) : ∀ vs : List GraphNode,
    (l.nodesSteps vs).Perm (vs.map (.visit l) ++ (flattenNodes vs).flatMap ownSteps)
  | [] => by simp
  | v :: vs => by
    rw [nodesSteps_cons, flattenNodes_cons, List.map_cons, List.cons_append, List.flatMap_append]
    refine List.Perm.cons _ ?_
    refine ((childSteps_perm v).append (nodesSteps_perm l vs)).trans ?_
    exact List.perm_append_comm_assoc _ _ _

theorem childSteps_perm : ∀ v : GraphNode,
    (childSteps v).Perm ((flattenNode v).flatMap ownSteps)
  | ⟨_, _, _, _, none⟩ => by simp [childSteps, flattenNode]
  | ⟨_, _, _, _, some l⟩ => by simpa [childSteps, flattenNode] using steps_perm l

end

/-! The steps of a level stand together. -/

mutual

/-- The steps of a level are taken in one go among those of a level around it. -/
theorem steps_isInfix : ∀ {l m : Level}, m ∈ l.flatten → m.steps <:+: l.steps
  | ⟨id, parent, depth, nodes, links⟩, m, h => by
    rw [flatten_mk] at h
    rcases List.mem_cons.mp h with rfl | h
    · exact List.infix_rfl
    · rw [steps]
      exact List.infix_cons ((nodesSteps_isInfix _ h).trans (List.prefix_append _ _).isInfix)

theorem nodesSteps_isInfix (l : Level) : ∀ {vs : List GraphNode} {m : Level},
    m ∈ flattenNodes vs → m.steps <:+: l.nodesSteps vs
  | [], m, h => by simp at h
  | v :: vs, m, h => by
    rw [flattenNodes_cons] at h
    rw [nodesSteps_cons]
    refine List.infix_cons ?_
    rcases List.mem_append.mp h with h | h
    · exact (childSteps_isInfix h).trans (List.prefix_append _ _).isInfix
    · exact (nodesSteps_isInfix l h).trans (List.suffix_append _ _).isInfix

theorem childSteps_isInfix : ∀ {v : GraphNode} {m : Level},
    m ∈ flattenNode v → m.steps <:+: childSteps v
  | ⟨_, _, _, _, none⟩, m, h => by simp [flattenNode] at h
  | ⟨_, _, _, _, some l⟩, m, h => by
    rw [flattenNode] at h
    rw [childSteps]
    exact steps_isInfix h

end

lemma ownSteps_subset_nodesSteps {l m : Level} (hm : m ∈ flattenNodes l.nodes) :
    m.ownSteps ⊆ l.nodesSteps l.nodes := by
  intro t ht
  rw [(nodesSteps_perm l l.nodes).mem_iff, List.mem_append]
  exact .inr (List.mem_flatMap.mpr ⟨m, hm, ht⟩)

end Level

namespace BuildStep

def level : BuildStep → Level
  | .enter l | .visit l _ | .connect l _ => l

lemma level_of_mem {l : Level} {t : BuildStep} (h : t ∈ l.ownSteps) : t.level = l := by
  rcases Level.mem_ownSteps.mp h with rfl | ⟨v, -, rfl⟩ | ⟨k, -, rfl⟩ <;> rfl

end BuildStep

namespace Graph

def steps (g : Graph) : List BuildStep := g.root.steps

variable {g : Graph} {l : Level}

/-- A step is one of its level's own. -/
lemma mem_steps {t : BuildStep} : t ∈ g.steps ↔ t.level ∈ g.levels ∧ t ∈ t.level.ownSteps := by
  rw [steps, (Level.steps_perm g.root).mem_iff, List.mem_flatMap]
  constructor
  · rintro ⟨l, hl, ht⟩
    rw [BuildStep.level_of_mem ht]
    exact ⟨hl, ht⟩
  · rintro ⟨hl, ht⟩
    exact ⟨_, hl, ht⟩

lemma visit_mem_steps {v : GraphNode} :
    .visit l v ∈ g.steps ↔ l ∈ g.levels ∧ v ∈ l.nodes := by
  simp [mem_steps, BuildStep.level, Level.mem_ownSteps]

lemma connect_mem_steps {k : GraphLink} :
    .connect l k ∈ g.steps ↔ l ∈ g.levels ∧ k ∈ l.links := by
  simp [mem_steps, BuildStep.level, Level.mem_ownSteps]

/-- No step is taken twice. -/
lemma WellFormed.steps_nodup (hg : g.WellFormed) : g.steps.Nodup := by
  rw [steps, (Level.steps_perm g.root).nodup_iff, List.nodup_flatMap]
  refine ⟨fun l hl => Level.ownSteps_nodup (hg.fits l hl), ?_⟩
  refine hg.levels_nodup.imp fun {l m} hne => ?_
  intro t hl hm
  exact hne (BuildStep.level_of_mem hl ▸ BuildStep.level_of_mem hm)

end Graph

/-! ### Nodes in the order of their visits -/

def NodeKind.isBus : NodeKind → Bool
  | .busAdd _ => true
  | _ => false

def NodeKind.isModule : NodeKind → Bool
  | .processing _ => true
  | _ => false

lemma NodeKind.isBus_iff {kind : NodeKind} : kind.isBus = true ↔ ∃ title, kind = .busAdd title := by
  cases kind <;> simp [isBus]

lemma NodeKind.isModule_iff {kind : NodeKind} :
    kind.isModule = true ↔ ∃ spec, kind = .processing spec := by
  cases kind <;> simp [isModule]

def BuildStep.node? (p : NodeKind → Bool) : BuildStep → Option (Level × GraphNode)
  | visit l v => if p v.kind then some (l, v) else none
  | _ => none

def visited (p : NodeKind → Bool) (ts : List BuildStep) : List (Level × GraphNode) :=
  ts.filterMap (BuildStep.node? p)

section Visited

variable {p : NodeKind → Bool} {ts : List BuildStep} {l : Level} {v : GraphNode}

lemma visited_concat (h : p v.kind = true) :
    visited p (ts ++ [.visit l v]) = visited p ts ++ [(l, v)] := by
  simp [visited, BuildStep.node?, h]

lemma visited_concat_other {t : BuildStep} (h : ∀ l v, t = .visit l v → p v.kind = false) :
    visited p (ts ++ [t]) = visited p ts := by
  cases t with
  | enter | connect => simp [visited, BuildStep.node?]
  | visit l v => simp [visited, BuildStep.node?, h l v rfl]

/-- The nodes that were visited are those of the visits. -/
lemma mem_visited : (l, v) ∈ visited p ts ↔ .visit l v ∈ ts ∧ p v.kind = true := by
  simp only [visited, List.mem_filterMap]
  constructor
  · rintro ⟨t, ht, h⟩
    cases t with
    | enter | connect => cases h
    | visit m w =>
      simp only [BuildStep.node?] at h
      split_ifs at h with hp
      cases h
      exact ⟨ht, hp⟩
  · rintro ⟨ht, hp⟩
    exact ⟨_, ht, by simp [BuildStep.node?, hp]⟩

/-- The keys of visited nodes differ. -/
lemma visited_keys_nodup {g : Graph} (hg : g.WellFormed) (p : NodeKind → Bool) :
    ((visited p g.steps).map fun v => v.2.key).Nodup := by
  refine List.Nodup.map_on ?_ ?_
  · rintro ⟨l, v⟩ hv ⟨m, w⟩ hw hkey
    obtain ⟨hl, hv⟩ := Graph.visit_mem_steps.mp (mem_visited.mp hv).1
    obtain ⟨hm, hw⟩ := Graph.visit_mem_steps.mp (mem_visited.mp hw).1
    obtain ⟨rfl, rfl⟩ := hg.node_unique hl hm hv hw hkey
    rfl
  · refine hg.steps_nodup.filterMap ?_
    rintro (_ | ⟨l, v⟩ | _) (_ | ⟨m, w⟩ | _) x h h' <;>
      simp only [BuildStep.node?, Option.mem_def, reduceCtorEq] at h h'
    split_ifs at h h'
    rw [Option.some.inj (h.trans h'.symm) |> Prod.mk.inj |>.1,
      Option.some.inj (h.trans h'.symm) |> Prod.mk.inj |>.2]

end Visited

/-! ### The order of steps -/

/-- The bus that a level belongs to was visited. -/
def Level.HeldIn (before : List BuildStep) (l : Level) : Prop :=
  ∀ k, l.parent = some k → ∃ m v, .visit m v ∈ before ∧ v.child = some l

/-- What comes before a step. -/
def BuildStep.Ready (before : List BuildStep) : BuildStep → Prop
  | .enter _ => True
  | .visit l _ => l.HeldIn before
  | .connect l _ => l.HeldIn before ∧ ∀ v ∈ l.nodes, .visit l v ∈ before

/-- Steps each of which is ready when those before it are done. -/
def Ordered : List BuildStep → List BuildStep → Prop
  | _, [] => True
  | before, t :: ts => t.Ready before ∧ Ordered (before ++ [t]) ts

section Ordered

variable {before : List BuildStep}

lemma Level.HeldIn.mono {l : Level} {after : List BuildStep} (h : l.HeldIn before)
    (hsub : before ⊆ after) : l.HeldIn after := by
  intro k hk
  obtain ⟨m, v, hv, hc⟩ := h k hk
  exact ⟨m, v, hsub hv, hc⟩

/-- The bus around a level that it was visited for. -/
lemma Level.HeldIn.exists_bus {g : Graph} {l : Level} {key : NodeKey} (h : l.HeldIn before)
    (hg : g.WellFormed) (hsub : before ⊆ g.steps) (hparent : l.parent = some key) :
    ∃ m ∈ g.levels, ∃ w ∈ m.nodes, .visit m w ∈ before ∧ w.child = some l ∧ w.key = key ∧
      ∃ title, w.kind = .busAdd title := by
  obtain ⟨m, w, hvisit, hchild⟩ := h key hparent
  obtain ⟨hm, hw⟩ := Graph.visit_mem_steps.mp (hsub hvisit)
  have hfit := (hg.fits m hm).node w hw
  refine ⟨m, hm, w, hw, hvisit, hchild, ?_, hfit.bus_of_child l hchild⟩
  exact Option.some.inj ((hfit.child_parent l hchild).symm.trans hparent)

/-- Every level but the root is held by a node that is visited. -/
lemma Graph.WellFormed.heldIn_steps {g : Graph} {l : Level} (hg : g.WellFormed)
    (hl : l ∈ g.levels) : l.HeldIn g.steps := by
  intro key hparent
  obtain ⟨m, hm, v, hv, hchild, -⟩ := hg.exists_owner hl hparent
  exact ⟨m, v, Graph.visit_mem_steps.mpr ⟨hm, hv⟩, hchild⟩

/-- Steps are in order if those before are and the rest is after them. -/
lemma Ordered.append {ts us : List BuildStep} (h : Ordered before ts)
    (h' : Ordered (before ++ ts) us) : Ordered before (ts ++ us) := by
  induction ts generalizing before with
  | nil => simpa using h'
  | cons t ts ih => exact ⟨h.1, ih h.2 (by simpa using h')⟩

lemma Ordered.ready {ts us : List BuildStep} {t : BuildStep} (h : Ordered before (ts ++ t :: us)) :
    t.Ready (before ++ ts) := by
  induction ts generalizing before with
  | nil => simpa using h.1
  | cons u ts ih => simpa using ih h.2

lemma visit_mem_nodesSteps {l : Level} {v : GraphNode} {vs : List GraphNode} (hv : v ∈ vs) :
    .visit l v ∈ l.nodesSteps vs := by
  rw [(Level.nodesSteps_perm l vs).mem_iff, List.mem_append]
  exact .inl (List.mem_map_of_mem hv)

/-- Links come in order once all nodes of their level were visited. -/
lemma ordered_links {l : Level} {ks : List GraphLink} (hl : l.HeldIn before)
    (hnodes : ∀ v ∈ l.nodes, .visit l v ∈ before) : Ordered before (ks.map (.connect l)) := by
  induction ks generalizing before with
  | nil => trivial
  | cons k ks ih =>
    refine ⟨⟨hl, hnodes⟩, ih (hl.mono (List.subset_append_left _ _)) ?_⟩
    exact fun v hv => List.mem_append_left _ (hnodes v hv)

mutual

/-- The steps of a level are in order if the node that holds it was visited before, by recursion on
the level. -/
theorem Level.steps_ordered : ∀ {l : Level} {before : List BuildStep}, l.HeldIn before →
    Ordered before l.steps
  | ⟨id, parent, depth, nodes, links⟩, before, h => by
    rw [steps]
    have hafter := h.mono (List.subset_append_left before
      [.enter ⟨id, parent, depth, nodes, links⟩])
    refine ⟨trivial, (nodesSteps_ordered hafter).append (ordered_links ?_ ?_)⟩
    · exact hafter.mono (List.subset_append_left _ _)
    · exact fun v hv => List.mem_append_right _ (visit_mem_nodesSteps hv)

theorem Level.nodesSteps_ordered : ∀ {l : Level} {vs : List GraphNode}
    {before : List BuildStep}, l.HeldIn before → Ordered before (l.nodesSteps vs)
  | l, [], before, h => by
    rw [nodesSteps_nil]
    trivial
  | l, v :: vs, before, h => by
    rw [nodesSteps_cons]
    have hvisit : before ⊆ before ++ [.visit l v] := List.subset_append_left _ _
    refine ⟨h, (childSteps_ordered (l := l) (by simp)).append (nodesSteps_ordered ?_)⟩
    exact (h.mono hvisit).mono (List.subset_append_left _ _)

theorem Level.childSteps_ordered : ∀ {l : Level} {v : GraphNode} {before : List BuildStep},
    .visit l v ∈ before → Ordered before (childSteps v)
  | l, ⟨_, _, _, _, none⟩, before, h => by
    rw [childSteps]
    trivial
  | l, ⟨_, _, _, _, some c⟩, before, h => by
    rw [childSteps]
    exact steps_ordered fun _ _ => ⟨l, _, h, rfl⟩

end

end Ordered

/-- A step of building a graph, and the steps before it. -/
def Graph.Next (g : Graph) (before : List BuildStep) (t : BuildStep) : Prop :=
  ∃ after, g.steps = before ++ t :: after

namespace Graph.Next

variable {g : Graph} {before : List BuildStep} {t : BuildStep}

lemma mem (h : g.Next before t) : t ∈ g.steps := by
  obtain ⟨after, h⟩ := h
  simp [h]

lemma subset (h : g.Next before t) : before ⊆ g.steps := by
  obtain ⟨after, h⟩ := h
  simp [h]

/-- The next step was not taken yet. -/
lemma fresh (hg : g.WellFormed) (h : g.Next before t) : t ∉ before := by
  obtain ⟨after, h⟩ := h
  have hnodup := hg.steps_nodup
  rw [h, List.nodup_append] at hnodup
  exact fun ht => hnodup.2.2 t ht t List.mem_cons_self rfl

/-- What the next step needs was done. -/
lemma ready (hg : g.WellFormed) (h : g.Next before t) : t.Ready before := by
  obtain ⟨after, h⟩ := h
  have hroot : g.root.HeldIn [] := by
    intro k hk
    rw [hg.root_parent] at hk
    cases hk
  have hordered := Level.steps_ordered hroot
  rw [← Graph.steps, h] at hordered
  exact hordered.ready

/-- Links are connected after all steps of the nodes beside them. -/
lemma nodesSteps_subset (hg : g.WellFormed) {l : Level} {k : GraphLink}
    (h : g.Next before (.connect l k)) : l.nodesSteps l.nodes ⊆ before := by
  obtain ⟨hl, hk⟩ := Graph.connect_mem_steps.mp h.mem
  obtain ⟨after, hafter⟩ := h
  obtain ⟨first, last, hinfix⟩ := Level.steps_isInfix hl
  rw [Level.steps_eq, ← Graph.steps] at hinfix
  have hsplit : (first ++ .enter l :: l.nodesSteps l.nodes) ++ (l.links.map (.connect l) ++ last)
      = before ++ .connect l k :: after := by
    rw [← hafter, ← hinfix]
    simp
  have hnodup := hg.steps_nodup
  rw [hafter, ← hsplit, List.nodup_append] at hnodup
  -- the link is in the second part, so it cannot be where the first part has not ended yet
  rcases List.append_eq_append_iff.mp hsplit with ⟨mid, rfl, -⟩ | ⟨mid, hfirst, hmid⟩
  · intro t ht
    simp [ht]
  · cases mid with
    | nil =>
      intro t ht
      rw [List.append_nil] at hfirst
      simp [← hfirst, ht]
    | cons u mid =>
      obtain rfl : BuildStep.connect l k = u := (List.cons.inj hmid).1
      refine (hnodup.2.2 (.connect l k) ?_ (.connect l k) ?_ rfl).elim
      · simp [hfirst]
      · exact List.mem_append_left _ (List.mem_map_of_mem hk)

end Graph.Next

/-- What every step preserves holds after some of the steps of a graph, unless a step fails. -/
theorem Compiler.performAll_ends {σ : Type} {g : Graph} (engine : Engine σ)
    {P : List BuildStep → Session σ → Prop} {fail : CompileError → Session σ → Prop}
    (hstep : ∀ before t s, g.Next before t → P before s →
      Ends (perform engine t) s (fun _ s' => P (before ++ [t]) s') fail) :
    ∀ {ts before after : List BuildStep} {s : Session σ}, g.steps = before ++ ts ++ after →
      P before s → Ends (performAll engine ts) s (fun _ s' => P (before ++ ts) s') fail := by
  intro ts
  induction ts with
  | nil =>
    intro before after s _ hs
    rw [performAll, Ends.pure_iff, List.append_nil]
    exact hs
  | cons t ts ih =>
    intro before after s hsteps hs
    rw [performAll, Ends.bind_iff]
    refine (hstep before t s ⟨ts ++ after, by simp [hsteps]⟩ hs).imp (fun _ s' hs' => ?_)
      fun _ _ => id
    have hsteps' : g.steps = (before ++ [t]) ++ ts ++ after := by simp [hsteps]
    have hrest := ih hsteps' hs'
    rwa [List.append_assoc] at hrest

end Patchbay
