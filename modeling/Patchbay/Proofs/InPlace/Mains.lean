import Patchbay.Proofs.Compile.Mains
import Patchbay.Proofs.InPlace.Places
import Patchbay.Proofs.Text.Keyed

/-!
# Physical ports in a document

Whether there are enough physical ports is found out from a document as it is from its graph, and
the first node that asks for too many is the same. Writing the ports into a document does not change
what its nodes mean.
-/

namespace Patchbay

/-! ### Enough ports -/

/-- Refuses a node that stands for more physical ports than there are. -/
def GraphNode.checkMain (mains : MainPorts) (v : GraphNode) : Except CompileError Unit :=
  match v.kind.mainSlots? with
  | none => .ok ()
  | some (d, slots) =>
    let available := (mains.ports d).length
    if slots ≤ available then .ok ()
    else .error (.mainOutOfRange v.key d (slots - 1) available)

/-- Binding nodes under free keys fails only for a lack of ports. -/
lemma bindMains_check (mains : MainPorts) {vs : List GraphNode} : ∀ {b : Bindings},
    (vs.map GraphNode.key).Nodup → (∀ v ∈ vs, b.node? v.key = none) →
      (bindMains mains b vs).map (fun _ => ()) = vs.forM (GraphNode.checkMain mains) := by
  induction vs with
  | nil => exact fun _ _ => rfl
  | cons v vs ih =>
    intro b hnodup hfree
    rw [List.map_cons, List.nodup_cons] at hnodup
    have hrest : ∀ w ∈ vs, b.node? w.key = none := fun w hw => hfree w (List.mem_cons_of_mem _ hw)
    rw [bindMains, List.foldlM_cons, List.forM]
    cases hv : v.kind.mainSlots? with
    | none =>
      simp only [bindMain, GraphNode.checkMain, hv]
      exact ih hnodup.2 hrest
    | some slots =>
      obtain ⟨d, n⟩ := slots
      simp only [bindMain, GraphNode.checkMain, hv]
      split_ifs with hn
      · rw [Bindings.bindNode_of_none (hfree v List.mem_cons_self)]
        refine ih hnodup.2 fun w hw => ?_
        rw [Bindings.node?_cons, if_neg]
        · exact hrest w hw
        · -- the key that was just bound is none of the later ones
          intro hkey
          exact hnodup.1 (hkey ▸ List.mem_map_of_mem hw)
      · rfl

/-- A node is checked alike in the document and in the graph. -/
lemma checkMain_of_sited {g : Graph} {site : BusPath × Node} {v : GraphNode} (h : g.Sited site v)
    (mains : MainPorts) :
    (site.2.checkMain mains site.1).mapError (BuildFailure.numbered g.number)
      = v.checkMain mains := by
  rw [Node.checkMain, GraphNode.checkMain, h.meaning]
  cases v.kind.mainSlots? with
  | none => rfl
  | some slots =>
    obtain ⟨d, n⟩ := slots
    dsimp only
    split_ifs
    · rfl
    · rw [Except.mapError, BuildFailure.numbered, h.key]

lemma forM_of_forall₂ {ε δ α β : Type} {R : α → β → Prop} {xs : List α} {ys : List β}
    (h : List.Forall₂ R xs ys) {f : α → Except ε Unit} {k : β → Except δ Unit} {e : ε → δ}
    (hf : ∀ x y, R x y → (f x).mapError e = k y) : (xs.forM f).mapError e = ys.forM k := by
  induction h with
  | nil => rfl
  | @cons x y xs ys hr _ ih =>
    rw [List.forM, List.forM, ← hf x y hr, ← ih]
    cases f x <;> rfl

/-- A document asks for too many physical ports just as its graph does. -/
theorem checkMains_built {d : Document} {g : Graph} (hd : Graph.build d = .ok g)
    (mains : MainPorts) :
    (d.checkMains mains).mapError (BuildFailure.numbered g.number)
      = (bindMains mains {} (g.levels.flatMap Level.nodes)).map fun _ => () := by
  have hg := Graph.build_wellFormed hd
  obtain ⟨⟨l, after⟩, hl, hroot⟩ := bind_eq_ok_iff.mp hd
  cases hroot
  rw [bindMains_check mains hg.keys_nodup fun v _ => rfl, Document.checkMains]
  exact forM_of_forall₂ (Document.sites_built hg hl (.root hg))
    fun site v hv => checkMain_of_sited hv mains

/-! ### Ports written into nodes -/

namespace Node

variable {mains : MainPorts} {n : Node}

/-- A node means something to the engine only if it has what this asks for. -/
lemma means_meaning (h : ∀ tag, n.meaning ≠ .unsupported tag) : n.Means n.meaning := by
  unfold meaning at h ⊢
  cases hc : n.classify with
  | ok kind => exact classify_eq_ok_iff.mp hc
  | error err =>
    simp only [hc] at h
    exact (h n.type rfl).elim

lemma Means.meaning {kind : NodeKind} (h : n.Means kind) : n.meaning = kind := by
  rw [Node.meaning, h.classify]

lemma withMains_eq (mains : MainPorts) (n : Node) : n.withMains mains = match n.meaning with
    | .mainInputs slots => n.withProperty "ids" (Json.ofStrings (mains.inputs.take slots))
    | .mainOutputs slots => n.withProperty "ids" (Json.ofStrings (mains.outputs.take slots))
    | .busAdd _ => { n with subgraph := Document.withMainsChild mains n.subgraph }
    | _ => n := by
  cases n
  exact (withMains.eq_def mains _).trans rfl

lemma withMains_of_main {d : Direction} {k : Nat} (h : n.meaning.mainSlots? = some (d, k)) :
    n.withMains mains = n.withProperty "ids" (Json.ofStrings ((mains.ports d).take k)) := by
  rw [withMains_eq]
  cases hn : n.meaning <;> simp only [hn, NodeKind.mainSlots?, reduceCtorEq] at h
  all_goals
    cases h
    rfl

lemma withMains_of_bus {title : String} (h : n.meaning = .busAdd title) :
    n.withMains mains = { n with subgraph := Document.withMainsChild mains n.subgraph } := by
  rw [withMains_eq, h]

lemma withMains_of_other (hmain : n.meaning.mainSlots? = none)
    (hbus : ∀ title, n.meaning ≠ .busAdd title) : n.withMains mains = n := by
  rw [withMains_eq]
  cases hn : n.meaning <;> simp_all [NodeKind.mainSlots?]

/-- The ids that were written into a node are read from it again. -/
lemma mainIds_withMains {d : Direction} {k : Nat} (h : n.meaning.mainSlots? = some (d, k)) :
    (n.withMains mains).mainIds = (mains.ports d).take k := by
  rw [withMains_of_main h, mainIds, withProperty]
  simp only [Keyed.get?_insert_self, Json.ofStrings]
  induction (mains.ports d).take k with
  | nil => rfl
  | cons id ids ih => simp

/-- A node with as many physical ports written into it as it stands for means the same. -/
lemma meaning_withIds {d : Direction} {ids : List String}
    (h : n.meaning.mainSlots? = some (d, ids.length)) :
    (n.withProperty "ids" (Json.ofStrings ids)).meaning = n.meaning := by
  have hmeans : n.Means n.meaning := means_meaning (by
    rintro tag ht
    rw [ht] at h
    cases h)
  have hids : Keyed.get? "ids" (n.withProperty "ids" (Json.ofStrings ids)).properties
      = some (.array (ids.map .string)) := Keyed.get?_insert_self ..
  have hlength : ∀ {d' : Direction} {count : Nat}, some (d', count) = some (d, ids.length) →
      count = (ids.map Json.string).length := by simp
  generalize n.meaning = kind at h hmeans
  cases hmeans with
  | mainInputs items tag =>
    rw [hlength h]
    exact Means.meaning (.mainInputs _ tag hids)
  | mainOutputs items tag =>
    rw [hlength h]
    exact Means.meaning (.mainOutputs _ tag hids)
  | busAdd | busInput | busOutput | processing | unsupported => cases h

/-- A bus with physical ports written into its subgraph means the same. -/
lemma meaning_withSubgraph {title : String} (h : n.meaning = .busAdd title)
    {sub : Option Document} (hsub : sub.isSome = n.subgraph.isSome) :
    ({ n with subgraph := sub } : Node).meaning = .busAdd title := by
  have hmeans : n.Means (.busAdd title) := h ▸ means_meaning (by simp [h])
  cases hmeans with
  | busAdd _ inside tag subgraph titled =>
    rw [subgraph] at hsub
    obtain ⟨inside', hinside'⟩ := Option.isSome_iff_exists.mp hsub
    exact Means.meaning (.busAdd title inside' tag hinside' titled)

/-- Physical ports written into a node do not change what it means. -/
lemma meaning_withMains
    (h : ∀ d k, n.meaning.mainSlots? = some (d, k) → k ≤ (mains.ports d).length) :
    (n.withMains mains).meaning = n.meaning := by
  cases hmain : n.meaning.mainSlots? with
  | some slots =>
    obtain ⟨d, k⟩ := slots
    rw [withMains_of_main hmain]
    apply meaning_withIds (d := d)
    rw [hmain, List.length_take_of_le (h d k hmain)]
  | none =>
    by_cases hbus : ∃ title, n.meaning = .busAdd title
    · obtain ⟨title, hbus⟩ := hbus
      rw [withMains_of_bus hbus, hbus]
      apply meaning_withSubgraph hbus
      cases n.subgraph <;> rfl
    · rw [withMains_of_other hmain fun title ht => hbus ⟨title, ht⟩]

end Node

end Patchbay
