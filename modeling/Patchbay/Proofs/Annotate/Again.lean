import Patchbay.Proofs.Annotate.Nodes
import Patchbay.Proofs.Compile.Complete

/-!
# Annotated documents are built again

A document with the ids of a compilation is built to the same graph as before: nothing that was
written into it means anything to the graph. If it is compiled again then all ids of the first
compilation are replaced by those of the second one.
-/

namespace Patchbay

variable {g : Graph} {b b₁ b₂ : Bindings} {l : Level} {v : GraphNode} {n : Node}

/-! ### What a node means -/

/-- No parameter of a module has the name of a property that ids are written to. -/
lemma ModuleType.ne_id_of_mem_parameters {type : ModuleType} {p : String} (h : p ∈ type.parameters) :
    p ≠ "id" := by
  rintro rfl
  revert h
  cases type <;> decide

/-- A node means the same with the ids that it is bound to. -/
lemma Node.Means.annotate {level : Nat} (h : n.Means v.kind)
    (hb : v.BoundTo l (b.node? ⟨level, n.id⟩)) : (n.annotate g b level).Means v.kind := by
  rw [annotate_eq_with]
  unfold Bindings.properties
  unfold GraphNode.BoundTo at hb
  generalize v.kind = kind at h hb
  cases h with
  | mainInputs items tag ids =>
    obtain ⟨texts, hx, hlen⟩ := hb
    rw [hx, ← hlen, ← List.length_map Json.string]
    exact .mainInputs _ tag (Keyed.get?_insert_self _ _ _)
  | mainOutputs items tag ids =>
    obtain ⟨texts, hx, hlen⟩ := hb
    rw [hx, ← hlen, ← List.length_map Json.string]
    exact .mainOutputs _ tag (Keyed.get?_insert_self _ _ _)
  | busAdd title inside tag subgraph titled =>
    have hsome := Document.isSome_annotateChild g b (g.childLevel? ⟨level, n.id⟩) n.subgraph
    rw [subgraph, Option.isSome_some] at hsome
    obtain ⟨inside', hinside⟩ := Option.isSome_iff_exists.mp hsome
    exact .busAdd title inside' tag (subgraph ▸ hinside) titled
  | busInput name tag named =>
    refine .busInput name tag ?_
    cases hparent : l.parent <;> simp only [hparent] at hb
    · rwa [hb]
    · obtain ⟨bus, port, hx⟩ := hb
      rw [hx]
      exact (Keyed.get?_insert_of_ne _ _ _ (by decide)).trans named
  | busOutput name tag named =>
    refine .busOutput name tag ?_
    cases hparent : l.parent <;> simp only [hparent] at hb
    · rwa [hb]
    · obtain ⟨bus, port, hx⟩ := hb
      rw [hx]
      exact (Keyed.get?_insert_of_ne _ _ _ (by decide)).trans named
  | processing type values tag parameters =>
    obtain ⟨bus, ids, hx⟩ := hb
    rw [hx]
    refine .processing type values tag (List.forall₂_iff_zip.mpr ⟨parameters.length_eq, ?_⟩)
    intro p x hmem
    obtain ⟨w, hw, hnumber⟩ := List.forall₂_zip parameters hmem
    -- only the property `id` is written, and no parameter has this name
    have hne := ModuleType.ne_id_of_mem_parameters (List.of_mem_zip hmem).1
    exact ⟨w, (Keyed.get?_insert_of_ne _ _ _ hne).trans hw, hnumber⟩
  | unsupported main port bus module =>
    rw [hb]
    exact .unsupported main port bus module

/-- A node is built as before with the ids that it is bound to. -/
lemma GraphNode.BuiltFrom.annotate {bus : Option NodeKey} {level : Nat} {earlier : List GraphNode}
    (h : v.BuiltFrom n bus level earlier) (hb : v.BoundTo l (b.node? v.key)) :
    v.BuiltFrom (n.annotate g b level) bus level earlier := by
  rw [h.key] at hb
  have hmeans := (Node.classify_eq_ok_iff.mp h.kind).annotate (g := g) hb
  rw [Node.annotate_eq_with] at hmeans ⊢
  refine ⟨⟨h.key, hmeans.classify, ?_, ?_⟩, h.new, h.port⟩
  · exact h.inputNames.trans (slotNames_map_fillSlots _ _).symm
  · exact h.outputNames.trans (slotNames_map_fillSlots _ _).symm

/-! ### The same graph -/

/-- The id of a connection is not looked at when links are built. -/
lemma Level.buildLinks_annotate {level : Nat} {vs : List GraphNode} {ls : List Link} :
    ∀ index i, buildLinks level vs index (annotateLinks b level i ls)
      = buildLinks level vs index ls := by
  induction ls with
  | nil => intro index i; rfl
  | cons l ls ih =>
    intro index i
    rw [annotateLinks, buildLinks, buildLinks, ih]
    cases b.connection? level i <;> rfl

mutual

/-- A document with the ids of a compilation is built to the same level. -/
theorem Level.build_annotate (hg : g.WellFormed) (hb : b.Complete g) :
    ∀ {d : Document} {parent : Option NodeKey} {depth next after : Nat} {l : Level},
      build parent depth next d = .ok (l, after) → l ∈ g.levels →
      build parent depth next (d.annotateLevel g b next) = .ok (l, after)
  | ⟨nodes, links, busId, extra⟩, parent, depth, next, after, l, h, hl => by
    rw [build] at h
    obtain ⟨⟨vs, after'⟩, hvs, h⟩ := bind_eq_ok_iff.mp h
    obtain ⟨ks, hks, h⟩ := bind_eq_ok_iff.mp h
    cases h
    rw [Document.annotateLevel, build]
    refine bind_eq_ok_iff.mpr ⟨_, buildNodes_annotate hg hb hvs hl rfl fun v hv => hv, ?_⟩
    exact bind_eq_ok_iff.mpr ⟨ks, (buildLinks_annotate 0 0).trans hks, rfl⟩

/-- Nodes with ids are built to the same nodes. -/
theorem Level.buildNodes_annotate (hg : g.WellFormed) (hb : b.Complete g) :
    ∀ {ns : List Node} {parent : Option NodeKey} {depth id next after : Nat}
      {earlier vs : List GraphNode} {l : Level},
      buildNodes parent depth id earlier next ns = .ok (vs, after) → l ∈ g.levels → l.id = id →
      (∀ v ∈ vs, v ∈ l.nodes) →
      buildNodes parent depth id earlier next (Node.annotateList g b id ns) = .ok (vs, after)
  | [], _, _, _, _, _, _, _, _, h, _, _, _ => by
    rwa [Node.annotateList]
  | n :: ns, _, _, _, _, _, _, _, _, h, hl, hid, hmem => by
    rw [buildNodes] at h
    obtain ⟨⟨v, mid⟩, hv, h⟩ := bind_eq_ok_iff.mp h
    obtain ⟨⟨ws, after'⟩, hws, h⟩ := bind_eq_ok_iff.mp h
    cases h
    rw [Node.annotateList, buildNodes]
    refine bind_eq_ok_iff.mpr
      ⟨_, buildNode_annotate hg hb hv hl hid (hmem v List.mem_cons_self), ?_⟩
    refine bind_eq_ok_iff.mpr ⟨_, buildNodes_annotate hg hb hws hl hid ?_, rfl⟩
    exact fun w hw => hmem w (List.mem_cons_of_mem _ hw)

/-- A node with ids is built to the same node, since it means the same and its subgraph is built to
the same level. -/
theorem Level.buildNode_annotate (hg : g.WellFormed) (hb : b.Complete g) :
    ∀ {n : Node} {parent : Option NodeKey} {depth id next after : Nat}
      {earlier : List GraphNode} {v : GraphNode} {l : Level},
      buildNode parent depth id earlier next n = .ok (v, after) → l ∈ g.levels → l.id = id →
      v ∈ l.nodes → buildNode parent depth id earlier next (n.annotate g b id) = .ok (v, after)
  | ⟨nodeId, type, title, properties, subgraph, inputs, outputs, extra⟩, parent, depth, id, next,
      after, earlier, v, l, h, hl, hid, hmem => by
    obtain ⟨hv, hchild⟩ := buildNode_ok h
    refine buildNode_of_builtFrom (hv.annotate (hb.node l hl v hmem)) ?_
    rw [Node.annotate_eq_with]
    have hkey : (⟨id, nodeId⟩ : NodeKey) = v.key := hv.key.symm
    dsimp only
    rw [hkey, hg.childLevel?_of_mem hl hmem]
    exact buildChild_annotate hg hb hchild fun c hc => Graph.WellFormed.child_mem hl hmem hc

theorem Level.buildChild_annotate (hg : g.WellFormed) (hb : b.Complete g) :
    ∀ {sub : Option Document} {key : NodeKey} {depth next after : Nat} {kind : NodeKind}
      {child : Option Level}, buildChild key depth next kind sub = .ok (child, after) →
      (∀ c, child = some c → c ∈ g.levels) →
      buildChild key depth next kind (Document.annotateChild g b (child.map Level.id) sub)
        = .ok (child, after)
  | none, _, _, _, _, _, _, h, _ => by
    rwa [Document.annotateChild]
  | some d, key, depth, next, after, kind, child, h, hmem => by
    rcases buildChild_ok h with ⟨title, _, c, rfl, ⟨⟩, rfl, hc⟩ | ⟨rfl, rfl, hother⟩
    · obtain ⟨⟨rfl, -, -⟩, -⟩ := build_fits hc
      have hbuilt := build_annotate hg hb hc (hmem c rfl)
      simp only [Option.map_some, Document.annotateChild, buildChild]
      exact bind_eq_ok_iff.mpr ⟨_, hbuilt, rfl⟩
    · simpa [Document.annotateChild] using h

end

/-- A document with the ids of a compilation is built to the same graph. -/
lemma Graph.build_annotate {d : Document} (hd : Graph.build d = .ok g) (hb : b.Complete g) :
    Graph.build (d.annotate g b) = .ok g := by
  have hg := Graph.build_wellFormed hd
  obtain ⟨⟨l, after⟩, hl, hroot⟩ := bind_eq_ok_iff.mp hd
  cases hroot
  exact bind_eq_ok_iff.mpr
    ⟨_, Level.build_annotate hg hb hl (Graph.WellFormed.root_mem ⟨l⟩), rfl⟩

/-! ### Later ids -/

/-- A slot of a module is bound, but to no port. -/
def Bindings.Unmatched (b : Bindings) (key : NodeKey) (d : Direction) (slot : Nat) : Prop :=
  (b.slotIds key d)[slot]? = some none

/-- Where the second compilation has made no connection, the first one has made none either. -/
lemma annotateLinks_again {level : Nat} {ls : List Link} : ∀ {index : Nat},
    (∀ k ∈ linksFrom level index ls,
      b₂.connection? level k.index = none → b₁.connection? level k.index = none) →
    annotateLinks b₂ level index (annotateLinks b₁ level index ls)
      = annotateLinks b₂ level index ls := by
  induction ls with
  | nil => exact fun _ => rfl
  | cons l ls ih =>
    intro index h
    rw [annotateLinks, annotateLinks, annotateLinks,
      ih fun k hk => h k (List.mem_cons_of_mem _ hk)]
    refine congrArg (· :: _) ?_
    cases hc₂ : b₂.connection? level index with
    | some id => cases b₁.connection? level index <;> rfl
    | none =>
      have hc₁ : b₁.connection? level index = none := h _ List.mem_cons_self hc₂
      rw [hc₁]

namespace NodeBinding.Alike

variable {key : NodeKey}

/-- The second binding of a node has the same members, so it writes over all of the first one's. -/
lemma properties_again (h : Alike (b₁.node? key) (b₂.node? key)) (properties : Json.Members) :
    b₂.properties key (b₁.properties key properties) = b₂.properties key properties := by
  unfold Bindings.properties
  generalize b₁.node? key = x₁, b₂.node? key = x₂ at h
  cases h with
  | unbound => rfl
  | mains | busPort | processing => simp [overlayProperties, Keyed.insert_insert]
  | bus =>
    simp only [overlayProperties]
    -- each later value is moved in to the earlier one of its key
    rw [Keyed.insert_comm "id" _ _ (by decide), Keyed.insert_comm "id" _ _ (by decide),
      Keyed.insert_insert "id", Keyed.insert_comm "bus_input_ids" _ _ (by decide),
      Keyed.insert_insert "bus_input_ids", Keyed.insert_insert "bus_output_ids"]

lemma length_slotIds (h : Alike (b₁.node? key) (b₂.node? key)) (d : Direction) :
    (b₁.slotIds key d).length = (b₂.slotIds key d).length := by
  unfold Bindings.slotIds
  generalize b₁.node? key = x₁, b₂.node? key = x₂ at h
  cases h with
  | unbound => rfl
  | mains | bus | busPort => rfl
  | processing _ _ _ _ _ _ _ _ hi ho =>
    cases d
    · exact hi
    · exact ho

/-- Slots that have an id the second time lose that of the first time. -/
lemma fillSlots_again (h : Alike (b₁.node? key) (b₂.node? key)) {d : Direction}
    (hun : ∀ slot, b₂.Unmatched key d slot → b₁.Unmatched key d slot)
    (slots : Option (List PortSlot)) :
    (slots.map (fillSlots · (b₁.slotIds key d))).map (fillSlots · (b₂.slotIds key d))
      = slots.map (fillSlots · (b₂.slotIds key d)) := by
  cases slots with
  | none => rfl
  | some slots =>
    refine congrArg some (fillSlots_fillSlots ?_ slots)
    refine List.forall₂_iff_get.mpr ⟨h.length_slotIds d, fun i hi hi' hnone => ?_⟩
    have hi₂ : b₂.Unmatched key d i := by
      rw [Bindings.Unmatched, List.getElem?_eq_getElem hi']
      exact congrArg some hnone
    have hi₁ := hun i hi₂
    rw [Bindings.Unmatched, List.getElem?_eq_getElem hi] at hi₁
    exact Option.some.inj hi₁

end NodeBinding.Alike

/-- The second bindings are of the same places as the first, but for the slots that have no port. -/
structure Bindings.Replaces (g : Graph) (b₁ b₂ : Bindings) : Prop where
  first : b₁.Complete g
  second : b₂.Complete g
  unmatched : ∀ key d slot, b₂.Unmatched key d slot → b₁.Unmatched key d slot

namespace Bindings.Replaces

lemma connection (h : Replaces g b₁ b₂) (hl : l ∈ g.levels) {k : GraphLink} (hk : k ∈ l.links) :
    b₂.connection? l.id k.index = none → b₁.connection? l.id k.index = none := by
  have h₁ := h.first.connection l hl k hk
  have h₂ := h.second.connection l hl k hk
  simp only [← Option.not_isSome_iff_eq_none, h₁, h₂, imp_self]

lemma levelBus (h : Replaces g b₁ b₂) (hl : l ∈ g.levels) (busId : Option String) :
    (b₂.levelBus? l.id).or ((b₁.levelBus? l.id).or busId) = (b₂.levelBus? l.id).or busId := by
  have hsome := (h.second.levelBus l hl).trans (h.first.levelBus l hl).symm
  cases h₂ : b₂.levelBus? l.id with
  | some bus => rfl
  | none =>
    have h₁ : b₁.levelBus? l.id = none := by simpa [h₂] using hsome
    rw [h₁]
    rfl

end Bindings.Replaces

mutual

/-- Annotating a document again leaves no trace of the first time. -/
theorem Document.annotateLevel_again (hg : g.WellFormed) (h : Bindings.Replaces g b₁ b₂) :
    ∀ {d : Document} {parent : Option NodeKey} {depth next after : Nat} {l : Level},
      Level.build parent depth next d = .ok (l, after) → l ∈ g.levels →
      (d.annotateLevel g b₁ next).annotateLevel g b₂ next = d.annotateLevel g b₂ next
  | ⟨nodes, links, busId, extra⟩, parent, depth, next, after, l, hd, hl => by
    rw [Level.build] at hd
    obtain ⟨⟨vs, after'⟩, hvs, hd⟩ := bind_eq_ok_iff.mp hd
    obtain ⟨ks, hks, hd⟩ := bind_eq_ok_iff.mp hd
    cases hd
    have hlinks : annotateLinks b₂ next 0 (annotateLinks b₁ next 0 links)
        = annotateLinks b₂ next 0 links := by
      refine annotateLinks_again fun k hk => ?_
      rw [← (buildLinks_ok hks).1] at hk
      exact h.connection hl hk
    rw [Document.annotateLevel, Document.annotateLevel, Document.annotateLevel, hlinks,
      Node.annotateList_again hg h hvs hl rfl fun v hv => hv, h.levelBus hl]

/-- What was written into nodes before makes no difference, by recursion on the document. -/
theorem Node.annotateList_again (hg : g.WellFormed) (h : Bindings.Replaces g b₁ b₂) :
    ∀ {ns : List Node} {parent : Option NodeKey} {depth id next after : Nat}
      {earlier vs : List GraphNode} {l : Level},
      Level.buildNodes parent depth id earlier next ns = .ok (vs, after) → l ∈ g.levels →
      l.id = id → (∀ v ∈ vs, v ∈ l.nodes) →
      Node.annotateList g b₂ id (Node.annotateList g b₁ id ns) = Node.annotateList g b₂ id ns
  | [], _, _, _, _, _, _, _, _, _, _, _, _ => by
    rw [Node.annotateList, Node.annotateList]
  | n :: ns, _, _, _, _, _, _, _, _, hns, hl, hid, hmem => by
    rw [Level.buildNodes] at hns
    obtain ⟨⟨v, mid⟩, hv, hns⟩ := bind_eq_ok_iff.mp hns
    obtain ⟨⟨ws, after'⟩, hws, hns⟩ := bind_eq_ok_iff.mp hns
    cases hns
    rw [Node.annotateList, Node.annotateList, Node.annotateList,
      Node.annotateOne_again hg h hv hl hid (hmem v List.mem_cons_self),
      Node.annotateList_again hg h hws hl hid fun w hw => hmem w (List.mem_cons_of_mem _ hw)]

theorem Node.annotateOne_again (hg : g.WellFormed) (h : Bindings.Replaces g b₁ b₂) :
    ∀ {n : Node} {parent : Option NodeKey} {depth id next after : Nat}
      {earlier : List GraphNode} {v : GraphNode} {l : Level},
      Level.buildNode parent depth id earlier next n = .ok (v, after) → l ∈ g.levels →
      l.id = id → v ∈ l.nodes → (n.annotate g b₁ id).annotate g b₂ id = n.annotate g b₂ id
  | ⟨nodeId, type, title, properties, subgraph, inputs, outputs, extra⟩, parent, depth, id, next,
      after, earlier, v, l, hn, hl, hid, hmem => by
    obtain ⟨hv, hchild⟩ := Level.buildNode_ok hn
    have hkey : (⟨id, nodeId⟩ : NodeKey) = v.key := hv.key.symm
    have halike := (h.first.node l hl v hmem).alike (h.second.node l hl v hmem)
    have hsub := Document.annotateChild_again hg h hchild
      fun c hc => Graph.WellFormed.child_mem hl hmem hc
    rw [Node.annotate_eq_with, Node.annotate_eq_with, Node.annotate_eq_with]
    dsimp only
    rw [hkey, hg.childLevel?_of_mem hl hmem, hsub, halike.properties_again,
      halike.fillSlots_again (h.unmatched v.key .input),
      halike.fillSlots_again (h.unmatched v.key .output)]

theorem Document.annotateChild_again (hg : g.WellFormed) (h : Bindings.Replaces g b₁ b₂) :
    ∀ {sub : Option Document} {key : NodeKey} {depth next after : Nat} {kind : NodeKind}
      {child : Option Level}, Level.buildChild key depth next kind sub = .ok (child, after) →
      (∀ c, child = some c → c ∈ g.levels) →
      Document.annotateChild g b₂ (child.map Level.id)
          (Document.annotateChild g b₁ (child.map Level.id) sub)
        = Document.annotateChild g b₂ (child.map Level.id) sub
  | none, _, _, _, _, _, _, _, _ => by
    rw [Document.annotateChild]
  | some d, key, depth, next, after, kind, child, hchild, hmem => by
    rcases Level.buildChild_ok hchild with ⟨title, _, c, rfl, ⟨⟩, rfl, hc⟩ | ⟨rfl, rfl, -⟩
    · obtain ⟨⟨rfl, -, -⟩, -⟩ := Level.build_fits hc
      have hagain := Document.annotateLevel_again hg h hc (hmem c rfl)
      simp only [Option.map_some, Document.annotateChild, hagain]
    · simp [Document.annotateChild]

end

/-- A document with the ids of a compilation is built to the same graph, and these ids are gone when
those of another compilation are written into it, unless this one finds no port where the first one
found one. -/
theorem annotate_again {d : Document} {g : Graph} (hd : Graph.build d = .ok g) {σ₁ σ₂ : Type}
    (engine₁ : Engine σ₁) (state₁ : σ₁) (engine₂ : Engine σ₂) (state₂ : σ₂) {c₁ c₂ : Compilation}
    (h₁ : (compile engine₁ g state₁).1 = .ok c₁) (h₂ : (compile engine₂ g state₂).1 = .ok c₂) :
    Graph.build (d.annotate g c₁.bindings) = .ok g ∧
      ((∀ key dir slot, c₂.bindings.Unmatched key dir slot → c₁.bindings.Unmatched key dir slot) →
        (d.annotate g c₁.bindings).annotate g c₂.bindings = d.annotate g c₂.bindings) ∧
      (d.annotate g c₁.bindings).annotate g c₁.bindings = d.annotate g c₁.bindings := by
  have hg := Graph.build_wellFormed hd
  have hb₁ := compile_complete hg h₁
  have hb₂ := compile_complete hg h₂
  refine ⟨Graph.build_annotate hd hb₁, ?_⟩
  obtain ⟨⟨l, after⟩, hl, hroot⟩ := bind_eq_ok_iff.mp hd
  cases hroot
  have hmem := Graph.WellFormed.root_mem ⟨l⟩
  refine ⟨fun hun => ?_, ?_⟩
  · exact Document.annotateLevel_again hg ⟨hb₁, hb₂, hun⟩ hl hmem
  · exact Document.annotateLevel_again hg ⟨hb₁, hb₁, fun _ _ _ => id⟩ hl hmem

/-- A constant with a slot that no port belongs to. -/
def spareSlot : Document where
  nodes :=
    [⟨1, "utils/float", none, [("value", .string "1")], none, none,
        some [⟨"out", none, []⟩, ⟨"spare", none, []⟩], []⟩,
      ⟨2, "main/outputs", none, [("ids", .array [.null])], none, none, none, []⟩]
  links := [⟨5, 1, 0, 2, 0, .null, .null, []⟩]
  busId := none
  extra := []

def uniformEngine (id : String) : Engine Unit
  | .listMain, s => (.ok ⟨[id], [id]⟩, s)
  | .addBus .., s => (.ok id, s)
  | .listBusPorts _, s => (.ok ⟨[], []⟩, s)
  | .addModule .., s => (.ok id, s)
  | .listModulePorts _, s => (.ok ⟨[], [⟨id, "out"⟩]⟩, s)
  | .addConnection .., s => (.ok id, s)

/-- What this engine makes the nodes and the link to. -/
def spareSlotBindings (id : String) : Bindings where
  nodes := [(⟨0, 1⟩, .processing "" id [] [some id, none]), (⟨0, 2⟩, .mains [id])]
  connections := [((0, 0), id)]

/-- Only the spare slot has no port. -/
lemma spareSlot_unmatched_iff {id : String} {key : NodeKey} {d : Direction} {slot : Nat} :
    (spareSlotBindings id).Unmatched key d slot ↔ key = ⟨0, 1⟩ ∧ d = .output ∧ slot = 1 := by
  unfold Bindings.Unmatched Bindings.slotIds Bindings.node? spareSlotBindings
  dsimp only
  rw [List.lookup_cons, List.lookup_cons]
  by_cases hkey : key = ⟨0, 1⟩
  · rcases d with _ | _ <;> rcases slot with _ | _ | slot <;> simp [hkey, NodeBinding.slotIds]
  · rw [beq_eq_false_iff_ne.mpr hkey]
    by_cases hkey' : key = ⟨0, 2⟩
    · simp [hkey', NodeBinding.slotIds]
    · simp [hkey, beq_eq_false_iff_ne.mpr hkey']

theorem spareSlot_annotate_again : ∃ g r r', Graph.build spareSlot = .ok g ∧
    (compile (uniformEngine "a") g ()).1 = .ok ⟨spareSlotBindings "a", r⟩ ∧
    (compile (uniformEngine "b") g ()).1 = .ok ⟨spareSlotBindings "b", r'⟩ ∧
    Graph.build (spareSlot.annotate g (spareSlotBindings "a")) = .ok g ∧
    (spareSlot.annotate g (spareSlotBindings "a")).annotate g (spareSlotBindings "b")
      = spareSlot.annotate g (spareSlotBindings "b") := by
  obtain ⟨g, hdoc, r, hr, r', hr'⟩ : ∃ g, Graph.build spareSlot = .ok g ∧
      ∃ r, (compile (uniformEngine "a") g ()).1 = .ok ⟨spareSlotBindings "a", r⟩ ∧
      ∃ r', (compile (uniformEngine "b") g ()).1 = .ok ⟨spareSlotBindings "b", r'⟩ :=
    ⟨_, rfl, _, rfl, _, rfl⟩
  have hagain := annotate_again hdoc (uniformEngine "a") () (uniformEngine "b") () hr hr'
  refine ⟨g, r, r', hdoc, hr, hr', hagain.1, hagain.2.1 fun key d slot h => ?_⟩
  exact spareSlot_unmatched_iff.mpr (spareSlot_unmatched_iff.mp h)

end Patchbay
