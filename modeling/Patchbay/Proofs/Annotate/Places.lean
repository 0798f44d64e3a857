import Patchbay.Proofs.Annotate.Nodes
import Patchbay.Proofs.Graph.Validity

/-!
# Where ids are written to

Whatever is bound, each id is written at the place that it is bound to, and nothing else of the
document changes. The numbers of levels, which the bindings are about, are the positions of the
levels in the document, and they are so still when the ids have been written.
-/

namespace Patchbay

/-- The members that a binding puts among the properties of its node. -/
def NodeBinding.members : NodeBinding → Json.Members
  | mains ids => [("ids", Json.ofStrings ids)]
  | bus id inputs outputs =>
    [("bus_output_ids", Json.ofStrings outputs), ("bus_input_ids", Json.ofStrings inputs),
      ("id", .string id)]
  | busPort _ port => [("id", .string port)]
  | processing _ id _ _ => [("id", .string id)]

def Bindings.members (b : Bindings) (key : NodeKey) : Json.Members :=
  ((b.node? key).map NodeBinding.members).getD []

def PortSlot.withPort (slot : PortSlot) (port : Option String) : PortSlot :=
  { slot with id := (port.map Json.string).or slot.id }

def Link.withConnection (link : Link) (id : Option String) : Link :=
  { link with connectionId := (id.map Json.string).getD link.connectionId }

/-- A node of level `k` before and after ids are written, where the levels of the document are
given for both times. -/
structure Node.Overlaid (g : Graph) (b : Bindings) (levels levels' : List Document) (k : Nat)
    (n n' : Node) : Prop where
  id : n'.id = n.id
  type : n'.type = n.type
  title : n'.title = n.title
  extra : n'.extra = n.extra
  property : ∀ name, Keyed.get? name n'.properties =
    (Keyed.get? name (b.members ⟨k, n.id⟩)).or (Keyed.get? name n.properties)
  ascending : Keyed.Ascending n.properties → Keyed.Ascending n'.properties
  inputs : n'.inputs = n.inputs.map fun slots =>
    slots.mapIdx fun i slot => slot.withPort (b.slotIds ⟨k, n.id⟩ .input)[i]?.join
  outputs : n'.outputs = n.outputs.map fun slots =>
    slots.mapIdx fun i slot => slot.withPort (b.slotIds ⟨k, n.id⟩ .output)[i]?.join
  /-- The subgraph of a bus is a level at both times, and it has one number. -/
  bus : n.bareTag = "bus/add" → ∃ c, g.childLevel? ⟨k, n.id⟩ = some c ∧
    levels[c]? = n.subgraph ∧ levels'[c]? = n'.subgraph
  other : n.bareTag ≠ "bus/add" → n'.subgraph = n.subgraph

/-- Level `k` before and after ids are written. -/
structure Document.Overlaid (g : Graph) (b : Bindings) (levels levels' : List Document) (k : Nat)
    (m m' : Document) : Prop where
  nodes : List.Forall₂ (Node.Overlaid g b levels levels' k) m.nodes m'.nodes
  links : m'.links = m.links.mapIdx fun i link => link.withConnection (b.connection? k i)
  busId : m'.busId = (b.levelBus? k).or m.busId
  extra : m'.extra = m.extra

/-! ### Fields -/

lemma Bindings.properties_eq_foldr (b : Bindings) (key : NodeKey) (properties : Json.Members) :
    b.properties key properties =
      (b.members key).foldr (fun p m => Keyed.insert p.1 p.2 m) properties := by
  unfold Bindings.properties members
  rcases b.node? key with _ | _ | _ | _ | _ <;> rfl

/-- A property is that of the binding if it has one of this name, and else what it was. -/
lemma Bindings.get?_properties (b : Bindings) (key : NodeKey) (name : String)
    (properties : Json.Members) : Keyed.get? name (b.properties key properties) =
      (Keyed.get? name (b.members key)).or (Keyed.get? name properties) := by
  rw [properties_eq_foldr]
  induction b.members key with
  | nil => rfl
  | cons p m ih =>
    rw [List.foldr_cons, Keyed.get?]
    split_ifs with h
    · rw [← h, Keyed.get?_insert_self, Option.some_or]
    · rw [Keyed.get?_insert_of_ne _ _ _ (Ne.symm h), ih]

/-- Properties stay in the order of their names. -/
lemma Bindings.ascending_properties (b : Bindings) (key : NodeKey) {properties : Json.Members}
    (h : Keyed.Ascending properties) : Keyed.Ascending (b.properties key properties) := by
  rw [properties_eq_foldr]
  induction b.members key with
  | nil => exact h
  | cons p m ih => exact ih.insert

/-- A slot depends on the id at its position only. -/
lemma fillSlots_eq_mapIdx (slots : List PortSlot) (ids : List (Option String)) :
    fillSlots slots ids = slots.mapIdx fun i slot => slot.withPort ids[i]?.join := by
  induction slots generalizing ids with
  | nil => cases ids with
    | nil => rfl
    | cons id ids => cases id <;> rfl
  | cons slot slots ih =>
    rw [List.mapIdx_cons]
    rcases ids with _ | ⟨_ | id, ids⟩
    · have hrest := ih []
      rw [fillSlots_nil] at hrest ⊢
      simpa [PortSlot.withPort] using hrest
    · simp [fillSlots, ih, PortSlot.withPort]
    · simp [fillSlots, ih, PortSlot.withPort]

/-- A link depends on the connection at its position only. -/
lemma annotateLinks_eq_mapIdx (b : Bindings) (level : Nat) (links : List Link) :
    ∀ index, annotateLinks b level index links =
      links.mapIdx fun i link => link.withConnection (b.connection? level (index + i)) := by
  induction links with
  | nil => exact fun _ => rfl
  | cons l ls ih =>
    intro index
    rw [annotateLinks, ih, List.mapIdx_cons]
    refine congrArg₂ _ ?_ ?_
    · cases b.connection? level index <;> simp [Link.withConnection]
    · simp [Nat.add_assoc, Nat.add_comm 1]

/-! ### Numbers of levels -/

variable {g : Graph} {b : Bindings}

lemma Node.bareTag_annotate (n : Node) (level : Nat) :
    (n.annotate g b level).bareTag = n.bareTag := by
  rw [annotate_eq_with]
  rfl

lemma Node.subgraph_annotate (n : Node) (level : Nat) : (n.annotate g b level).subgraph =
    Document.annotateChild g b (g.childLevel? ⟨level, n.id⟩) n.subgraph := by
  rw [annotate_eq_with]

mutual

/-- The levels in a level are annotated each by its own number. -/
theorem Document.levels_annotateLevel (hg : g.WellFormed) :
    ∀ {d : Document} {parent : Option NodeKey} {depth next after : Nat} {l : Level},
      Level.build parent depth next d = .ok (l, after) → l ∈ g.levels →
      (d.annotateLevel g b next).levels = d.levels.mapIdx fun i m => m.annotateLevel g b (next + i)
  | ⟨nodes, links, busId, extra⟩, parent, depth, next, after, l, h, hl => by
    rw [Level.build] at h
    obtain ⟨⟨vs, after'⟩, hvs, h⟩ := bind_eq_ok_iff.mp h
    obtain ⟨ks, hks, h⟩ := bind_eq_ok_iff.mp h
    cases h
    have hinside := Node.levelsList_annotateList hg hvs (NodesFit.nil next depth) hl rfl
      fun v hv => hv
    rw [Document.levels_eq, Document.levels_eq ⟨nodes, links, busId, extra⟩, List.mapIdx_cons,
      Document.annotateLevel, hinside]
    simp [Nat.add_assoc, Nat.add_comm 1, Document.annotateLevel]

/-- The levels in nodes are annotated each by its own number, which go on where those of the nodes
before end. -/
theorem Node.levelsList_annotateList (hg : g.WellFormed) :
    ∀ {ns : List Node} {parent : Option NodeKey} {depth id next after : Nat}
      {earlier vs : List GraphNode} {l : Level},
      Level.buildNodes parent depth id earlier next ns = .ok (vs, after) →
      NodesFit id depth earlier → l ∈ g.levels → l.id = id → (∀ v ∈ vs, v ∈ l.nodes) →
      Node.levelsList (Node.annotateList g b id ns) =
        (Node.levelsList ns).mapIdx fun i m => m.annotateLevel g b (next + i)
  | [], _, _, _, _, _, _, _, _, _, _, _, _, _ => by
    rw [Node.annotateList, Node.levelsList_nil, List.mapIdx_nil]
  | n :: ns, _, _, _, next, _, _, _, _, h, hearlier, hl, hid, hmem => by
    rw [Level.buildNodes] at h
    obtain ⟨⟨v, mid⟩, hv, h⟩ := bind_eq_ok_iff.mp h
    obtain ⟨⟨ws, after'⟩, hws, h⟩ := bind_eq_ok_iff.mp h
    cases h
    have hnode := Node.levels_annotate hg hv hl hid (hmem v List.mem_cons_self)
    have hnodes := Node.levelsList_annotateList hg hws (Level.buildNode_fits hv hearlier).1 hl hid
      fun w hw => hmem w (List.mem_cons_of_mem _ hw)
    rw [Node.annotateList, Node.levelsList_cons, Node.levelsList_cons, List.mapIdx_append, hnode,
      hnodes, Level.after_eq_of_buildNode hv hearlier]
    simp [Nat.add_assoc, Nat.add_comm n.levels.length]

/-- The levels in a bus are those of its subgraph, and they are annotated by the numbers from that
of its level on. -/
theorem Node.levels_annotate (hg : g.WellFormed) :
    ∀ {n : Node} {parent : Option NodeKey} {depth id next after : Nat}
      {earlier : List GraphNode} {v : GraphNode} {l : Level},
      Level.buildNode parent depth id earlier next n = .ok (v, after) → l ∈ g.levels →
      l.id = id → v ∈ l.nodes →
      (n.annotate g b id).levels = n.levels.mapIdx fun i m => m.annotateLevel g b (next + i)
  | ⟨nodeId, type, title, properties, subgraph, inputs, outputs, extra⟩, parent, depth, id, next,
      after, earlier, v, l, h, hl, hid, hmem => by
    obtain ⟨hv, hchild⟩ := Level.buildNode_ok h
    generalize hn : (⟨nodeId, type, title, properties, subgraph, inputs, outputs, extra⟩ : Node) = n
      at hv ⊢
    -- only a bus has levels in it, and its tag is kept
    by_cases htag : n.bareTag = "bus/add"
    · have hbus := (Node.classify_eq_ok_iff.mp hv.kind).exists_busAdd_iff.mpr htag
      have hinside := Document.levelsChild_annotateChild hg hchild
        (fun c hc => Graph.WellFormed.child_mem hl hmem hc) hbus
      rw [← hg.childLevel?_of_mem hl hmem, hv.key] at hinside
      rw [Node.levels_of_bus (n.bareTag_annotate id ▸ htag), Node.levels_of_bus htag,
        Node.subgraph_annotate]
      subst hn
      exact hinside
    · rw [Node.levels_of_other (n.bareTag_annotate id ▸ htag), Node.levels_of_other htag]
      rfl

theorem Document.levelsChild_annotateChild (hg : g.WellFormed) :
    ∀ {sub : Option Document} {key : NodeKey} {depth next after : Nat} {kind : NodeKind}
      {child : Option Level}, Level.buildChild key depth next kind sub = .ok (child, after) →
      (∀ c, child = some c → c ∈ g.levels) → (∃ title, kind = .busAdd title) →
      ((Document.annotateChild g b (child.map Level.id) sub).map Document.levels).getD [] =
        ((sub.map Document.levels).getD []).mapIdx fun i m => m.annotateLevel g b (next + i)
  | none, _, _, _, _, _, _, _, _, _ => by
    rw [Document.annotateChild]
    rfl
  | some d, key, depth, next, after, kind, child, h, hmem, hbus => by
    rcases Level.buildChild_ok h with ⟨title, _, c, rfl, ⟨⟩, rfl, hc⟩ | ⟨rfl, rfl, hother⟩
    · obtain ⟨⟨rfl, -, -⟩, -⟩ := Level.build_fits hc
      have hbuilt := Document.levels_annotateLevel hg hc (hmem c rfl)
      simpa only [Option.map_some, Document.annotateChild, Option.getD_some] using hbuilt
    · obtain ⟨title, rfl⟩ := hbus
      cases hother title rfl

end

/-- The levels of an annotated document are those of the document, annotated each by its number. -/
lemma Document.levels_annotate {d : Document} (hd : Graph.build d = .ok g) (b : Bindings) :
    (d.annotate g b).levels = d.levels.mapIdx fun i m => m.annotateLevel g b i := by
  have hg := Graph.build_wellFormed hd
  obtain ⟨⟨root, after⟩, hroot, hd⟩ := bind_eq_ok_iff.mp hd
  cases hd
  have hlevels := levels_annotateLevel (b := b) hg hroot (Graph.WellFormed.root_mem ⟨root⟩)
  simpa only [annotate, Nat.zero_add] using hlevels

/-! ### Nodes and levels -/

lemma Document.annotateChild_some (c : Nat) (sub : Option Document) :
    annotateChild g b (some c) sub = sub.map fun s => s.annotateLevel g b c := by
  cases sub <;> simp [annotateChild]

lemma Document.annotateChild_none (sub : Option Document) :
    annotateChild g b none sub = sub := by
  cases sub <;> simp [annotateChild]

section Overlaid

variable {d m : Document} {l : Level} {v : GraphNode} {n : Node} {levels' : List Document}

/-- A node of a graph says which level stands for the subgraph of its node. -/
lemma GraphNode.Depicts.overlaid (h : v.Depicts d g l n)
    (hlevels : levels' = d.levels.mapIdx fun i m => m.annotateLevel g b i) :
    n.Overlaid g b d.levels levels' l.id (n.annotate g b l.id) := by
  have hsub := n.subgraph_annotate (g := g) (b := b) l.id
  have hbus := h.child_iff
  rw [← h.key, h.child_level] at hsub
  refine ⟨?_, ?_, ?_, ?_, fun name => ?_, fun hasc => ?_, ?_, ?_, fun htag => ?_, fun htag => ?_⟩
  · rw [Node.annotate_eq_with]
  · rw [Node.annotate_eq_with]
  · rw [Node.annotate_eq_with]
  · rw [Node.annotate_eq_with]
  · rw [Node.annotate_eq_with]
    exact b.get?_properties _ name _
  · rw [Node.annotate_eq_with]
    exact b.ascending_properties _ hasc
  · rw [Node.annotate_eq_with]
    exact congrArg (n.inputs.map ·) (funext fun slots => fillSlots_eq_mapIdx slots _)
  · rw [Node.annotate_eq_with]
    exact congrArg (n.outputs.map ·) (funext fun slots => fillSlots_eq_mapIdx slots _)
  · -- the subgraph of a bus is found at one position before and after
    obtain ⟨c, hc⟩ := Option.isSome_iff_exists.mp (hbus.mpr htag)
    obtain ⟨-, -, hlevel, -⟩ := h.child c hc
    refine ⟨c.id, ?_, hlevel, ?_⟩
    · rw [← h.key, h.child_level, hc, Option.map_some]
    · rw [hsub, hc, hlevels, List.getElem?_mapIdx, hlevel, Option.map_some,
        Document.annotateChild_some]
  · have hnone : v.child = none := by
      rw [← Option.not_isSome_iff_eq_none, hbus]
      exact htag
    rw [hsub, hnone, Option.map_none, Document.annotateChild_none]

lemma Document.overlaid_annotateLevel {levels levels' : List Document} {m : Document} {k : Nat}
    (h : ∀ n ∈ m.nodes, n.Overlaid g b levels levels' k (n.annotate g b k)) :
    m.Overlaid g b levels levels' k (m.annotateLevel g b k) := by
  obtain ⟨nodes, links, busId, extra⟩ := m
  rw [annotateLevel, Node.annotateList_eq_map]
  refine ⟨?_, ?_, rfl, rfl⟩
  · rwa [List.forall₂_map_right_iff, List.forall₂_same]
  · simpa using annotateLinks_eq_mapIdx b k links 0

/-- Whatever is bound, an annotated document has the levels, nodes and links of the document, and
each id stands where it is bound to; all else is as it was. -/
theorem annotate_overlays (hd : Graph.build d = .ok g) (b : Bindings) (k : Nat) :
    Option.Rel (Document.Overlaid g b d.levels (d.annotate g b).levels k) d.levels[k]?
      (d.annotate g b).levels[k]? := by
  have hg := Graph.build_wellFormed hd
  have hunfolds := Graph.levels_unfold hd
  have hlevels := Document.levels_annotate hd b
  rw [hlevels, List.getElem?_mapIdx, ← hlevels]
  cases hm : d.levels[k]? with
  | none => exact .none
  | some m =>
    obtain ⟨l, hl, hml⟩ := forall₂_getElem? hunfolds hm
    have hid : l.id = k := hg.id_of_getElem? hl
    have hnodes := hg.nodes_depicted (List.mem_of_getElem? hl) hml
    subst hid
    refine .some (Document.overlaid_annotateLevel fun n hn => ?_)
    obtain ⟨v, -, hv⟩ := forall₂_exists_right hnodes hn
    exact hv.overlaid hlevels

end Overlaid

/-- Bindings of a node, the link and the bus of level 1, and of a node of a level that is not
there. Level 0 has a node and a link like these. -/
def innerBindings : Bindings where
  nodes := [(⟨1, 1⟩, .busPort "b" "p"), (⟨7, 1⟩, .mains ["q"])]
  connections := [((1, 0), "c")]
  levelBuses := [(1, "b")]

/-- A module in a bus. The two have one local id, and each direction of the module has a slot with
an id of its own. -/
def tone : Document where
  nodes :=
    [⟨1, "bus/add", some "tone", [("color", .null)],
      some ⟨[⟨1, "utils/float", none, [("value", .string "1")], none,
        some [⟨"a", none, []⟩, ⟨"b", some (.string "old"), []⟩],
        some [⟨"c", none, []⟩, ⟨"d", some (.string "old"), []⟩], []⟩], [], none, []⟩,
      none, none, []⟩]
  links := []
  busId := none
  extra := []

/-- The first input of the module has an id and the second has none, and the other way round for
the outputs. -/
def toneBindings : Bindings where
  nodes := [(⟨0, 1⟩, .bus "b" ["i"] ["o"]),
    (⟨1, 1⟩, .processing "b" "m" [some "p", none] [none, some "q"])]

/-- The first document has two nodes with one local id, of which only the inner one is bound. In the
second one a bus and a module are bound; an entry that is absent leaves a slot as it was, with an id
of its own or without. -/
theorem wire_overlays : (∃ g, Graph.build wire = .ok g ∧
    Option.Rel
      (Document.Overlaid g innerBindings wire.levels (wire.annotate g innerBindings).levels 1)
      wire.levels[1]? (wire.annotate g innerBindings).levels[1]? ∧
    (wire.annotate g innerBindings).links = wire.links ∧
    (wire.annotate g innerBindings).levels[1]? = some
      { nodes :=
          [⟨1, "bus/input", none, [("id", .string "p"), ("name", .string "in")], none, none, none,
              []⟩,
            ⟨2, "bus/output", none, [("name", .string "out")], none, none, none, []⟩]
        links := [⟨5, 1, 0, 2, 0, .null, .string "c", []⟩]
        busId := some "b"
        extra := [] }) ∧
    ∃ g, Graph.build tone = .ok g ∧
      (∀ k, Option.Rel
        (Document.Overlaid g toneBindings tone.levels (tone.annotate g toneBindings).levels k)
        tone.levels[k]? (tone.annotate g toneBindings).levels[k]?) ∧
      (tone.annotate g toneBindings).nodes =
        [⟨1, "bus/add", some "tone", [("bus_input_ids", .array [.string "i"]),
            ("bus_output_ids", .array [.string "o"]), ("color", .null), ("id", .string "b")],
          some ⟨[⟨1, "utils/float", none, [("id", .string "m"), ("value", .string "1")], none,
            some [⟨"a", some (.string "p"), []⟩, ⟨"b", some (.string "old"), []⟩],
            some [⟨"c", none, []⟩, ⟨"d", some (.string "q"), []⟩], []⟩], [], none, []⟩,
          none, none, []⟩] := by
  obtain ⟨g, hg, hlinks, hinside⟩ : ∃ g, Graph.build wire = .ok g ∧
      (wire.annotate g innerBindings).links = wire.links ∧
      (wire.annotate g innerBindings).levels[1]? = _ := ⟨_, rfl, rfl, rfl⟩
  obtain ⟨g', hg', hnodes⟩ : ∃ g, Graph.build tone = .ok g ∧
      (tone.annotate g toneBindings).nodes = _ := ⟨_, rfl, rfl⟩
  exact ⟨⟨g, hg, annotate_overlays hg innerBindings 1, hlinks, hinside⟩,
    g', hg', annotate_overlays hg' toneBindings, hnodes⟩

end Patchbay
