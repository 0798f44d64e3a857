import Patchbay.Proofs.Document.Validity
import Patchbay.Proofs.Engine.History
import Patchbay.Proofs.Graph.Core

/-!
# What of a document matters

Most of a document is the editor's own: ids of an earlier compilation, what it draws, and fields
that the tag of a node does not ask for. Documents that differ in such things only are accepted
together, and they compile to the same.
-/

namespace Patchbay

/-! ### Documents that resemble each other -/

/-- A link with the id, nodes and slots of another one. -/
structure Link.Resembles (l l' : Link) : Prop where
  id : l'.id = l.id
  originId : l'.originId = l.originId
  originSlot : l'.originSlot = l.originSlot
  targetId : l'.targetId = l.targetId
  targetSlot : l'.targetSlot = l.targetSlot

mutual

/-- A document whose nodes and links resemble those of another one. -/
inductive Document.Resembles : Document → Document → Prop
  | mk {m m' : Document} (nodes : List.Forall₂ Node.Resembles m.nodes m'.nodes)
      (links : List.Forall₂ Link.Resembles m.links m'.links) : Document.Resembles m m'

/-- A node with what matters of another one. Tags that differ by the name of the editor resemble
each other, if they are known. -/
inductive Node.Resembles : Node → Node → Prop
  /-- Of the physical ports only the number matters. -/
  | main {n n' : Node} (d : Direction) (items items' : List Json) (id : n'.id = n.id)
      (tag : n.bareTag = d.mainTag) (tag' : n'.bareTag = n.bareTag)
      (ids : Keyed.get? "ids" n.properties = some (.array items))
      (ids' : Keyed.get? "ids" n'.properties = some (.array items'))
      (length : items'.length = items.length) : Node.Resembles n n'
  /-- Of a bus the title and the level in it matter. -/
  | bus {n n' : Node} (m m' : Document) (id : n'.id = n.id) (tag : n.bareTag = "bus/add")
      (tag' : n'.bareTag = n.bareTag) (title : n'.title = n.title)
      (subgraph : n.subgraph = some m) (subgraph' : n'.subgraph = some m')
      (inside : Document.Resembles m m') : Node.Resembles n n'
  /-- Of a port of the bus around the level its name matters. -/
  | port {n n' : Node} (d : Direction) (id : n'.id = n.id) (tag : n.bareTag = d.portTag)
      (tag' : n'.bareTag = n.bareTag)
      (name : Keyed.get? "name" n'.properties = Keyed.get? "name" n.properties) :
      Node.Resembles n n'
  /-- Of a module the parameters of its type and the names of its slots matter. -/
  | module {n n' : Node} (type : ModuleType) (id : n'.id = n.id)
      (tag : ModuleType.ofTag? n.bareTag = some type) (tag' : n'.bareTag = n.bareTag)
      (parameters : ∀ p ∈ type.parameters, Keyed.get? p n'.properties = Keyed.get? p n.properties)
      (inputs : n'.inputNames = n.inputNames) (outputs : n'.outputNames = n.outputNames) :
      Node.Resembles n n'
  /-- Of a node that is not supported just the tag matters. -/
  | unsupported {n n' : Node} (id : n'.id = n.id) (type : n'.type = n.type)
      (main : ∀ d : Direction, n.bareTag ≠ d.mainTag)
      (port : ∀ d : Direction, n.bareTag ≠ d.portTag) (bus : n.bareTag ≠ "bus/add")
      (module : ModuleType.ofTag? n.bareTag = none) : Node.Resembles n n'

end

namespace Node

variable {n n' : Node} {kind : NodeKind}

namespace Resembles

lemma id_eq (h : n.Resembles n') : n'.id = n.id := by
  cases h <;> assumption

/-- A node means what a node means that it resembles, and declares the same names where they
matter. -/
lemma means (h : n.Resembles n') (hn : n.Means kind) :
    n'.Means kind ∧ kind.declared n'.inputNames = kind.declared n.inputNames ∧
      kind.declared n'.outputNames = kind.declared n.outputNames := by
  cases h with
  | main d items items' id tag tag' ids ids' length =>
    cases d with
    | input =>
      obtain rfl := hn.unique (.mainInputs items tag ids)
      rw [← length]
      exact ⟨.mainInputs items' (tag'.trans tag) ids', rfl, rfl⟩
    | output =>
      obtain rfl := hn.unique (.mainOutputs items tag ids)
      rw [← length]
      exact ⟨.mainOutputs items' (tag'.trans tag) ids', rfl, rfl⟩
  | bus m m' id tag tag' title subgraph subgraph' inside =>
    obtain ⟨title', rfl⟩ := hn.exists_busAdd_iff.mpr tag
    cases hn with
    | busAdd _ _ _ _ titled =>
      exact ⟨.busAdd title' m' (tag'.trans tag) subgraph' (title.trans titled), rfl, rfl⟩
  | port d id tag tag' name =>
    obtain ⟨text, htext⟩ := Option.isSome_iff_exists.mp (hn.isSome_passThrough?_iff.mpr tag)
    have named := (hn.passThrough?_eq_some_iff.mp htext).2
    cases d with
    | input =>
      obtain rfl := hn.unique (.busInput text tag named)
      exact ⟨.busInput text (tag'.trans tag) (name.trans named), rfl, rfl⟩
    | output =>
      obtain rfl := hn.unique (.busOutput text tag named)
      exact ⟨.busOutput text (tag'.trans tag) (name.trans named), rfl, rfl⟩
  -- parameters are read from properties of the same names, which hold the same
  | module type id tag tag' parameters inputs outputs =>
    rcases moduleSpec_cases tag with ⟨values, hmeans, -⟩ | ⟨err, hlacks, -⟩
    · obtain rfl := hn.unique hmeans
      refine ⟨?_, inputs, outputs⟩
      cases hmeans with
      | processing _ _ _ given =>
        refine .processing type values (tag'.symm ▸ tag)
          (List.forall₂_iff_zip.mpr ⟨given.length_eq, fun hmem => ?_⟩)
        obtain ⟨v, hv, hnumber⟩ := List.forall₂_zip given hmem
        exact ⟨v, (parameters _ (List.of_mem_zip hmem).1).trans hv, hnumber⟩
    · exact (hlacks.not_complete hn.complete).elim
  | unsupported id type main port bus module =>
    obtain rfl := hn.unique (.unsupported main port bus module)
    have tag' : n'.bareTag = n.bareTag := by rw [bareTag, bareTag, type]
    rw [← type]
    rw [← tag'] at main port bus module
    exact ⟨.unsupported main port bus module, rfl, rfl⟩

/-- Buses resemble each other only if the levels in them do. -/
lemma subgraph {title : String} (h : n.Resembles n') (hn : n.Means (.busAdd title)) :
    Option.Rel Document.Resembles n.subgraph n'.subgraph := by
  have hbus := hn.exists_busAdd_iff.mp ⟨title, rfl⟩
  cases h with
  | main d _ _ _ tag => exact (mainTag_ne_bus d (tag.symm.trans hbus)).elim
  | bus m m' _ _ _ _ subgraph subgraph' inside =>
    rw [subgraph, subgraph']
    exact .some inside
  | port d _ tag => exact (portTag_ne_bus d (tag.symm.trans hbus)).elim
  | module type _ tag => exact ((bareTag_of_module tag).2.2 hbus).elim
  | unsupported _ _ _ _ bus => exact (bus hbus).elim

end Resembles

end Node

/-! ### The same core -/

namespace Level

variable {parent : Option NodeKey} {depth id next after : Nat}

/-- Links differ in what no check looks at, and the nodes are the same but for names that no check
looks at. -/
lemma buildLinks_resembling {vs vs' : List GraphNode} {ls ls' : List Link}
    (hvs : vs'.map GraphNode.core = vs.map GraphNode.core)
    (h : List.Forall₂ Link.Resembles ls ls') (index : Nat) :
    buildLinks id vs' index ls' = buildLinks id vs index ls := by
  rw [← buildLinks_core id vs, ← buildLinks_core id vs', hvs]
  induction h generalizing index with
  | nil => rfl
  | cons hl _ ih =>
    simp only [buildLinks, hl.id, hl.originId, hl.originSlot, hl.targetId, hl.targetSlot, ih]

/-- A node is built to what a node is built to that it resembles, but for names that nothing looks
at, if the levels in them are. -/
lemma builtFrom_resembling {n n' : Node} {earlier earlier' : List GraphNode} {v : GraphNode}
    (hn : n.Resembles n') (hv : v.BuiltFrom n parent id earlier)
    (hearlier : earlier'.map GraphNode.core = earlier.map GraphNode.core) {child' : Option Level}
    (hchild : child'.map core = v.child.map core) :
    ∃ v' : GraphNode, v'.BuiltFrom n' parent id earlier' ∧ v'.key = v.key ∧ v'.kind = v.kind ∧
      v'.child = child' ∧ v'.core = v.core := by
  obtain ⟨hmeans, hinputs, houtputs⟩ := hn.means (Node.classify_eq_ok_iff.mp hv.kind)
  obtain ⟨key, kind, inputNames, outputNames, child⟩ := v
  refine ⟨⟨key, kind, n'.inputNames, n'.outputNames, child'⟩, ⟨⟨?_, hmeans.classify, rfl, rfl⟩, ?_,
    ?_⟩, rfl, rfl, rfl, ?_⟩
  · exact hv.key.trans (by rw [hn.id_eq])
  · -- the id is new among nodes with the same ids as before
    have hids : earlier'.map (fun w => w.key.id) = earlier.map fun w => w.key.id := by
      simpa [Function.comp_def] using congrArg (List.map fun w => w.key.id) hearlier
    rw [hn.id_eq]
    have hnew : n.id ∉ earlier.map fun w => w.key.id := by simpa using hv.new
    rw [← hids] at hnew
    simpa using hnew
  · have hport := hv.port
    rw [← checkPort_core, ← hearlier, checkPort_core] at hport
    exact hport
  · simp only [GraphNode.core_eq, hchild]
    rw [hinputs, houtputs, ← hv.inputNames, ← hv.outputNames]

/-- Only buses hold levels. -/
lemma buildChild_of_ne {key : NodeKey} {kind : NodeKind} (hkind : ∀ title, kind ≠ .busAdd title)
    (sub : Option Document) : buildChild key depth next kind sub = .ok (none, next) := by
  unfold buildChild
  split
  · rfl
  · split
    · exact (hkind _ rfl).elim
    · rfl

mutual

/-- A document is accepted if one is that it resembles, and as the same level but for names that
nothing looks at. -/
theorem build_resembling : ∀ {d d' : Document} {parent : Option NodeKey} {depth next after : Nat}
    {l : Level}, d.Resembles d' → build parent depth next d = .ok (l, after) →
      ∃ l', build parent depth next d' = .ok (l', after) ∧ l'.core = l.core
  | ⟨nodes, links, busId, extra⟩, ⟨nodes', links', busId', extra'⟩, parent, depth, next, after, l,
      hd, h => by
    obtain ⟨hnodes, hlinks⟩ := hd
    rw [build] at h
    obtain ⟨⟨vs, after'⟩, hvs, h⟩ := bind_eq_ok_iff.mp h
    obtain ⟨ks, hks, h⟩ := bind_eq_ok_iff.mp h
    cases h
    obtain ⟨vs', hvs', hcore⟩ := buildNodes_resembling hnodes rfl hvs
    refine ⟨⟨next, parent, depth, vs', ks⟩, ?_, ?_⟩
    · rw [build]
      refine bind_eq_ok_iff.mpr ⟨_, hvs', bind_eq_ok_iff.mpr ⟨ks, ?_, rfl⟩⟩
      exact (buildLinks_resembling hcore hlinks 0).trans hks
    · simp only [core_eq, hcore]

/-- Nodes that resemble nodes of a document take the same numbers and are the same to the compiler.
-/
theorem buildNodes_resembling : ∀ {ns ns' : List Node} {parent : Option NodeKey}
    {depth id next after : Nat} {earlier earlier' vs : List GraphNode},
      List.Forall₂ Node.Resembles ns ns' →
      earlier'.map GraphNode.core = earlier.map GraphNode.core →
      buildNodes parent depth id earlier next ns = .ok (vs, after) →
      ∃ vs', buildNodes parent depth id earlier' next ns' = .ok (vs', after) ∧
        vs'.map GraphNode.core = vs.map GraphNode.core
  | [], _, _, _, _, _, _, _, _, _, .nil, _, h => by
    rw [buildNodes] at h
    cases h
    exact ⟨[], by rw [buildNodes], rfl⟩
  | n :: ns, n' :: ns', _, _, _, _, _, earlier, earlier', _, .cons hn hns, hearlier, h => by
    rw [buildNodes] at h
    obtain ⟨⟨v, mid⟩, hv, h⟩ := bind_eq_ok_iff.mp h
    obtain ⟨⟨ws, after'⟩, hws, h⟩ := bind_eq_ok_iff.mp h
    cases h
    obtain ⟨v', hv', hcore⟩ := buildNode_resembling hn hearlier hv
    have hnext : (earlier' ++ [v']).map GraphNode.core = (earlier ++ [v]).map GraphNode.core := by
      simp only [List.map_append, List.map_singleton, hearlier, hcore]
    obtain ⟨ws', hws', hcores⟩ := buildNodes_resembling hns hnext hws
    refine ⟨v' :: ws', ?_, by rw [List.map_cons, List.map_cons, hcore, hcores]⟩
    rw [buildNodes]
    exact bind_eq_ok_iff.mpr ⟨_, hv', bind_eq_ok_iff.mpr ⟨_, hws', rfl⟩⟩

/-- A node that resembles another one is built to the same, up to names that are never looked at. -/
theorem buildNode_resembling : ∀ {n n' : Node} {parent : Option NodeKey}
    {depth id next after : Nat} {earlier earlier' : List GraphNode} {v : GraphNode},
      n.Resembles n' → earlier'.map GraphNode.core = earlier.map GraphNode.core →
      buildNode parent depth id earlier next n = .ok (v, after) →
      ∃ v', buildNode parent depth id earlier' next n' = .ok (v', after) ∧ v'.core = v.core
  | ⟨nodeId, type, title, properties, subgraph, inputs, outputs, extra⟩, n', parent, depth, id,
      next, after, earlier, earlier', v, hn, hearlier, h => by
    obtain ⟨hv, hchild⟩ := buildNode_ok h
    have hmeans := Node.classify_eq_ok_iff.mp hv.kind
    have hsub : ∀ title, v.kind = .busAdd title →
        Option.Rel Document.Resembles subgraph n'.subgraph :=
      fun title ht => hn.subgraph (ht ▸ hmeans)
    obtain ⟨child', hchild', hcore⟩ := buildChild_resembling hsub hchild
    obtain ⟨v', hv', hkey, hkind, rfl, hcores⟩ := builtFrom_resembling hn hv hearlier hcore
    refine ⟨v', buildNode_of_builtFrom hv' ?_, hcores⟩
    rw [hkey, hkind]
    exact hchild'

/-- Only the subgraph of a bus has to resemble the other one, since no other subgraph is looked at.
-/
theorem buildChild_resembling : ∀ {sub sub' : Option Document} {key : NodeKey}
    {depth next after : Nat} {kind : NodeKind} {child : Option Level},
      (∀ title, kind = .busAdd title → Option.Rel Document.Resembles sub sub') →
      buildChild key depth next kind sub = .ok (child, after) →
      ∃ child', buildChild key depth next kind sub' = .ok (child', after) ∧
        child'.map core = child.map core
  | none, sub', key, depth, next, after, kind, child, hsub, h => by
    rcases buildChild_ok h with ⟨_, _, _, -, hnone, -⟩ | ⟨rfl, rfl, -⟩
    · cases hnone
    · by_cases hbus : ∃ title, kind = .busAdd title
      · obtain ⟨title, rfl⟩ := hbus
        cases hsub title rfl
        exact ⟨none, h, rfl⟩
      · exact ⟨none, buildChild_of_ne (fun title ht => hbus ⟨title, ht⟩) sub', rfl⟩
  | some d, sub', key, depth, next, after, kind, child, hsub, h => by
    rcases buildChild_ok h with ⟨title, _, l, rfl, ⟨⟩, rfl, hl⟩ | ⟨rfl, rfl, hother⟩
    · cases hsub title rfl with
      | some hd =>
        obtain ⟨l', hl', hcore⟩ := build_resembling hd hl
        refine ⟨some l', ?_, congrArg some hcore⟩
        rw [buildChild]
        exact bind_eq_ok_iff.mpr ⟨_, hl', rfl⟩
    · have hkind : ∀ title, kind ≠ .busAdd title := fun title ht => by cases hother title ht
      exact ⟨none, buildChild_of_ne hkind sub', rfl⟩

end

end Level

/-- What resembles an accepted document is accepted, and for every engine it compiles to the same:
the engine is asked the same, and the outcome is the same. -/
theorem compile_resembling {d d' : Document} {g : Graph} (hd : Graph.build d = .ok g)
    (h : d.Resembles d') :
    ∃ g', Graph.build d' = .ok g' ∧ ∀ {σ : Type} (engine : Engine σ) (state : σ),
      compile engine g' state = compile engine g state ∧
        history engine g' state = history engine g state := by
  obtain ⟨⟨l, after⟩, hl, hroot⟩ := bind_eq_ok_iff.mp hd
  cases hroot
  obtain ⟨l', hl', hcore⟩ := Level.build_resembling h hl
  have hsame : ∀ {σ : Type} (engine : Engine σ) (state : σ),
      compile engine ⟨l'⟩ state = compile engine ⟨l⟩ state := by
    intro σ engine state
    rw [← compile_core engine ⟨l'⟩, ← compile_core engine ⟨l⟩, Graph.core, Graph.core, hcore]
  refine ⟨⟨l'⟩, bind_eq_ok_iff.mpr ⟨_, hl', rfl⟩, fun engine state => ⟨hsame engine state, ?_⟩⟩
  rw [history, history, hsame]

/-- The bus of the wire as an editor keeps it: with its own name before the tags, ids of an earlier
compilation, and a color. -/
def usedWireBus : Document where
  nodes :=
    [⟨1, "cyperus/bus/input", some "left", [("id", .string "p"), ("name", .string "in")], none,
        none, some [⟨"", some (.string "p"), []⟩], []⟩,
      ⟨2, "bus/output", none, [("name", .string "out")], none, none, none, [("color", .null)]⟩]
  links := [⟨5, 1, 0, 2, 0, .string "cable", .string "c", [.null]⟩]
  busId := some "b"
  extra := []

/-- The wire as an editor keeps it. -/
def usedWire : Document where
  nodes :=
    [⟨1, "cyperus/main/inputs", some "in", [("ids", .array [.string "m"])], some wireBus, none,
        none, []⟩,
      ⟨2, "cyperus/bus/add", some "wire", [("id", .string "b")], some usedWireBus, some [], none,
        []⟩,
      ⟨3, "main/outputs", none, [("ids", .array [.string "n"])], none, none, none, []⟩]
  links := [⟨5, 1, 0, 2, 0, .null, .string "d", []⟩, ⟨6, 2, 0, 3, 0, .null, .string "e", []⟩]
  busId := none
  extra := [("zoom", .null)]

lemma wire_resembles : wire.Resembles usedWire := by
  have hinside : wireBus.Resembles usedWireBus := by
    refine ⟨.cons (.port .input rfl rfl rfl rfl) (.cons (.port .output rfl rfl rfl rfl) .nil), ?_⟩
    exact .cons ⟨rfl, rfl, rfl, rfl, rfl⟩ .nil
  refine ⟨.cons ?_ (.cons ?_ (.cons ?_ .nil)), ?_⟩
  · exact .main .input _ _ rfl rfl rfl rfl rfl rfl
  · exact .bus wireBus usedWireBus rfl rfl rfl rfl rfl rfl hinside
  · exact .main .output _ _ rfl rfl rfl rfl rfl rfl
  · exact .cons ⟨rfl, rfl, rfl, rfl, rfl⟩ (.cons ⟨rfl, rfl, rfl, rfl, rfl⟩ .nil)

theorem usedWire_compiles_alike : ∃ g, Graph.build wire = .ok g ∧
    ∃ g', Graph.build usedWire = .ok g' ∧ ∀ {σ : Type} (engine : Engine σ) (state : σ),
      compile engine g' state = compile engine g state ∧
        history engine g' state = history engine g state := by
  have hwire : Graph.build wire = .ok _ := rfl
  exact ⟨_, hwire, compile_resembling hwire wire_resembles⟩

end Patchbay
