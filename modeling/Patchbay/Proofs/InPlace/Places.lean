import Patchbay.Compile.Report
import Patchbay.Proofs.Graph.Keys
import Patchbay.Proofs.InPlace.Recursion
import Patchbay.Proofs.Lists

/-!
# Places and numbers

The levels of a graph have numbers, those of a document have places. What the recursion over a
document says of a place, a compilation says of the number of the level that stands there.
-/

namespace Patchbay

def Level.at? : BusPath → Level → Option Level
  | [], l => some l
  | id :: place, l => ((l.node? id).bind GraphNode.child).bind (at? place)

/-- The place inside a node is found from the place of the node. -/
lemma Level.at?_concat (place : BusPath) (id : Int) : ∀ l : Level,
    l.at? (place ++ [id]) = (l.at? place).bind fun m => (m.node? id).bind GraphNode.child := by
  induction place with
  | nil =>
    intro l
    simp [at?]
  | cons i place ih =>
    intro l
    rw [List.cons_append, at?, at?]
    cases (l.node? i).bind GraphNode.child with
    | none => rfl
    | some c => exact ih c

def Graph.number (g : Graph) (place : BusPath) : Nat :=
  ((g.root.at? place).map Level.id).getD 0

/-- A level of a graph stands at a place. -/
structure Graph.Stands (g : Graph) (place : BusPath) (l : Level) : Prop where
  mem : l ∈ g.levels
  at_place : g.root.at? place = some l
  depth : l.depth = place.length

namespace Graph.Stands

variable {g : Graph} {place : BusPath} {l : Level}

lemma root (hg : g.WellFormed) : g.Stands [] g.root :=
  ⟨Graph.WellFormed.root_mem g, rfl, hg.root_depth⟩

lemma child (hg : g.WellFormed) (h : g.Stands place l) {v : GraphNode} (hv : v ∈ l.nodes)
    {c : Level} (hc : v.child = some c) : g.Stands (place ++ [v.key.id]) c where
  mem := Graph.WellFormed.child_mem h.mem hv hc
  at_place := by
    rw [Level.at?_concat, h.at_place, Option.bind_some,
      Level.node?_of_mem (hg.fits l h.mem) hv, Option.bind_some, hc]
  depth := by
    rw [((hg.fits l h.mem).node v hv).child_depth c hc, h.depth, List.length_append,
      List.length_singleton]

lemma number (h : g.Stands place l) : g.number place = l.id := by
  rw [Graph.number, h.at_place]
  rfl

end Graph.Stands

/-! ### Errors and reports -/

def BuildFailure.numbered (number : BusPath → Nat) : BuildFailure → CompileError
  | .mainOutOfRange place node d index available =>
    .mainOutOfRange ⟨number place, node⟩ d index available
  | .engine error => .engine error
  | .unresolvedNode place link node => .unresolvedNode (number place) link ⟨number place, node⟩
  | .unresolvedPort place link node d slot =>
    .unresolvedPort (number place) link ⟨number place, node⟩ d slot

def Notice.numbered (number : BusPath → Nat) : Notice → Warning
  | .unsupportedNode place node tag => .unsupportedNode ⟨number place, node⟩ tag
  | .skippedLink place link node => .skippedLink (number place) link ⟨number place, node⟩
  | .unmatchedPort place node d name => .unmatchedPort ⟨number place, node⟩ d name

/-- An account as a report, with numbers for places. -/
def Account.numbered (number : BusPath → Nat) (a : Account) : Report where
  buses := a.buses
  modules := a.modules
  connections := a.connections
  maxDepth := a.maxDepth
  warnings := a.notices.map (Notice.numbered number)

/-! ### Nodes of a document and of its graph -/

/-- A node of a level is one of a document. -/
structure GraphNode.Stems (level : Nat) (n : Node) (v : GraphNode) : Prop where
  key : v.key = ⟨level, n.id⟩
  meaning : n.meaning = v.kind
  inputNames : v.inputNames = n.inputNames
  outputNames : v.outputNames = n.outputNames

lemma GraphNode.BuiltFrom.stems {n : Node} {bus : Option NodeKey} {level : Nat}
    {earlier : List GraphNode} {v : GraphNode} (h : v.BuiltFrom n bus level earlier) :
    v.Stems level n :=
  ⟨h.key, by rw [Node.meaning, h.kind], h.inputNames, h.outputNames⟩

/-- The nodes of a level stem from those of the document, in the same order. -/
lemma Level.buildNodes_stem {parent : Option NodeKey} {depth id next after : Nat} {ns : List Node}
    {earlier vs : List GraphNode}
    (h : buildNodes parent depth id earlier next ns = .ok (vs, after)) :
    List.Forall₂ (fun n v => v.Stems id n) ns vs := by
  induction ns generalizing earlier vs next with
  | nil =>
    rw [buildNodes] at h
    cases h
    exact .nil
  | cons n ns ih =>
    rw [buildNodes] at h
    obtain ⟨⟨v, mid⟩, hv, h⟩ := bind_eq_ok_iff.mp h
    obtain ⟨⟨ws, after'⟩, hws, h⟩ := bind_eq_ok_iff.mp h
    cases h
    exact .cons (buildNode_ok hv).1.stems (ih hws)

/-- The pass-throughs of a document are those of its level. -/
lemma passThroughs_of_stems {level : Nat} {ns : List Node} {vs : List GraphNode}
    (h : List.Forall₂ (fun n v => v.Stems level n) ns vs) (d : Direction) :
    Node.passThroughs d ns = passThroughs d vs := by
  induction h with
  | nil => rfl
  | @cons n v ns vs hv _ ih =>
    simp only [Node.passThroughs, passThroughs, List.filterMap_cons] at ih ⊢
    rw [ih, hv.meaning, hv.key]

/-- A node of a document stands for a node of the graph. -/
def Graph.Sited (g : Graph) (site : BusPath × Node) (v : GraphNode) : Prop :=
  v.Stems (g.number site.1) site.2

mutual

/-- The nodes of a document with their places are the nodes of its levels, in the same order. -/
theorem Document.sites_built {g : Graph} (hg : g.WellFormed) {parent : Option NodeKey}
    {depth next : Nat} : ∀ {d : Document} {l : Level} {after : Nat} {place : BusPath},
      Level.build parent depth next d = .ok (l, after) → g.Stands place l →
      List.Forall₂ g.Sited (d.sites place) (l.flatten.flatMap Level.nodes)
  | ⟨nodes, links, busId, extra⟩, l, after, place, h, hl => by
    rw [Level.build] at h
    obtain ⟨⟨vs, after'⟩, hvs, h⟩ := bind_eq_ok_iff.mp h
    obtain ⟨ks, hks, h⟩ := bind_eq_ok_iff.mp h
    cases h
    rw [Level.flatten_mk, List.flatMap_cons, Document.sites]
    refine List.rel_append ?_ (Node.sitesList_built hg hvs (fun v hv => hv) hl)
    rw [List.forall₂_map_left_iff]
    refine (Level.buildNodes_stem hvs).imp fun n v hv => ?_
    rwa [Graph.Sited, hl.number]

theorem Node.sitesList_built {g : Graph} (hg : g.WellFormed) {parent : Option NodeKey}
    {depth id : Nat} {l : Level} {place : BusPath} : ∀ {ns : List Node}
    {earlier vs : List GraphNode} {next after : Nat},
      Level.buildNodes parent depth id earlier next ns = .ok (vs, after) →
      (∀ v ∈ vs, v ∈ l.nodes) → g.Stands place l →
      List.Forall₂ g.Sited (Node.sitesList place ns)
        ((Level.flattenNodes vs).flatMap Level.nodes)
  | [], _, _, _, _, h, _, _ => by
    rw [Level.buildNodes] at h
    cases h
    simp [Node.sitesList]
  | n :: ns, _, _, _, _, h, hvs, hl => by
    rw [Level.buildNodes] at h
    obtain ⟨⟨v, mid⟩, hv, h⟩ := bind_eq_ok_iff.mp h
    obtain ⟨⟨ws, after'⟩, hws, h⟩ := bind_eq_ok_iff.mp h
    cases h
    rw [Node.sitesList, Level.flattenNodes_cons, List.flatMap_append]
    exact List.rel_append (Node.sitesInside_built hg hv (hvs v List.mem_cons_self) hl)
      (Node.sitesList_built hg hws (fun w hw => hvs w (List.mem_cons_of_mem _ hw)) hl)

theorem Node.sitesInside_built {g : Graph} (hg : g.WellFormed) {parent : Option NodeKey}
    {depth id : Nat} {l : Level} {place : BusPath} : ∀ {n : Node} {earlier : List GraphNode}
    {v : GraphNode} {next after : Nat},
      Level.buildNode parent depth id earlier next n = .ok (v, after) →
      v ∈ l.nodes → g.Stands place l →
      List.Forall₂ g.Sited (Node.sitesInside place n) ((Level.flattenNode v).flatMap Level.nodes)
  | ⟨nodeId, type, title, properties, subgraph, inputs, outputs, extra⟩, _, v, _, _, h, hv,
      hl => by
    obtain ⟨hstem, hchild⟩ := Level.buildNode_ok h
    rw [Node.sitesInside, hstem.stems.meaning, Level.flattenNode_eq]
    cases hkind : v.kind with
    | busAdd title' =>
      rw [hkind] at hchild
      refine Document.sitesChild_built hg hchild fun c hc => ?_
      have hc := hl.child hg hv hc
      rwa [hstem.key] at hc
    | _ =>
      -- only a bus has anything inside
      rcases Level.buildChild_ok hchild with ⟨_, _, _, hbus, -⟩ | ⟨hnone, -⟩
      · rw [hkind] at hbus
        cases hbus
      · rw [hnone]
        exact .nil

theorem Document.sitesChild_built {g : Graph} (hg : g.WellFormed) {key : NodeKey}
    {depth : Nat} {title : String} {place : BusPath} : ∀ {sub : Option Document}
    {child : Option Level} {next after : Nat},
      Level.buildChild key depth next (.busAdd title) sub = .ok (child, after) →
      (∀ c, child = some c → g.Stands place c) →
      List.Forall₂ g.Sited (Document.sitesChild place sub)
        (((child.map Level.flatten).getD []).flatMap Level.nodes)
  | none, child, _, _, h, _ => by
    rcases Level.buildChild_ok h with ⟨_, _, _, -, hsub, -⟩ | ⟨rfl, -⟩
    · cases hsub
    · exact .nil
  | some d, child, _, _, h, hl => by
    rcases Level.buildChild_ok h with ⟨_, _, c, -, ⟨⟩, rfl, hc⟩ | ⟨-, -, hnone⟩
    · exact Document.sites_built hg hc (hl c rfl)
    · cases hnone title rfl

end

end Patchbay
