import Patchbay.Proofs.Document.Validity
import Patchbay.Proofs.Graph.Flattening

/-!
# Graphs are built from valid documents

A document is built to a graph exactly if all its levels are valid. Otherwise the error names a level
and something in it that is at fault there; what is wrong with the name of a port is blamed on the
bus that the level belongs to.
-/

namespace Patchbay

/-- Something in a level, which has a number and belongs to a bus, is as an error says. -/
inductive GraphError.Blames (m : Document) (bus : Option NodeKey) (k : Nat) : GraphError → Prop
  | field (n : Node) (err : FieldError) (mem : n ∈ m.nodes) (lacks : n.Lacks err) :
      Blames m bus k (.field k n.id n.type err)
  | duplicateNode (n : Node) (before after : List Node) (nodes : m.nodes = before ++ n :: after)
      (earlier : ∃ n' ∈ before, n'.id = n.id) : Blames m bus k (.duplicateNode k n.id)
  | duplicatePort (n : Node) (before after : List Node) (d : Direction) (name : String)
      (nodes : m.nodes = before ++ n :: after) (named : n.portName? d = some name)
      (earlier : ∃ n' ∈ before, n'.portName? d = some name) :
      Blames m bus k (.duplicatePort (bus.getD ⟨k, n.id⟩) d name)
  | invalidPort (n : Node) (d : Direction) (name : String) (mem : n ∈ m.nodes)
      (named : n.portName? d = some name) (unfit : name = "" ∨ ',' ∈ name.toList) :
      Blames m bus k (.invalidPort (bus.getD ⟨k, n.id⟩) d name)
  | unknownEnd (l : Link) (e : LinkEnd) (mem : l ∈ m.links)
      (absent : ∀ n ∈ m.nodes, n.id ≠ l.node e) : Blames m bus k (.unknownEnd k l.id (l.node e))
  | invalidEnd (l : Link) (e : LinkEnd) (n : Node) (mem : l ∈ m.links) (node : n ∈ m.nodes)
      (ends : n.id = l.node e)
      (role : n.bareTag = e.direction.mainTag ∨ n.bareTag = e.direction.portTag) :
      Blames m bus k (.invalidEnd k l.id (l.node e) n.bareTag e)
  | slotOutOfRange (l : Link) (e : LinkEnd) (n : Node) (count : Nat) (mem : l ∈ m.links)
      (node : n ∈ m.nodes) (ends : n.id = l.node e) (offers : n.Offers e count)
      (beyond : count ≤ l.slot e) :
      Blames m bus k (.slotOutOfRange k l.id (l.node e) (l.slot e) count)

/-- An error is about a level of a document, which has itself a number and belongs to a bus. -/
def GraphError.BlamesIn (d : Document) (bus : Option NodeKey) (k : Nat) (err : GraphError) : Prop :=
  ∃ m bus' k', m.LevelAt bus' k' d bus k ∧ err.Blames m bus' k'

variable {m : Document} {bus : Option NodeKey} {k : Nat} {err : GraphError}

/-- What an error blames is not valid. -/
lemma GraphError.Blames.not_valid (h : err.Blames m bus k) : ¬ m.Valid := by
  intro hm
  cases h with
  | field n err mem lacks => exact lacks.not_complete (hm.complete n mem)
  | duplicateNode n before after nodes earlier =>
    obtain ⟨n', hn', hid⟩ := earlier
    have hnodup := hm.ids_nodup
    rw [nodes, List.map_append, List.nodup_append] at hnodup
    exact hnodup.2.2 n'.id (List.mem_map_of_mem hn') n.id (by simp) hid
  | duplicatePort n before after d name nodes named earlier =>
    obtain ⟨n', hn', hname⟩ := earlier
    have hnodup := hm.names_nodup d
    rw [nodes, List.filterMap_append, List.nodup_append] at hnodup
    refine hnodup.2.2 name (List.mem_filterMap.mpr ⟨n', hn', hname⟩) name ?_ rfl
    exact List.mem_filterMap.mpr ⟨n, by simp, named⟩
  | invalidPort n d name mem named unfit =>
    obtain ⟨hne, hcomma⟩ := hm.names_fit d name (List.mem_filterMap.mpr ⟨n, mem, named⟩)
    exact unfit.elim hne hcomma
  | unknownEnd l e mem absent =>
    obtain ⟨n, hn, hid, -⟩ := hm.ends l mem e
    exact absent n hn hid
  | invalidEnd l e n mem node ends role =>
    obtain ⟨n', hn', hid, htakes⟩ := hm.ends l mem e
    -- ids are unique, so this is the node that the link ends at
    obtain rfl := List.inj_on_of_nodup_map hm.ids_nodup hn' node (hid.trans ends.symm)
    exact role.elim htakes.main htakes.port
  | slotOutOfRange l e n count mem node ends offers beyond =>
    obtain ⟨n', hn', hid, htakes⟩ := hm.ends l mem e
    obtain rfl := List.inj_on_of_nodup_map hm.ids_nodup hn' node (hid.trans ends.symm)
    exact absurd (htakes.slot_lt count offers) (by omega)

/-! ### What a node offers -/

section Slots

variable {n : Node} {v : GraphNode} {e : LinkEnd} {d : Direction}

inductive GraphNode.Accepts (v : GraphNode) (n : Node) (e : LinkEnd) : Slots → Prop
  | none (label : v.kind.label = n.bareTag)
      (role : n.bareTag = e.direction.mainTag ∨ n.bareTag = e.direction.portTag) :
      Accepts v n e .none
  | below (count : Nat) (main : n.bareTag ≠ e.direction.mainTag)
      (port : n.bareTag ≠ e.direction.portTag) (offers : n.Offers e count) :
      Accepts v n e (.below count)
  | any (main : n.bareTag ≠ e.direction.mainTag) (port : n.bareTag ≠ e.direction.portTag)
      (offers : ∀ count, ¬ n.Offers e count) : Accepts v n e .any

namespace GraphNode.Accepts

/-- Nodes for physical ports take links on one side only, one slot for each item. -/
lemma of_main {items : List Json} (label : v.kind.label = n.bareTag) (tag : n.bareTag = d.mainTag)
    (ids : Keyed.get? "ids" n.properties = some (.array items)) :
    v.Accepts n e (if d = e.direction then .none else .below items.length) := by
  split_ifs with hd
  · exact .none label (.inl (hd ▸ tag))
  · refine .below items.length ?_ ?_ (.mains d items tag hd ids)
    · exact fun h => hd (Node.mainTag_injective (tag.symm.trans h))
    · exact fun h => Node.mainTag_ne_portTag _ _ (tag.symm.trans h)

/-- Ports of a bus take links on one side only, and any slot will do. -/
lemma of_port (label : v.kind.label = n.bareTag) (tag : n.bareTag = d.portTag) :
    v.Accepts n e (if d = e.direction then .none else .any) := by
  split_ifs with hd
  · exact .none label (.inr (hd ▸ tag))
  · refine .any ?_ ?_ fun count => Node.not_offers ?_ ?_ ?_
    · exact fun h => Node.mainTag_ne_portTag _ _ (h.symm.trans tag)
    · exact fun h => hd (Node.portTag_injective (tag.symm.trans h))
    · exact fun d' h => Node.mainTag_ne_portTag _ _ (h.symm.trans tag)
    · exact fun h => Node.portTag_ne_bus _ (tag.symm.trans h)
    · rw [tag]
      cases d <;> rfl

end GraphNode.Accepts

/-- What a node of a graph offers is what the node of the document offers. -/
lemma GraphNode.Unfolds.accepts {pairs : List (Document × Level)} {level depth : Nat}
    (hv : v.Unfolds pairs level n) (hfit : v.Fits level depth)
    (hpairs : ∀ s c, (s, c) ∈ pairs → c.Unfolds pairs s) (e : LinkEnd) :
    v.Accepts n e (v.slots e) := by
  have hmeans := Node.classify_eq_ok_iff.mp hv.kind
  generalize hkind : v.kind = kind at hmeans
  -- a node for physical ports, or a port of the bus around it, refuses ends of its own direction
  have hown : ∀ (d : Direction) slots,
      (∀ e, v.slots e = if d = e.direction then .none else slots) →
        v.Accepts n e (if d = e.direction then .none else slots) → v.Accepts n e (v.slots e) :=
    fun d slots hslots h => hslots e ▸ h
  cases hmeans with
  | mainInputs items tag ids =>
    refine hown .input (.below items.length) ?_ (.of_main (by rw [hkind, tag]; rfl) tag ids)
    rintro (_ | _) <;> simp [slots, hkind, LinkEnd.direction]
  | mainOutputs items tag ids =>
    refine hown .output (.below items.length) ?_ (.of_main (by rw [hkind, tag]; rfl) tag ids)
    rintro (_ | _) <;> simp [slots, hkind, LinkEnd.direction]
  | busAdd title inside tag subgraph titled =>
    -- the slots of a bus are the ports of the level in it, which come from the subgraph
    obtain ⟨c, hc⟩ := hfit.child_of_bus title hkind
    obtain ⟨s, hs, hmem⟩ := hv.child c hc
    have hports := portNodes_of_unfolds (hpairs s c hmem).nodes e.direction
    have hcount : (c.portNodes e.direction).length = (s.ports e.direction).length := by
      rw [Level.portNodes, hports, List.length_map, Document.ports]
    have hslots : v.slots e = .below (s.ports e.direction).length := by
      simp [slots, hkind, hc, hcount]
    rw [hslots]
    refine .below _ ?_ ?_ (.bus s tag hs)
    · exact fun h => Node.mainTag_ne_bus _ (h.symm.trans tag)
    · exact fun h => Node.portTag_ne_bus _ (h.symm.trans tag)
  | busInput name tag named =>
    refine hown .input .any ?_ (.of_port (by rw [hkind, tag]; rfl) tag)
    rintro (_ | _) <;> simp [slots, hkind, LinkEnd.direction]
  | busOutput name tag named =>
    refine hown .output .any ?_ (.of_port (by rw [hkind, tag]; rfl) tag)
    rintro (_ | _) <;> simp [slots, hkind, LinkEnd.direction]
  | processing type values tag parameters =>
    obtain ⟨hmain, hport, -⟩ := Node.bareTag_of_module tag
    have hslots : v.slots e = .below (n.names e.direction).length := by
      cases e <;>
        simp [slots, hkind, hv.outputNames, hv.inputNames, Node.names, LinkEnd.direction]
    exact hslots ▸ .below _ (hmain _) (hport _) (.module type tag)
  | unsupported main port bus module =>
    have hslots : v.slots e = .any := by simp [slots, hkind]
    exact hslots ▸ .any (main _) (port _) fun count => Node.not_offers main bus module

end Slots

/-! ### Errors name what is at fault -/

section Errors

variable {pairs : List (Document × Level)} {level depth : Nat}

/-- A link that is refused does not end at a slot that there is. -/
lemma GraphLink.blames_of_checkEnd {vs : List GraphNode} {index : Nat} {l : Link} {e : LinkEnd}
    (hnodes : List.Forall₂ (GraphNode.Unfolds pairs k) m.nodes vs)
    (hfit : ∀ v ∈ vs, v.Fits k depth) (hpairs : ∀ s c, (s, c) ∈ pairs → c.Unfolds pairs s)
    (hl : l ∈ m.links) (h : (GraphLink.ofLink k index l).checkEnd vs e = .error err) :
    err.Blames m bus k := by
  simp only [GraphLink.checkEnd, GraphLink.node_ofLink, GraphLink.slot_ofLink] at h
  split at h
  · rename_i hnone
    cases h
    refine .unknownEnd l e hl fun n hn hid => ?_
    obtain ⟨v, hv, hnv⟩ := forall₂_exists_right hnodes hn
    have := List.find?_eq_none.mp hnone v hv
    simp [hnv.key, hid] at this
  · rename_i v hfind
    obtain ⟨n, hn, hnv⟩ := forall₂_exists_right hnodes.flip (List.mem_of_find?_eq_some hfind)
    have hid : n.id = l.node e := by simpa [hnv.key] using List.find?_some hfind
    have haccepts := hnv.accepts (hfit v (List.mem_of_find?_eq_some hfind)) hpairs e
    split at h
    · cases h
    · rename_i hslots
      cases h
      rw [hslots] at haccepts
      cases haccepts with
      | none label role =>
        rw [label]
        exact .invalidEnd l e n hl hn hid role
    · rename_i count hslots
      split_ifs at h with hlt
      cases h
      rw [hslots] at haccepts
      cases haccepts with
      | below count main port offers =>
        exact .slotOutOfRange l e n count hl hn hid offers (Nat.not_lt.mp hlt)

/-- Links are refused because of one end of one link. -/
lemma Level.exists_of_buildLinks_error {vs : List GraphNode} {ls : List Link} :
    ∀ {index : Nat}, buildLinks level vs index ls = .error err →
      ∃ i, ∃ l ∈ ls, ∃ e, (GraphLink.ofLink level i l).checkEnd vs e = .error err := by
  induction ls with
  | nil => simp [buildLinks]
  | cons l ls ih =>
    intro index h
    rw [buildLinks] at h
    rcases bind_eq_error_iff.mp h with h | ⟨⟨⟩, -, h⟩
    · exact ⟨index, l, List.mem_cons_self, .origin, h⟩
    rcases bind_eq_error_iff.mp h with h | ⟨⟨⟩, -, h⟩
    · exact ⟨index, l, List.mem_cons_self, .target, h⟩
    rcases bind_eq_error_iff.mp h with h | ⟨ks, -, h⟩
    · obtain ⟨i, l', hl', h⟩ := ih h
      exact ⟨i, l', List.mem_cons_of_mem _ hl', h⟩
    · cases h

lemma validPortName_iff {name : String} :
    validPortName name = true ↔ name ≠ "" ∧ ',' ∉ name.toList := by
  simp [validPortName]

/-- A port is refused for its name: it is no name for a port, or an earlier port has it. -/
lemma checkPort_error {key : NodeKey} {earlier : List GraphNode} {kind : NodeKind}
    (h : checkPort key earlier kind = .error err) :
    ∃ d name, kind.passThrough? d = some name ∧
      (err = .invalidPort key d name ∧ (name = "" ∨ ',' ∈ name.toList) ∨
        err = .duplicatePort key d name ∧ name ∈ (passThroughs d earlier).map Prod.snd) := by
  have hname : ∀ {d name}, checkPortName key d name earlier = .error err →
      err = .invalidPort key d name ∧ (name = "" ∨ ',' ∈ name.toList) ∨
        err = .duplicatePort key d name ∧ name ∈ (passThroughs d earlier).map Prod.snd := by
    intro d name h
    unfold checkPortName at h
    split_ifs at h with hvalid hdup
    · cases h
      simp only [Bool.not_eq_true', ← Bool.not_eq_true, validPortName_iff] at hvalid
      exact .inl ⟨rfl, by tauto⟩
    · cases h
      exact .inr ⟨rfl, by simpa using hdup⟩
  cases kind with
  | busInput name => exact ⟨.input, name, rfl, hname h⟩
  | busOutput name => exact ⟨.output, name, rfl, hname h⟩
  | mainInputs | mainOutputs | busAdd | processing | unsupported => cases h

/-- The names of ports are those that the document gives. -/
lemma portNames_of_shows {ns : List Node} {vs : List GraphNode}
    (h : List.Forall₂ (GraphNode.Shows level) ns vs) (d : Direction) :
    (passThroughs d vs).map Prod.snd = ns.filterMap (Node.portName? d) := by
  induction h with
  | nil => rfl
  | @cons n v ns vs hv _ ih =>
    have hname := (Node.classify_eq_ok_iff.mp hv.kind).passThrough?_eq d
    unfold passThroughs at ih ⊢
    rw [List.filterMap_cons, List.filterMap_cons, hname]
    cases n.portName? d <;> simpa using ih

lemma GraphError.Blames.here (h : err.Blames m bus k) : err.BlamesIn m bus k :=
  ⟨m, bus, k, .root, h⟩

/-- A node is refused because its id was there before, because it does not mean anything, for its
name as a port, or for something in its subgraph. -/
lemma Level.buildNode_error {n : Node} {next : Nat} {earlier : List GraphNode}
    (h : buildNode bus depth k earlier next n = .error err) :
    (err = .duplicateNode k n.id ∧ ∃ v ∈ earlier, v.key.id = n.id) ∨
      (∃ e, n.classify = .error e ∧ err = .field k n.id n.type e) ∨
        ∃ kind, n.classify = .ok kind ∧ (checkPort (bus.getD ⟨k, n.id⟩) earlier kind = .error err ∨
          buildChild ⟨k, n.id⟩ depth next kind n.subgraph = .error err) := by
  obtain ⟨nodeId, type, title, properties, subgraph, inputs, outputs, extra⟩ := n
  simp only [buildNode] at h
  split_ifs at h with hid
  · cases h
    exact .inl ⟨rfl, by simpa using hid⟩
  rcases bind_eq_error_iff.mp h with h | ⟨kind, hkind, h⟩
  · obtain ⟨e, he, rfl⟩ := mapError_eq_error_iff.mp h
    exact .inr (.inl ⟨e, he, rfl⟩)
  refine .inr (.inr ⟨kind, mapError_eq_ok_iff.mp hkind, ?_⟩)
  rcases bind_eq_error_iff.mp h with h | ⟨⟨⟩, -, h⟩
  · exact .inl h
  rcases bind_eq_error_iff.mp h with h | ⟨⟨child, next'⟩, -, h⟩
  · exact .inr h
  · cases h

/-- The number after the levels in a node. -/
lemma Level.after_eq_of_buildNode {n : Node} {next after : Nat} {earlier : List GraphNode}
    {v : GraphNode} (h : buildNode bus depth k earlier next n = .ok (v, after))
    (hearlier : NodesFit k depth earlier) : after = next + n.levels.length := by
  rw [(buildNode_unfolds h).2.length_eq]
  exact (buildNode_fits h hearlier).2.next_eq

mutual

/-- A document that is refused is at fault in what the error says of one of its levels. -/
theorem Level.blamesIn_of_build : ∀ {d : Document} {bus : Option NodeKey} {depth k : Nat},
    build bus depth k d = .error err → err.BlamesIn d bus k
  | ⟨nodes, links, busId, extra⟩, bus, depth, k, h => by
    rw [build] at h
    rcases bind_eq_error_iff.mp h with h | ⟨⟨vs, after⟩, hvs, h⟩
    · exact blamesIn_of_buildNodes (List.nil_append nodes).symm .nil (.nil _ _) rfl h
    rcases bind_eq_error_iff.mp h with h | ⟨ks, -, h⟩
    · obtain ⟨hunfolds, hinside⟩ := buildNodes_unfold hvs
      obtain ⟨hfit, -⟩ := buildNodes_fits hvs (.nil _ _)
      obtain ⟨i, l, hl, e, h⟩ := exists_of_buildLinks_error h
      refine (GraphLink.blames_of_checkEnd hunfolds hfit.node ?_ hl h).here
      exact fun s c hmem => List.forall₂_zip hinside hmem
    · cases h
termination_by structural d => d

/-- Of the nodes of a level, those in `done` have been built, and the rest begin with the number
after all levels in these. -/
theorem Level.blamesIn_of_buildNodes {m : Document} {bus : Option NodeKey} {depth k : Nat} :
    ∀ {ns done : List Node} {earlier : List GraphNode} {next : Nat}, m.nodes = done ++ ns →
      List.Forall₂ (GraphNode.Shows k) done earlier → NodesFit k depth earlier →
      next = k + 1 + (Node.levelsList done).length →
      buildNodes bus depth k earlier next ns = .error err → err.BlamesIn m bus k
  | [], _, _, _, _, _, _, _, h => by
    rw [buildNodes] at h
    cases h
  | n :: ns, done, earlier, next, hm, hearlier, hfit, hnext, h => by
    rw [buildNodes] at h
    rcases bind_eq_error_iff.mp h with h | ⟨⟨v, mid⟩, hv, h⟩
    · exact blamesIn_of_buildNode hm hearlier hnext h
    rcases bind_eq_error_iff.mp h with h | ⟨⟨vs, after⟩, -, h⟩
    · refine blamesIn_of_buildNodes (by simpa using hm)
        (forall₂_concat hearlier (buildNode_ok hv).1.toShows) (buildNode_fits hv hfit).1 ?_ h
      rw [after_eq_of_buildNode hv hfit, hnext, Node.levelsList_append]
      simp [Nat.add_assoc]
    · cases h
termination_by structural ns => ns

/-- A node is refused for something that is at fault in its level or in a level below it. -/
theorem Level.blamesIn_of_buildNode {m : Document} {bus : Option NodeKey} {depth k : Nat} :
    ∀ {n : Node} {done ns : List Node} {earlier : List GraphNode} {next : Nat},
      m.nodes = done ++ n :: ns → List.Forall₂ (GraphNode.Shows k) done earlier →
      next = k + 1 + (Node.levelsList done).length →
      buildNode bus depth k earlier next n = .error err → err.BlamesIn m bus k
  | ⟨nodeId, type, title, properties, subgraph, inputs, outputs, extra⟩, done, ns, earlier, next,
      hm, hearlier, hnext, h => by
    have hmem : (⟨nodeId, type, title, properties, subgraph, inputs, outputs, extra⟩ : Node)
        ∈ m.nodes := by simp [hm]
    rcases buildNode_error h with ⟨rfl, v, hv, hid⟩ | ⟨e, he, rfl⟩ | ⟨kind, hkind, h⟩
    · obtain ⟨n', hn', hshows⟩ := forall₂_exists_right hearlier.flip hv
      refine GraphError.Blames.here (.duplicateNode _ done ns hm ⟨n', hn', ?_⟩)
      rw [← hid, hshows.key]
    · exact GraphError.Blames.here (.field _ e hmem (Node.lacks_of_classify he))
    have hmeans := Node.classify_eq_ok_iff.mp hkind
    rcases h with h | h
    · obtain ⟨d, name, hname, herr⟩ := checkPort_error h
      rw [hmeans.passThrough?_eq] at hname
      rcases herr with ⟨rfl, hunfit⟩ | ⟨rfl, hdup⟩
      · exact GraphError.Blames.here (.invalidPort _ d name hmem hname hunfit)
      · rw [portNames_of_shows hearlier, List.mem_filterMap] at hdup
        exact GraphError.Blames.here (.duplicatePort _ done ns d name hm hname hdup)
    · obtain ⟨s, hs, hbus, m', bus', k', hlevel, hblames⟩ := blamesIn_of_buildChild h
      rw [hnext] at hlevel
      exact ⟨m', bus', k', .bus hm (hmeans.exists_busAdd_iff.mp hbus) hs hlevel, hblames⟩
termination_by structural n => n

/-- What is refused in a bus is at fault in the subgraph of the bus. -/
theorem Level.blamesIn_of_buildChild {key : NodeKey} {depth : Nat} {kind : NodeKind} :
    ∀ {sub : Option Document} {next : Nat}, buildChild key depth next kind sub = .error err →
      ∃ s, sub = some s ∧ (∃ title, kind = .busAdd title) ∧ err.BlamesIn s (some key) next
  | none, _, h => by
    rw [buildChild] at h
    cases h
  | some s, next, h => by
    simp only [buildChild] at h
    split at h
    · rename_i title
      rcases bind_eq_error_iff.mp h with h | ⟨⟨l, after⟩, -, h⟩
      · exact ⟨s, rfl, ⟨title, rfl⟩, blamesIn_of_build h⟩
      · cases h
    · cases h
termination_by structural sub => sub

end

end Errors

/-! ### What is built is valid -/

section Valid

variable {pairs : List (Document × Level)} {level depth : Nat}

/-- An end that passes the check is at a node that takes it. -/
lemma takes_of_checkEnd {vs : List GraphNode} {index : Nat} {l : Link} {e : LinkEnd}
    (hnodes : List.Forall₂ (GraphNode.Unfolds pairs level) m.nodes vs)
    (hfit : ∀ v ∈ vs, v.Fits level depth) (hpairs : ∀ s c, (s, c) ∈ pairs → c.Unfolds pairs s)
    (h : (GraphLink.ofLink level index l).checkEnd vs e = .ok ()) :
    ∃ n ∈ m.nodes, n.id = l.node e ∧ n.Takes e (l.slot e) := by
  simp only [GraphLink.checkEnd, GraphLink.node_ofLink, GraphLink.slot_ofLink] at h
  split at h
  · cases h
  · rename_i v hfind
    obtain ⟨n, hn, hnv⟩ := forall₂_exists_right hnodes.flip (List.mem_of_find?_eq_some hfind)
    have hid : n.id = l.node e := by simpa [hnv.key] using List.find?_some hfind
    refine ⟨n, hn, hid, ?_⟩
    have haccepts := hnv.accepts (hfit v (List.mem_of_find?_eq_some hfind)) hpairs e
    -- what the node of the graph offers is what the node of the document takes
    generalize v.slots e = slots at h haccepts
    cases haccepts with
    | none => cases h
    | below count main port offers =>
      refine ⟨main, port, fun count' offers' => ?_⟩
      rw [offers'.unique offers]
      by_contra hlt
      simp [hlt] at h
    | any main port offers => exact ⟨main, port, fun count h => (offers count h).elim⟩

lemma exists_ofLink_mem {ls : List Link} {l : Link} (hl : l ∈ ls) (level index : Nat) :
    ∃ i, GraphLink.ofLink level i l ∈ linksFrom level index ls := by
  obtain ⟨i, hi, rfl⟩ := List.mem_iff_getElem.mp hl
  rw [linksFrom_eq_mapIdx]
  exact ⟨index + i, List.mem_mapIdx.mpr ⟨i, hi, rfl⟩⟩

lemma map_id_of_shows {ns : List Node} {vs : List GraphNode}
    (h : List.Forall₂ (GraphNode.Shows level) ns vs) :
    ns.map Node.id = vs.map fun v => v.key.id := by
  induction h with
  | nil => rfl
  | cons hv _ ih => rw [List.map_cons, List.map_cons, ih, hv.key]

/-- A document that is built to a level that fits is valid. -/
lemma Level.Unfolds.valid {l : Level} (h : l.Unfolds pairs m) (hfit : l.Fits)
    (hpairs : ∀ s c, (s, c) ∈ pairs → c.Unfolds pairs s) : m.Valid := by
  have hshows : List.Forall₂ (GraphNode.Shows l.id) m.nodes l.nodes :=
    h.nodes.imp fun _ _ hv => hv.toShows
  refine ⟨?_, ?_, ?_, ?_, ?_⟩
  · rw [map_id_of_shows hshows]
    exact hfit.ids_nodup
  · intro n hn
    obtain ⟨v, -, hv⟩ := forall₂_exists_right hshows hn
    exact (Node.classify_eq_ok_iff.mp hv.kind).complete
  · intro d
    rw [← portNames_of_shows hshows]
    exact hfit.port_nodup d
  · intro d name hname
    rw [← portNames_of_shows hshows] at hname
    exact validPortName_iff.mp (hfit.port_valid d name hname)
  · intro link hlink e
    obtain ⟨i, hi⟩ := exists_ofLink_mem hlink l.id 0
    rw [← h.links] at hi
    exact takes_of_checkEnd h.nodes hfit.node hpairs (hfit.link_end _ hi e)

end Valid

namespace Graph

variable {d : Document} {g : Graph}

/-- All levels of a document that is built are valid. -/
lemma valid_of_build (h : Graph.build d = .ok g) (hm : d.Reaches m) : m.Valid := by
  have hg := build_wellFormed h
  obtain ⟨⟨l, after⟩, hl, h⟩ := bind_eq_ok_iff.mp h
  cases h
  have hlevels := Level.build_unfolds hl
  obtain ⟨l', hl', hunfolds⟩ := forall₂_exists_right hlevels (Document.mem_levels_iff.mpr hm)
  exact hunfolds.valid (hg.fits l' hl') fun s c hmem => List.forall₂_zip hlevels hmem

/-- The documents that are built to graphs are those all levels of which are valid; the error of any
other one is about one of its levels and something in it that is not valid. -/
theorem build_ok_iff_valid (d : Document) :
    ((∃ g, Graph.build d = .ok g) ↔ ∀ m, d.Reaches m → m.Valid) ∧
      ∀ err, Graph.build d = .error err → err.BlamesIn d none 0 := by
  have herror : ∀ err, Graph.build d = .error err → err.BlamesIn d none 0 := by
    intro err h
    rcases bind_eq_error_iff.mp h with h | ⟨r, -, h⟩
    · exact Level.blamesIn_of_build h
    · cases h
  refine ⟨⟨?_, ?_⟩, herror⟩
  · rintro ⟨g, h⟩ m hm
    exact valid_of_build h hm
  · intro hvalid
    cases h : Graph.build d with
    | ok g => exact ⟨g, rfl⟩
    | error err =>
      obtain ⟨m, bus, k, hlevel, hblames⟩ := herror err h
      exact (hblames.not_valid (hvalid m hlevel.reaches)).elim

end Graph

end Patchbay
