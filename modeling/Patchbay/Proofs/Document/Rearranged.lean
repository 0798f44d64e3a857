import Patchbay.Proofs.Graph.Validity
import Patchbay.Proofs.Orders

/-!
# Documents in another order

The nodes and links of a level may be put in another order, and so may those in its buses. Only the
ports of a bus have to stay in their order, as links and the engine tell them by their positions. A
document that is rearranged in this way is accepted if it was accepted before.
-/

namespace Patchbay

mutual

/-- A document with the nodes and links of another one in whatever order, and so in its buses. The
ports of a bus stay in their order, direction by direction. -/
inductive Document.Rearranged : Document → Document → Prop
  | mk {m m' : Document} (mid : List Node) (nodes : List.Forall₂ Node.Rearranged m.nodes mid)
      (order : mid.Perm m'.nodes)
      (ports : ∀ d : Direction, (mid.filter fun n => n.bareTag = d.portTag) = m'.ports d)
      (links : m.links.Perm m'.links) (busId : m'.busId = m.busId) (extra : m'.extra = m.extra) :
      Document.Rearranged m m'

/-- A node that stays as it is, or a bus with the level in it rearranged. -/
inductive Node.Rearranged : Node → Node → Prop
  | same (n : Node) : Node.Rearranged n n
  | bus {n n' : Node} {s s' : Document} (tag : n.bareTag = "bus/add")
      (subgraph : n.subgraph = some s) (inside : Document.Rearranged s s')
      (rest : n' = { n with subgraph := some s' }) : Node.Rearranged n n'

end

lemma Document.Rearranged.refl (m : Document) : m.Rearranged m :=
  .mk m.nodes (List.forall₂_same.mpr fun n _ => .same n) (.refl _) (fun _ => rfl) (.refl _) rfl rfl

namespace Node.Rearranged

variable {n n' : Node} {kind : NodeKind} {e : LinkEnd}

/-- All but the subgraph stays as it is. -/
lemma eq_withSubgraph (h : n.Rearranged n') : n' = { n with subgraph := n'.subgraph } := by
  cases h with
  | same =>
    cases n
    rfl
  | bus _ _ _ rest => rw [rest]

lemma id_eq (h : n.Rearranged n') : n'.id = n.id := by rw [h.eq_withSubgraph]

lemma bareTag_eq (h : n.Rearranged n') : n'.bareTag = n.bareTag := by
  rw [h.eq_withSubgraph]
  rfl

lemma inputNames_eq (h : n.Rearranged n') : n'.inputNames = n.inputNames := by
  rw [h.eq_withSubgraph]
  rfl

lemma outputNames_eq (h : n.Rearranged n') : n'.outputNames = n.outputNames := by
  rw [h.eq_withSubgraph]
  rfl

lemma portName?_eq (h : n.Rearranged n') (d : Direction) : n'.portName? d = n.portName? d := by
  rw [h.eq_withSubgraph]
  rfl

/-- The subgraphs are rearranged too. -/
lemma subgraph_rel (h : n.Rearranged n') :
    Option.Rel Document.Rearranged n.subgraph n'.subgraph := by
  cases h with
  | same =>
    cases n.subgraph with
    | none => exact .none
    | some s => exact .some (.refl s)
  | bus _ subgraph inside rest =>
    rw [subgraph, rest]
    exact .some inside

/-- A rearranged node means the same. -/
lemma means (h : n.Rearranged n') (hn : n.Means kind) : n'.Means kind := by
  cases h with
  | same => exact hn
  | bus tag subgraph inside rest =>
    obtain ⟨title, rfl⟩ := hn.exists_busAdd_iff.mpr tag
    cases hn with
    | busAdd _ s _ _ titled =>
      subst rest
      exact .busAdd title _ tag rfl titled

end Node.Rearranged

namespace Document.Rearranged

variable {m m' : Document}

/-- Each node goes to one that is rearranged inside. -/
lemma nodes_related (h : m.Rearranged m') : UpToOrder Node.Rearranged m.nodes m'.nodes := by
  cases h with
  | mk mid nodes order => exact ⟨mid, nodes, order⟩

/-- Links keep what they say and change their order only. -/
lemma links_perm (h : m.Rearranged m') : m.links.Perm m'.links := by
  cases h with
  | mk mid nodes order ports links => exact links

/-- The ports of the bus around a document stay in their order. -/
lemma ports_related (h : m.Rearranged m') (d : Direction) :
    List.Forall₂ Node.Rearranged (m.ports d) (m'.ports d) := by
  cases h with
  | mk mid nodes order ports =>
    rw [← ports d]
    exact List.rel_filter (fun n n' hn => by simp [hn.bareTag_eq]) nodes

end Document.Rearranged

/-! ### Valid documents -/

/-- A node offers the same slots, as ports of a bus keep their order. -/
lemma Node.Rearranged.offers {n n' : Node} {e : LinkEnd} {count : Nat} (h : n.Rearranged n')
    (ho : n'.Offers e count) : n.Offers e count := by
  cases h with
  | same => exact ho
  | bus tag subgraph inside rest =>
    subst rest
    cases ho with
    | mains d items tag' => exact (mainTag_ne_bus d (tag'.symm.trans tag)).elim
    | bus c tag' subgraph' =>
      cases subgraph'
      rw [← (inside.ports_related e.direction).length_eq]
      exact .bus _ tag subgraph
    | module type tag' => exact ((bareTag_of_module tag').2.2 tag).elim

namespace Document.Rearranged

variable {m m' d d' : Document} {g : Graph}

/-- Rearranging keeps a level valid. -/
lemma valid (h : m.Rearranged m') (hm : m.Valid) : m'.Valid where
  ids_nodup := by
    have hperm : (m.nodes.map Node.id).Perm (m'.nodes.map Node.id) :=
      h.nodes_related.map_perm fun _ _ _ _ hn => hn.id_eq.symm
    exact hperm.nodup_iff.mp hm.ids_nodup
  complete n' hn' := by
    obtain ⟨n, hn, hnn'⟩ := h.nodes_related.exists_left hn'
    obtain ⟨kind, hkind⟩ := Node.exists_means_iff.mpr (hm.complete n hn)
    exact (hnn'.means hkind).complete
  names_nodup d := by
    have hperm : (m.nodes.filterMap (Node.portName? d)).Perm
        (m'.nodes.filterMap (Node.portName? d)) :=
      h.nodes_related.filterMap_perm fun _ _ _ _ hn => (hn.portName?_eq d).symm
    exact hperm.nodup_iff.mp (hm.names_nodup d)
  names_fit d name hname := by
    obtain ⟨n', hn', hname⟩ := List.mem_filterMap.mp hname
    obtain ⟨n, hn, hnn'⟩ := h.nodes_related.exists_left hn'
    refine hm.names_fit d name (List.mem_filterMap.mpr ⟨n, hn, ?_⟩)
    rw [← hnn'.portName?_eq, hname]
  -- the ends of a link are found by their ids, wherever the nodes stand
  ends l hl e := by
    obtain ⟨n, hn, hid, htakes⟩ := hm.ends l (h.links_perm.mem_iff.mpr hl) e
    obtain ⟨n', hn', hnn'⟩ := h.nodes_related.exists_right hn
    refine ⟨n', hn', hnn'.id_eq.trans hid, ?_, ?_, fun count hcount => ?_⟩
    · rw [hnn'.bareTag_eq]
      exact htakes.main
    · rw [hnn'.bareTag_eq]
      exact htakes.port
    · exact htakes.slot_lt count (hnn'.offers hcount)

/-- The levels of a rearranged document are rearranged levels. -/
lemma exists_reached (hm : d'.Reaches m') : ∀ {d : Document}, d.Rearranged d' →
    ∃ m, d.Reaches m ∧ m.Rearranged m' := by
  induction hm with
  | root d' => exact fun {d} h => ⟨d, .root d, h⟩
  | bus node tag subgraph _ ih =>
    intro d h
    obtain ⟨n, hn, hnn'⟩ := h.nodes_related.exists_left node
    have hsub := hnn'.subgraph_rel
    rw [subgraph] at hsub
    cases hs : n.subgraph with
    | none =>
      rw [hs] at hsub
      cases hsub
    | some s =>
      rw [hs] at hsub
      cases hsub with
      | some hinside =>
        obtain ⟨m, hm, hmm'⟩ := ih hinside
        exact ⟨m, .bus hn (hnn'.bareTag_eq ▸ tag) hs hm, hmm'⟩

/-- A document that is rearranged is accepted if it was accepted before. -/
lemma build (h : d.Rearranged d') (hd : Graph.build d = .ok g) :
    ∃ g', Graph.build d' = .ok g' := by
  cases hd' : Graph.build d' with
  | ok g' => exact ⟨g', rfl⟩
  | error err =>
    rcases bind_eq_error_iff.mp hd' with herr | ⟨r, -, hr⟩
    · obtain ⟨m', bus, k, hlevel, hblames⟩ := Level.blamesIn_of_build herr
      obtain ⟨m, hm, hmm'⟩ := exists_reached hlevel.reaches h
      exact (hblames.not_valid (hmm'.valid (Graph.valid_of_build hd hm))).elim
    · cases hr

end Document.Rearranged

end Patchbay
