import Patchbay.Proofs.Engine.Consistency
import Patchbay.Proofs.Engine.Reuse
import Patchbay.Proofs.Orders

/-!
# Engines that hold the same

Two engines may hold the same buses, modules and connections, with the ports of each in the same
order, though these were added in another order and so have other ids. As an engine issues no id
twice, there is then one renaming that takes the ids of all things, and of all ports of these, from
the one engine to the other.
-/

namespace Patchbay

variable {ρ : String → String → Prop}

/-! ### Ids in the same places -/

/-- Ids in the same places of two lists stand for each other, and the empty id for itself. -/
def InPlaceOf (xs ys : List String) (x y : String) : Prop := (x, y) ∈ ("" :: xs).zip ("" :: ys)

section InPlaceOf

variable {xs ys : List String}

/-- Two lists of one length go together place by place. -/
lemma inPlaceOf_of_length_eq (h : xs.length = ys.length) :
    List.Forall₂ (InPlaceOf xs ys) xs ys :=
  List.forall₂_iff_zip.mpr ⟨h, fun hxy => List.mem_cons_of_mem _ hxy⟩

/-- Ids that differ, in the one list as in the other one, are a renaming place by place. -/
lemma inPlaceOf_renaming (hxs : ("" :: xs).Nodup) (hys : ("" :: ys).Nodup)
    (hx : ∀ x ∈ xs, isOpaque x = true) (hy : ∀ y ∈ ys, isOpaque y = true) :
    Renaming (InPlaceOf xs ys) where
  empty := List.mem_cons_self
  isOpaque x y hxy := by
    obtain ⟨hxs, hys⟩ := List.of_mem_zip hxy
    exact ⟨List.forall_mem_cons.mpr ⟨by decide, hx⟩ x hxs,
      List.forall_mem_cons.mpr ⟨by decide, hy⟩ y hys⟩
  one_to_one x y x' y' h h' := by
    obtain ⟨i, hi⟩ := List.mem_iff_getElem?.mp h
    obtain ⟨j, hj⟩ := List.mem_iff_getElem?.mp h'
    obtain ⟨hix, hiy⟩ := List.getElem?_zip_eq_some.mp hi
    obtain ⟨hjx, hjy⟩ := List.getElem?_zip_eq_some.mp hj
    have hplace : ∀ {zs : List String} {z z' : String}, zs.Nodup → zs[i]? = some z →
        zs[j]? = some z' → (z = z' ↔ i = j) := by
      intro zs z z' hnodup hz hz'
      have hlt : i < zs.length := (List.getElem?_eq_some_iff.mp hz).1
      rw [← List.getElem?_inj hlt hnodup, hz, hz', Option.some_inj]
    rw [hplace hxs hix hjx, hplace hys hiy hjy]

end InPlaceOf

/-! ### Ports with the same names -/

def PortList.SameNames (p q : PortList) : Prop :=
  ∀ d, (p.ports d).map Port.name = (q.ports d).map Port.name

namespace PortList.SameNames

variable {p q : PortList}

lemma length_eq (h : p.SameNames q) (d : Direction) : (p.ports d).length = (q.ports d).length := by
  simpa using congrArg List.length (h d)

lemma length_ids_eq (h : p.SameNames q) (id id' : String) :
    (id :: (p.inputs ++ p.outputs).map Port.id).length =
      (id' :: (q.inputs ++ q.outputs).map Port.id).length := by
  have hin : p.inputs.length = q.inputs.length := h.length_eq .input
  have hout : p.outputs.length = q.outputs.length := h.length_eq .output
  simp [hin, hout]

/-- Ports with the same names are the same ports up to ids. -/
lemma renamed (h : p.SameNames q)
    (hids : List.Forall₂ ρ ((p.inputs ++ p.outputs).map Port.id)
      ((q.inputs ++ q.outputs).map Port.id)) : p.Renamed ρ q := by
  have hports : ∀ {ps qs : List Port}, ps.map Port.name = qs.map Port.name →
      List.Forall₂ ρ (ps.map Port.id) (qs.map Port.id) → List.Forall₂ (Port.Renamed ρ) ps qs := by
    intro ps qs hnames hids
    rw [← List.forall₂_eq_eq_eq, List.forall₂_map_left_iff, List.forall₂_map_right_iff] at hnames
    rw [List.forall₂_map_left_iff, List.forall₂_map_right_iff] at hids
    exact (forall₂_and hids hnames).imp fun _ _ hpq => ⟨hpq.1, hpq.2⟩
  rw [List.map_append, List.map_append] at hids
  have hlength : (p.inputs.map Port.id).length = (q.inputs.map Port.id).length := by
    rw [List.length_map, List.length_map]
    exact h.length_eq .input
  obtain ⟨hins, houts⟩ := forall₂_of_append hids hlength
  exact ⟨hports (h .input) hins, hports (h .output) houts⟩

end PortList.SameNames

namespace VirtualEngine

/-! ### The same things -/

/-- The same things in two engines, added in whatever order, with physical ports and ports of buses
and modules in the same order. Ids of the one engine stand for ids of the other one. -/
structure Reordered (ρ : String → String → Prop) (e e' : VirtualEngine) : Prop where
  mains : e.mains.Renamed ρ e'.mains
  buses : UpToOrder (Bus.Renamed ρ) e.buses e'.buses
  modules : UpToOrder (Module.Renamed ρ) e.modules e'.modules
  connections : UpToOrder (Connection.Renamed ρ) e.connections e'.connections

/-! ### Renaming the ids of one engine to those of the other one -/

variable {name name' : Nat → String} {e e' : VirtualEngine}

/-- The ids of an engine differ from each other and from the empty id, and they can be parts of
addresses. -/
lemma Numbered.nodup_cons (he : e.Numbered name) (hname : Names name) {ids : List String}
    (h : ids.Perm e.ids) : ("" :: ids).Nodup ∧ ∀ id ∈ ids, isOpaque id = true := by
  have hissued : ∀ id ∈ ids, ∃ n, name n = id := by
    intro id hid
    obtain ⟨n, -, hn⟩ := List.mem_map.mp ((h.trans he).subset hid)
    exact ⟨n, hn⟩
  refine ⟨List.nodup_cons.mpr ⟨fun hempty => ?_, ?_⟩, fun id hid => ?_⟩
  · obtain ⟨n, hn⟩ := hissued _ hempty
    exact hname.ne_empty n hn
  · exact h.nodup_iff.mpr (he.ids_nodup fun m n => hname.injective m n)
  · obtain ⟨n, rfl⟩ := hissued id hid
    exact hname.isOpaque n

/-- A compilation leaves an engine whose ids were issued in turn. -/
lemma compile_numbered (g : Graph) (he : e.Numbered name) :
    (compile (engine name) g e).2.Numbered name :=
  compile_keeps (fun r _ h => (engine_next name r _).numbered (h.noted r)) g he

/-- Things of two engines that are related one to one, ports by their places, have ids that are
related by one renaming. -/
theorem exists_renaming (hname : Names name) (hname' : Names name') (he : e.Numbered name)
    (he' : e'.Numbered name')
    (hmains : ∀ d, (e.mains.ports d).length = (e'.mains.ports d).length)
    {R : Bus → Bus → Prop} (hbuses : UpToOrder R e.buses e'.buses)
    (hR : ∀ x y, R x y → x.ports.SameNames y.ports)
    {S : Module → Module → Prop} (hmodules : UpToOrder S e.modules e'.modules)
    (hS : ∀ x y, S x y → x.ports.SameNames y.ports)
    {T : Connection → Connection → Prop}
    (hconnections : UpToOrder T e.connections e'.connections) :
    ∃ ρ, Renaming ρ ∧ e.mains.Renamed ρ e'.mains ∧
      UpToOrder (fun x y => R x y ∧ ρ x.id y.id ∧ x.ports.Renamed ρ y.ports) e.buses e'.buses ∧
      UpToOrder (fun x y => S x y ∧ ρ x.id y.id ∧ x.ports.Renamed ρ y.ports)
        e.modules e'.modules ∧
      UpToOrder (fun x y => T x y ∧ ρ x.id y.id) e.connections e'.connections := by
  obtain ⟨bs, hbs, hbsPerm⟩ := hbuses
  obtain ⟨ms, hms, hmsPerm⟩ := hmodules
  obtain ⟨cs, hcs, hcsPerm⟩ := hconnections
  -- the ids of the second engine, in the order of those of the first one
  let ids' := e'.mains.inputs ++ e'.mains.outputs ++
    (bs.flatMap Bus.allIds ++ ms.flatMap Module.allIds ++ cs.map Connection.id)
  have hperm : ids'.Perm e'.ids :=
    (((hbsPerm.flatMap_right _).append (hmsPerm.flatMap_right _)).append
      (hcsPerm.map _)).append_left _
  obtain ⟨hnodup, hopaque⟩ := he.nodup_cons hname (.refl _)
  obtain ⟨hnodup', hopaque'⟩ := he'.nodup_cons hname' hperm
  have hlengthBus : ∀ x y, R x y → x.allIds.length = y.allIds.length :=
    fun x y hxy => (hR x y hxy).length_ids_eq x.id y.id
  have hlengthModule : ∀ x y, S x y → x.allIds.length = y.allIds.length :=
    fun x y hxy => (hS x y hxy).length_ids_eq x.id y.id
  have hlengthMains := length_append_eq (hmains .input) (hmains .output)
  have hlengthBuses := length_flatMap_eq hbs hlengthBus
  have hlengthThings := length_append_eq hlengthBuses (length_flatMap_eq hms hlengthModule)
  have hlengthConnections : (e.connections.map Connection.id).length =
      (cs.map Connection.id).length := by
    rw [List.length_map, List.length_map, hcs.length_eq]
  have hlength : e.ids.length = ids'.length :=
    length_append_eq hlengthMains (length_append_eq hlengthThings hlengthConnections)
  -- what holds place by place of all ids holds so of those of each thing
  have hids := inPlaceOf_of_length_eq hlength
  obtain ⟨hm, hcontent⟩ := forall₂_of_append hids hlengthMains
  obtain ⟨hin, hout⟩ := forall₂_of_append hm (hmains .input)
  obtain ⟨hthings, hc⟩ := forall₂_of_append hcontent hlengthThings
  obtain ⟨hb, hmod⟩ := forall₂_of_append hthings hlengthBuses
  -- two ids are renamed into each other if they stand at one place of the two lists
  refine ⟨InPlaceOf e.ids ids', inPlaceOf_renaming hnodup hnodup' hopaque hopaque', ⟨hin, hout⟩,
    ⟨bs, ?_, hbsPerm⟩, ⟨ms, ?_, hmsPerm⟩, ⟨cs, ?_, hcsPerm⟩⟩
  · refine (forall₂_of_flatMap hbs hlengthBus hb).imp fun x y hxy => ?_
    obtain ⟨hid, hports⟩ := List.forall₂_cons.mp hxy.2
    exact ⟨hxy.1, hid, (hR x y hxy.1).renamed hports⟩
  · refine (forall₂_of_flatMap hms hlengthModule hmod).imp fun x y hxy => ?_
    obtain ⟨hid, hports⟩ := List.forall₂_cons.mp hxy.2
    exact ⟨hxy.1, hid, (hS x y hxy.1).renamed hports⟩
  · rw [List.forall₂_map_left_iff, List.forall₂_map_right_iff] at hc
    exact forall₂_and hcs hc

end VirtualEngine

end Patchbay
