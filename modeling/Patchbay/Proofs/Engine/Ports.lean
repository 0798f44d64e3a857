import Patchbay.Proofs.Address
import Patchbay.Proofs.Engine.Frame

/-!
# Ports are told apart by their addresses

The engine knows the ports that can be connected by the texts of their addresses, and by nothing
else. As its ids hold no separator, no two ports have the same text, and the text of an address is
known if and only if a port has this address.
-/

namespace Patchbay

namespace VirtualEngine

variable {name : Nat → String} {e : VirtualEngine}

/-! ### The addresses of ports -/

def Bus.portAddresses (x : Bus) : List PortAddress :=
  (x.ports.inputs ++ x.ports.outputs).map fun p => .bus x.id p.id

def Module.portAddresses (x : Module) : LinkEnd → List PortAddress
  | .origin => x.ports.outputs.map fun p => .moduleOutput x.bus x.id p.id
  | .target => x.ports.inputs.map fun p => .moduleInput x.bus x.id p.id

/-- The physical ports that a connection can have at an end: it starts at an input. -/
def mainsAt (e : VirtualEngine) : LinkEnd → List String
  | .origin => e.mains.inputs
  | .target => e.mains.outputs

/-- The addresses of all ports that a connection can have at an end. -/
def portsAt (e : VirtualEngine) (side : LinkEnd) : List PortAddress :=
  (e.mainsAt side).map .main ++
    (e.buses.flatMap Bus.portAddresses ++ e.modules.flatMap fun x => x.portAddresses side)

/-- The texts that the engine keeps for an end. -/
def textsAt (e : VirtualEngine) : LinkEnd → List String
  | .origin => e.sources
  | .target => e.sinks

/-! ### Their texts -/

@[simp] lemma Bus.map_text_portAddresses (x : Bus) :
    x.portAddresses.map PortAddress.text = x.addresses := by
  rw [portAddresses, List.map_map]
  rfl

@[simp] lemma Module.map_text_portAddresses_origin (x : Module) :
    (x.portAddresses .origin).map PortAddress.text = x.origins := by
  rw [portAddresses, List.map_map]
  rfl

@[simp] lemma Module.map_text_portAddresses_target (x : Module) :
    (x.portAddresses .target).map PortAddress.text = x.targets := by
  rw [portAddresses, List.map_map]
  rfl

lemma map_text_main (ids : List String) :
    (ids.map PortAddress.main).map PortAddress.text = ids := by
  rw [List.map_map]
  exact List.map_id ids

/-- The texts that an engine keeps for an end are those of ports. -/
lemma Booked.mem_textsAt_iff (he : e.Booked) (side : LinkEnd) {text : String} :
    text ∈ e.textsAt side ↔ text ∈ (e.portsAt side).map PortAddress.text := by
  rw [portsAt, List.map_append, map_text_main, List.map_append, List.map_flatMap, List.map_flatMap,
    List.mem_append, List.mem_append]
  cases side with
  | origin => simpa [textsAt, mainsAt] using (he.sources text).trans startsAt_iff
  | target => simpa [textsAt, mainsAt] using (he.sinks text).trans endsAt_iff

/-! ### Their ids -/

/-- All ids that were issued can be a part of an address. -/
lemma Numbered.isOpaque_of_mem (he : e.Numbered name) (hname : Distinct name) {id : String}
    (hid : id ∈ e.ids) : isOpaque id = true := by
  obtain ⟨n, -, rfl⟩ := List.mem_map.mp (he.subset hid)
  exact hname.isOpaque n

lemma mainsAt_sublist (e : VirtualEngine) (side : LinkEnd) :
    (e.mainsAt side).Sublist (e.mains.inputs ++ e.mains.outputs) := by
  cases side with
  | origin => exact List.sublist_append_left _ _
  | target => exact List.sublist_append_right _ _

lemma Bus.map_port_portAddresses_sublist (x : Bus) :
    (x.portAddresses.map PortAddress.port).Sublist x.allIds := by
  rw [portAddresses, List.map_map]
  exact List.sublist_cons_self _ _

lemma Module.map_port_portAddresses_sublist (x : Module) (side : LinkEnd) :
    ((x.portAddresses side).map PortAddress.port).Sublist x.allIds := by
  refine List.Sublist.trans ?_ (List.sublist_cons_self _ _)
  rw [List.map_append]
  cases side with
  | origin =>
    rw [portAddresses, List.map_map]
    exact List.sublist_append_right _ _
  | target =>
    rw [portAddresses, List.map_map]
    exact List.sublist_append_left _ _

/-- Each port has an id of its own. -/
lemma map_port_portsAt_sublist (e : VirtualEngine) (side : LinkEnd) :
    ((e.portsAt side).map PortAddress.port).Sublist e.ids := by
  have hmains : (((e.mainsAt side).map .main).map PortAddress.port) = e.mainsAt side := by
    rw [List.map_map]
    exact List.map_id _
  rw [portsAt, List.map_append, hmains, List.map_append, List.map_flatMap, List.map_flatMap]
  refine (e.mainsAt_sublist side).append (List.Sublist.trans ?_ (List.sublist_append_left _ _))
  exact List.Sublist.append
    (List.Sublist.flatMap_right _ fun x _ => x.map_port_portAddresses_sublist)
    (List.Sublist.flatMap_right _ fun x _ => x.map_port_portAddresses_sublist side)

/-- The address of a port of a bus can be taken apart, since the ids in it hold no separator. -/
lemma Bus.separable (x : Bus) (h : ∀ id ∈ x.allIds, Patchbay.isOpaque id = true) :
    ∀ a ∈ x.portAddresses, a.Separable := by
  intro a ha
  obtain ⟨p, hp, rfl⟩ := List.mem_map.mp ha
  have hown := h x.id List.mem_cons_self
  have hport := h p.id (List.mem_cons_of_mem _ (List.mem_map_of_mem hp))
  exact PortAddress.separable_bus_iff.mpr ⟨hown, hport⟩

lemma Module.separable (x : Module) (hbus : Patchbay.isOpaque x.bus = true)
    (h : ∀ id ∈ x.allIds, Patchbay.isOpaque id = true) (side : LinkEnd) :
    ∀ a ∈ x.portAddresses side, a.Separable := by
  intro a ha
  have hown := h x.id List.mem_cons_self
  have hport : ∀ p ∈ x.ports.inputs ++ x.ports.outputs, Patchbay.isOpaque p.id = true :=
    fun p hp => h p.id (List.mem_cons_of_mem _ (List.mem_map_of_mem hp))
  cases side with
  | origin =>
    obtain ⟨p, hp, rfl⟩ := List.mem_map.mp ha
    exact PortAddress.separable_moduleOutput_iff.mpr
      ⟨hbus, hown, hport p (List.mem_append_right _ hp)⟩
  | target =>
    obtain ⟨p, hp, rfl⟩ := List.mem_map.mp ha
    exact PortAddress.separable_moduleInput_iff.mpr
      ⟨hbus, hown, hport p (List.mem_append_left _ hp)⟩

section Opaque

variable (hplaced : e.Placed) (hids : ∀ id ∈ e.content.ids, Patchbay.isOpaque id = true)
include hplaced hids

/-- A module is in a bus that is there, or in the one without a name. -/
lemma isOpaque_bus : ∀ x ∈ e.modules, Patchbay.isOpaque x.bus = true := by
  intro x hx
  rcases canHold_iff.mp (hplaced.modules x hx) with hempty | ⟨y, hy, hid⟩
  · rw [hempty]
    decide
  · exact hid ▸ hids y.id (Content.mem_ids_of_bus (c := e.content) hy List.mem_cons_self)

/-- The addresses of all ports of buses and modules are separable, if all ids are. -/
lemma separable_of_isOpaque {a : PortAddress} (ha : a ∈ e.buses.flatMap Bus.portAddresses ∨
    ∃ side, a ∈ e.modules.flatMap fun x => x.portAddresses side) : a.Separable := by
  rcases ha with ha | ⟨side, ha⟩
  · obtain ⟨x, hx, ha⟩ := List.mem_flatMap.mp ha
    exact x.separable (fun id hid => hids id (Content.mem_ids_of_bus hx hid)) a ha
  · obtain ⟨x, hx, ha⟩ := List.mem_flatMap.mp ha
    exact x.separable (isOpaque_bus hplaced hids x hx)
      (fun id hid => hids id (Content.mem_ids_of_module hx hid)) side a ha

end Opaque

/-! ### All ports -/

/-- Over the texts that an engine keeps for an end of a connection, ports are not mixed up. -/
structure KeepsApart (e : VirtualEngine) (side : LinkEnd) : Prop where
  /-- The texts are those of the ports. -/
  mem_textsAt_iff : ∀ text, text ∈ e.textsAt side ↔ ∃ a ∈ e.portsAt side, a.text = text
  /-- An address is known if and only if it is that of a port. -/
  text_mem_iff : ∀ a : PortAddress, a.Separable → (a.text ∈ e.textsAt side ↔ a ∈ e.portsAt side)
  /-- No two ports have the same text. -/
  texts_nodup : ((e.portsAt side).map PortAddress.text).Nodup

/-- In an engine that can be reached all addresses can be taken apart. -/
lemma Reachable.separable (he : Reachable name e) (hname : Distinct name) (side : LinkEnd) :
    ∀ a ∈ e.portsAt side, a.Separable := by
  intro a ha
  have hids : ∀ id ∈ e.ids, Patchbay.isOpaque id = true :=
    fun id => he.numbered.isOpaque_of_mem hname
  rcases List.mem_append.mp ha with ha | ha
  · obtain ⟨p, hp, rfl⟩ := List.mem_map.mp ha
    have hport := hids p (List.mem_append_left _ ((e.mainsAt_sublist side).subset hp))
    exact PortAddress.separable_main_iff.mpr hport
  · refine separable_of_isOpaque he.placed (fun id hid => hids id (List.mem_append_right _ hid)) ?_
    exact (List.mem_append.mp ha).imp id fun h => ⟨side, h⟩

/-- No id of a port is used twice, and ids can be read off texts, so no two addresses have one text.
-/
lemma Reachable.keepsApart (he : Reachable name e) (hname : Distinct name) (side : LinkEnd) :
    e.KeepsApart side where
  mem_textsAt_iff text := (he.booked.mem_textsAt_iff side).trans List.mem_map
  text_mem_iff a ha := by
    rw [he.booked.mem_textsAt_iff side, List.mem_map]
    constructor
    · rintro ⟨b, hb, htext⟩
      rwa [← PortAddress.text_injective (he.separable hname side b hb) ha htext]
    · intro h
      exact ⟨a, h, rfl⟩
  texts_nodup := by
    have hids : e.ids.Nodup := he.numbered.ids_nodup hname.injective
    have hports : (e.portsAt side).Nodup :=
      .of_map _ (hids.sublist (e.map_port_portsAt_sublist side))
    refine hports.map_on fun a ha b hb htext => ?_
    exact PortAddress.text_injective (he.separable hname side a ha) (he.separable hname side b hb)
      htext

/-- Composed addresses are told apart by their texts, from each other and from physical ports. So an
engine never mixes up two ports, whatever it was asked. -/
theorem addresses_toldApart :
    (∀ a : PortAddress, a.Composed → a.Separable → a.ToldApart) ∧
      ∀ name e, Distinct name → Reachable name e → ∀ side, e.KeepsApart side :=
  ⟨fun _ ha hids => ha.toldApart hids, fun _ _ hname he side => he.keepsApart hname side⟩

/-- An input of a module outside of all buses, with a slash in its id and none for the port; and an
engine in which a bus was made. -/
theorem slashedInput_toldApart :
    let a : PortAddress := .moduleInput "" "/m" ""
    let e := (engine numberedId (.addBus "" "echo" "in" "out") (new numberedId 1 1 [])).2
    a.Composed ∧ a.Separable ∧ a.ToldApart ∧ Distinct numberedId ∧ Reachable numberedId e ∧
      .bus (numberedId 2) (numberedId 4) ∈ e.portsAt .target ∧ ∀ side, e.KeepsApart side := by
  intro a e
  have hids : a.Separable := PortAddress.separable_moduleInput_iff.mpr (by decide)
  have hreached : Reachable numberedId e := .asked _ (.new 1 1)
  exact ⟨trivial, hids, addresses_toldApart.1 a trivial hids, numberedId_distinct, hreached,
    by decide, addresses_toldApart.2 numberedId e numberedId_distinct hreached⟩

end VirtualEngine

end Patchbay
