import Mathlib.Data.List.Flatten
import Mathlib.Data.List.Perm.Basic
import Mathlib.Logic.Function.Iterate
import Patchbay.Proofs.Engine.Growth

/-!
# The virtual engine agrees with itself

The engine keeps the addresses that connections can start and end at beside its tables of buses and
modules. Whatever it is asked, these addresses are those of the things in the tables and of the
physical ports, all connections are between them, buses lie in one another without a cycle, and no
two things share an id.
-/

namespace Patchbay

namespace VirtualEngine

/-! ### What the tables say -/

/-- A connection can start at an address: it is that of a physical input, of a port of a bus, or of
an output of a module. -/
inductive StartsAt (e : VirtualEngine) : String → Prop
  | main {id : String} (hid : id ∈ e.mains.inputs) : StartsAt e id
  | bus {x : Bus} {d : Direction} {p : Port} (hx : x ∈ e.buses) (hp : p ∈ x.ports.ports d) :
      StartsAt e (PortAddress.bus x.id p.id).text
  | module {x : Module} {p : Port} (hx : x ∈ e.modules) (hp : p ∈ x.ports.outputs) :
      StartsAt e (PortAddress.moduleOutput x.bus x.id p.id).text

/-- A connection can end at an address: it is that of a physical output, of a port of a bus, or of
an input of a module. -/
inductive EndsAt (e : VirtualEngine) : String → Prop
  | main {id : String} (hid : id ∈ e.mains.outputs) : EndsAt e id
  | bus {x : Bus} {d : Direction} {p : Port} (hx : x ∈ e.buses) (hp : p ∈ x.ports.ports d) :
      EndsAt e (PortAddress.bus x.id p.id).text
  | module {x : Module} {p : Port} (hx : x ∈ e.modules) (hp : p ∈ x.ports.inputs) :
      EndsAt e (PortAddress.moduleInput x.bus x.id p.id).text

/-- The way from a bus through the buses it lies in leads out of all of them. -/
inductive Rooted (e : VirtualEngine) : String → Prop
  | outside : Rooted e ""
  | bus {x : Bus} (hx : x ∈ e.buses) (hparent : Rooted e x.parent) : Rooted e x.id

/-- The id of the bus that a bus lies in. It is empty if there is none. -/
def parent (e : VirtualEngine) (id : String) : String := ((e.bus? id).map Bus.parent).getD ""

/-- The addresses and connections that an engine keeps are what its tables say. -/
structure Booked (e : VirtualEngine) : Prop where
  sources : ∀ a, a ∈ e.sources ↔ e.StartsAt a
  sinks : ∀ a, a ∈ e.sinks ↔ e.EndsAt a
  connections : ∀ c ∈ e.connections, e.StartsAt c.origin ∧ e.EndsAt c.target
  rooted : ∀ x ∈ e.buses, e.Rooted x.id

variable {name : Nat → String} {e e' : VirtualEngine} {a : String}

/-! ### More in the tables -/

def Bus.addresses (x : Bus) : List String :=
  (x.ports.inputs ++ x.ports.outputs).map fun p => (PortAddress.bus x.id p.id).text

def Module.origins (x : Module) : List String :=
  x.ports.outputs.map fun p => (PortAddress.moduleOutput x.bus x.id p.id).text

def Module.targets (x : Module) : List String :=
  x.ports.inputs.map fun p => (PortAddress.moduleInput x.bus x.id p.id).text

lemma Bus.mem_addresses {x : Bus} :
    a ∈ x.addresses ↔ ∃ d, ∃ p ∈ x.ports.ports d, (PortAddress.bus x.id p.id).text = a := by
  rw [addresses, List.mem_map]
  constructor
  · rintro ⟨p, hp, rfl⟩
    rcases List.mem_append.mp hp with hp | hp
    · exact ⟨.input, p, hp, rfl⟩
    · exact ⟨.output, p, hp, rfl⟩
  · rintro ⟨_ | _, p, hp, rfl⟩
    · exact ⟨p, List.mem_append_left _ hp, rfl⟩
    · exact ⟨p, List.mem_append_right _ hp, rfl⟩

/-- Connections start at physical inputs, at ports of buses, and at outputs of modules. -/
lemma startsAt_iff : e.StartsAt a ↔
    a ∈ e.mains.inputs ∨ a ∈ e.buses.flatMap Bus.addresses ∨
      a ∈ e.modules.flatMap Module.origins := by
  constructor
  · rintro (hid | @⟨x, d, p, hx, hp⟩ | @⟨x, p, hx, hp⟩)
    · exact .inl hid
    · exact .inr (.inl (List.mem_flatMap.mpr ⟨x, hx, Bus.mem_addresses.mpr ⟨d, p, hp, rfl⟩⟩))
    · exact .inr (.inr (List.mem_flatMap.mpr ⟨x, hx, List.mem_map_of_mem hp⟩))
  · rintro (hid | ha | ha)
    · exact .main hid
    · obtain ⟨x, hx, ha⟩ := List.mem_flatMap.mp ha
      obtain ⟨d, p, hp, rfl⟩ := Bus.mem_addresses.mp ha
      exact .bus hx hp
    · obtain ⟨x, hx, ha⟩ := List.mem_flatMap.mp ha
      obtain ⟨p, hp, rfl⟩ := List.mem_map.mp ha
      exact .module hx hp

/-- Connections end at physical outputs, at ports of buses, and at inputs of modules. -/
lemma endsAt_iff : e.EndsAt a ↔
    a ∈ e.mains.outputs ∨ a ∈ e.buses.flatMap Bus.addresses ∨
      a ∈ e.modules.flatMap Module.targets := by
  constructor
  · rintro (hid | @⟨x, d, p, hx, hp⟩ | @⟨x, p, hx, hp⟩)
    · exact .inl hid
    · exact .inr (.inl (List.mem_flatMap.mpr ⟨x, hx, Bus.mem_addresses.mpr ⟨d, p, hp, rfl⟩⟩))
    · exact .inr (.inr (List.mem_flatMap.mpr ⟨x, hx, List.mem_map_of_mem hp⟩))
  · rintro (hid | ha | ha)
    · exact .main hid
    · obtain ⟨x, hx, ha⟩ := List.mem_flatMap.mp ha
      obtain ⟨d, p, hp, rfl⟩ := Bus.mem_addresses.mp ha
      exact .bus hx hp
    · obtain ⟨x, hx, ha⟩ := List.mem_flatMap.mp ha
      obtain ⟨p, hp, rfl⟩ := List.mem_map.mp ha
      exact .module hx hp

/-- One bus more. -/
lemma ends_iff_of_bus {x : Bus} (hmains : e'.mains = e.mains) (hbuses : e'.buses = e.buses ++ [x])
    (hmodules : e'.modules = e.modules) :
    (e'.StartsAt a ↔ e.StartsAt a ∨ a ∈ x.addresses) ∧
      (e'.EndsAt a ↔ e.EndsAt a ∨ a ∈ x.addresses) := by
  simp only [startsAt_iff, endsAt_iff, hmains, hbuses, hmodules, List.flatMap_append,
    List.flatMap_singleton, List.mem_append]
  exact ⟨by tauto, by tauto⟩

/-- One module more. -/
lemma ends_iff_of_module {x : Module} (hmains : e'.mains = e.mains) (hbuses : e'.buses = e.buses)
    (hmodules : e'.modules = e.modules ++ [x]) :
    (e'.StartsAt a ↔ e.StartsAt a ∨ a ∈ x.origins) ∧
      (e'.EndsAt a ↔ e.EndsAt a ∨ a ∈ x.targets) := by
  simp only [startsAt_iff, endsAt_iff, hmains, hbuses, hmodules, List.flatMap_append,
    List.flatMap_singleton, List.mem_append, or_assoc, and_self]

/-- A bus stays where it is when others come. -/
lemma Rooted.mono {id : String} (hbuses : e.buses ⊆ e'.buses) (h : e.Rooted id) :
    e'.Rooted id := by
  induction h with
  | outside => exact .outside
  | bus hx _ ih => exact .bus (hbuses hx) ih

/-! ### One request -/

namespace Booked

/-- What can hold something is a bus that lies in others up to the outermost one, or is none at all.
-/
lemma rooted_of_canHold {bus : String} (he : e.Booked) (h : e.canHold bus = true) :
    e.Rooted bus := by
  rcases canHold_iff.mp h with rfl | ⟨x, hx, rfl⟩
  · exact .outside
  · exact he.rooted x hx

/-- Every connection is between addresses that the engine keeps. -/
lemma connection_known (he : e.Booked) {c : Connection} (hc : c ∈ e.connections) :
    c.origin ∈ e.sources ∧ c.target ∈ e.sinks :=
  ⟨(he.sources _).mpr (he.connections c hc).1, (he.sinks _).mpr (he.connections c hc).2⟩

/-- The books are right after more is put into the tables, if the addresses of this are put to the
others, and all connections were made before. -/
lemma extend (he : e.Booked) {origins targets : List String}
    (hsources : e'.sources = e.sources ++ origins) (hsinks : e'.sinks = e.sinks ++ targets)
    (hends : ∀ a, (e'.StartsAt a ↔ e.StartsAt a ∨ a ∈ origins) ∧
      (e'.EndsAt a ↔ e.EndsAt a ∨ a ∈ targets))
    (hconnections : ∀ c ∈ e'.connections, c.origin ∈ e.sources ∧ c.target ∈ e.sinks)
    (hrooted : ∀ x ∈ e'.buses, e'.Rooted x.id) : e'.Booked where
  sources a := by rw [hsources, List.mem_append, he.sources, (hends a).1]
  sinks a := by rw [hsinks, List.mem_append, he.sinks, (hends a).2]
  connections c hc := by
    obtain ⟨ho, ht⟩ := hconnections c hc
    exact ⟨(hends _).1.mpr (.inl ((he.sources _).mp ho)),
      (hends _).2.mpr (.inl ((he.sinks _).mp ht))⟩
  rooted := hrooted

/-- One bus more. -/
lemma addBus (he : e.Booked) {x : Bus} (hmains : e'.mains = e.mains)
    (hbuses : e'.buses = e.buses ++ [x]) (hmodules : e'.modules = e.modules)
    (hconnections : e'.connections = e.connections)
    (hsources : e'.sources = e.sources ++ x.addresses) (hsinks : e'.sinks = e.sinks ++ x.addresses)
    (hparent : e.canHold x.parent = true) : e'.Booked := by
  have hmore : e.buses ⊆ e'.buses := hbuses ▸ List.subset_append_left _ _
  refine he.extend hsources hsinks (fun a => ends_iff_of_bus hmains hbuses hmodules)
    (fun c hc => he.connection_known (hconnections ▸ hc)) ?_
  rw [hbuses]
  refine forall_mem_concat (fun y hy => (he.rooted y hy).mono hmore) (.bus ?_ ?_)
  · rw [hbuses]
    exact List.mem_append_right _ (List.mem_singleton_self x)
  · exact (he.rooted_of_canHold hparent).mono hmore

/-- One module more. -/
lemma addModule (he : e.Booked) {x : Module} (hmains : e'.mains = e.mains)
    (hbuses : e'.buses = e.buses) (hmodules : e'.modules = e.modules ++ [x])
    (hconnections : e'.connections = e.connections)
    (hsources : e'.sources = e.sources ++ x.origins) (hsinks : e'.sinks = e.sinks ++ x.targets) :
    e'.Booked := by
  refine he.extend hsources hsinks (fun a => ends_iff_of_module hmains hbuses hmodules)
    (fun c hc => he.connection_known (hconnections ▸ hc)) fun y hy => ?_
  exact (he.rooted y (hbuses ▸ hy)).mono (hbuses ▸ List.Subset.refl _)

/-- Only other connections. -/
lemma connect (he : e.Booked) (hmains : e'.mains = e.mains) (hbuses : e'.buses = e.buses)
    (hmodules : e'.modules = e.modules) (hsources : e'.sources = e.sources)
    (hsinks : e'.sinks = e.sinks)
    (hconnections : ∀ c ∈ e'.connections, c.origin ∈ e.sources ∧ c.target ∈ e.sinks) :
    e'.Booked := by
  rw [← List.append_nil e.sources] at hsources
  rw [← List.append_nil e.sinks] at hsinks
  refine he.extend hsources hsinks (fun a => ?_) hconnections fun x hx => ?_
  · simp [startsAt_iff, endsAt_iff, hmains, hbuses, hmodules]
  · exact (he.rooted x (hbuses ▸ hx)).mono (hbuses ▸ List.Subset.refl _)

lemma noted (he : e.Booked) (r : Request) : (e.noted r).Booked :=
  he.connect rfl rfl rfl rfl rfl fun _ hc => he.connection_known hc

end Booked

/-- A request leaves the engine with addresses that are those of its things. -/
lemma Next.booked (h : Next name e e') (he : e.Booked) : e'.Booked := by
  cases h with
  | same => exact he
  | bus parent title inputs outputs hparent => exact he.addBus rfl rfl rfl rfl rfl rfl hparent
  | module bus spec hbus => exact he.addModule rfl rfl rfl rfl rfl rfl
  | connection origin target horigin htarget =>
    refine he.connect rfl rfl rfl rfl rfl ?_
    exact forall_mem_concat (fun c hc => he.connection_known hc) ⟨horigin, htarget⟩

lemma new_booked (name : Nat → String) (inputs outputs : Nat) (failing : List String) :
    (new name inputs outputs failing).Booked where
  sources a := by simp [startsAt_iff, new, PortAddress.text]
  sinks a := by simp [endsAt_iff, new, PortAddress.text]
  connections := by simp [new]
  rooted := by simp [new]

/-! ### Ids -/

/-- The ids of an engine are the texts of the numbers that it has used. -/
def Numbered (name : Nat → String) (e : VirtualEngine) : Prop :=
  e.ids.Perm ((List.range e.issued).map name)

/-- Ports are given ids one after the other. -/
lemma ids_portsFrom (start : Nat) (names : List String) :
    (portsFrom name start names).map Port.id = (List.range' start names.length).map name := by
  rw [portsFrom, List.map_zipWith]
  simp only [idsFrom]
  apply List.ext_getElem <;> simp

/-- What is made next has the numbers that come next. -/
lemma ids_next (name : Nat → String) (first : Nat) (inputs outputs : List String) :
    name first :: (portsFrom name (first + 1) inputs ++
      portsFrom name (first + 1 + inputs.length) outputs).map Port.id =
      (List.range' first (1 + inputs.length + outputs.length)).map name := by
  rw [List.map_append, ids_portsFrom, ids_portsFrom, ← List.map_append, List.range'_append_1,
    Nat.add_assoc 1, Nat.add_comm 1, List.range'_succ, List.map_cons]

lemma Content.ids_append_perm (c d : Content) : (c.append d).ids.Perm (c.ids ++ d.ids) := by
  refine List.perm_iff_count.mpr fun id => ?_
  simp only [ids, append, List.flatMap_append, List.map_append, List.count_append]
  omega

namespace Numbered

/-- More is put in, with the numbers that come next. -/
lemma add (he : e.Numbered name) {added : Content} {n : Nat} (hmains : e'.mains = e.mains)
    (hcontent : e'.content = e.content.append added) (hissued : e'.issued = e.issued + n)
    (hadded : added.ids = (List.range' e.issued n).map name) : e'.Numbered name := by
  have hrange : List.range (e.issued + n) = List.range e.issued ++ List.range' e.issued n := by
    rw [List.range_eq_range', List.range_eq_range', ← List.range'_append_1, Nat.zero_add]
  have hids : e'.ids = e.mains.inputs ++ e.mains.outputs ++ (e.content.append added).ids := by
    rw [ids, hmains, hcontent]
  rw [Numbered, hids, hissued, hrange, List.map_append, ← hadded]
  refine ((e.content.ids_append_perm added).append_left _).trans ?_
  rw [← List.append_assoc]
  exact List.Perm.append_right _ he

lemma noted (he : e.Numbered name) (r : Request) : (e.noted r).Numbered name := he

/-- Ids with different texts differ. -/
lemma ids_nodup (he : e.Numbered name) (hname : Function.Injective name) : e.ids.Nodup :=
  he.nodup_iff.mpr (List.nodup_range.map hname)

end Numbered

/-- A request leaves the engine with ids that were issued in turn. -/
lemma Next.numbered (h : Next name e e') (he : e.Numbered name) : e'.Numbered name := by
  cases h with
  | same => exact he
  | bus parent title inputs outputs hparent =>
    refine he.add rfl (content_putBus e parent title inputs outputs) ?_ (.trans ?_
      (ids_next name e.issued (Text.splitNames inputs) (Text.splitNames outputs)))
    · simp only [putBus, length_portsFrom]
      omega
    · simp [Content.ids, Bus.allIds, nextBus]
  | module bus spec hbus =>
    refine he.add rfl (content_putModule e bus spec) ?_ (.trans ?_
      (ids_next name e.issued spec.type.inputNames spec.type.outputNames))
    · simp only [putModule, length_portsFrom]
      omega
    · simp [Content.ids, Module.allIds, nextModule]
  | connection origin target horigin htarget =>
    exact he.add rfl (content_putConnection e origin target) rfl rfl

lemma new_numbered (name : Nat → String) (inputs outputs : Nat) (failing : List String) :
    (new name inputs outputs failing).Numbered name := by
  have hids : (new name inputs outputs failing).ids
      = (List.range' 0 inputs ++ List.range' (0 + inputs) outputs).map name := by
    simp [ids, content, Content.ids, new]
  rw [Numbered, hids, List.range'_append_1, ← List.range_eq_range']
  rfl

/-! ### Every request -/

/-- The answers, the tables and the ids of an engine fit together. -/
structure Consistent (name : Nat → String) (e : VirtualEngine) : Prop where
  /-- Connections start at the physical inputs, all ports of buses, and the outputs of modules. -/
  sources_iff : ∀ a, a ∈ e.sources ↔ e.StartsAt a
  /-- They end at the physical outputs, all ports of buses, and the inputs of modules. -/
  sinks_iff : ∀ a, a ∈ e.sinks ↔ e.EndsAt a
  /-- Just these connections can be made, if making them is not set to fail. -/
  connects : "add_connection" ∉ e.failing → ∀ origin target, e.StartsAt origin → e.EndsAt target →
    (engine name (.addConnection origin target) e).1 = .ok (name e.issued)
  unknown_origin : "add_connection" ∉ e.failing → ∀ origin target, ¬ e.StartsAt origin →
    (engine name (.addConnection origin target) e).1
      = .error (.rejected "add_connection" ("unknown origin port " ++ origin))
  unknown_target : "add_connection" ∉ e.failing → ∀ origin target, e.StartsAt origin →
    ¬ e.EndsAt target → (engine name (.addConnection origin target) e).1
      = .error (.rejected "add_connection" ("unknown target port " ++ target))
  /-- Just these were made. -/
  connections : ∀ c ∈ e.connections, e.StartsAt c.origin ∧ e.EndsAt c.target
  /-- All buses and modules lie in buses that exist, or in none. -/
  bus_placed : ∀ x ∈ e.buses, x.parent = "" ∨ ∃ y ∈ e.buses, y.id = x.parent
  module_placed : ∀ x ∈ e.modules, x.bus = "" ∨ ∃ y ∈ e.buses, y.id = x.bus
  /-- From parent to parent every bus is left in the end. -/
  rooted : ∀ x ∈ e.buses, ∃ n, e.parent^[n] x.id = ""
  /-- No two things have the same id. -/
  ids_nodup : e.ids.Nodup

lemma bus_ids_nodup (h : e.ids.Nodup) : (e.buses.map Bus.id).Nodup := by
  have hflat : (e.buses.flatMap Bus.allIds).Nodup :=
    ((h.sublist (List.sublist_append_right _ _)).sublist (List.sublist_append_left _ _)).sublist
      (List.sublist_append_left _ _)
  refine hflat.sublist ?_
  rw [List.map_eq_flatMap]
  exact List.Sublist.flatMap_right _ fun x _ =>
    List.Sublist.cons_cons x.id (List.nil_sublist _)

/-- Where ids differ, a way out of all buses is followed from parent to parent. -/
lemma Rooted.exists_iterate (h : e.ids.Nodup) {id : String} (hid : e.Rooted id) :
    ∃ n, e.parent^[n] id = "" := by
  induction hid with
  | outside => exact ⟨0, rfl⟩
  | @bus x hx _ ih =>
    obtain ⟨n, hn⟩ := ih
    have hparent : e.parent x.id = x.parent := by
      rw [parent, bus?, find?_of_nodup_map (bus_ids_nodup h) hx]
      rfl
    exact ⟨n + 1, by rw [Function.iterate_succ_apply, hparent, hn]⟩

/-- What is known of the addresses, the places and the ids makes up the whole. -/
lemma Booked.consistent (he : e.Booked) (hplaced : e.Placed) (hids : e.ids.Nodup) :
    e.Consistent name where
  sources_iff := he.sources
  sinks_iff := he.sinks
  connects hfail origin target ho ht := by
    have hsource := (he.sources origin).mpr ho
    have hsink := (he.sinks target).mpr ht
    rw [engine_of_not_failing hfail]
    simp [respond, VirtualEngine.noted, hsource, hsink]
  unknown_origin hfail origin target ho := by
    have hsource := mt (he.sources origin).mp ho
    rw [engine_of_not_failing hfail]
    simp [respond, VirtualEngine.noted, hsource]
  unknown_target hfail origin target ho ht := by
    have hsource := (he.sources origin).mpr ho
    have hsink := mt (he.sinks target).mp ht
    rw [engine_of_not_failing hfail]
    simp [respond, VirtualEngine.noted, hsource, hsink]
  connections := he.connections
  bus_placed x hx := canHold_iff.mp (hplaced.buses x hx)
  module_placed x hx := canHold_iff.mp (hplaced.modules x hx)
  rooted x hx := (he.rooted x hx).exists_iterate hids
  ids_nodup := hids

/-- Whatever an engine is asked, one request after the other, it agrees with itself, and it has
recorded just these requests. -/
theorem replay_consistent (hname : Function.Injective name) (inputs outputs : Nat)
    (failing : List String) (requests : List Request) :
    Consistent name ((engine name).replay requests (new name inputs outputs failing)) ∧
      ((engine name).replay requests (new name inputs outputs failing)).calls = requests := by
  refine ⟨?_, replay_calls requests rfl⟩
  obtain ⟨hbooked, hnumbered⟩ :
      ((engine name).replay requests (new name inputs outputs failing)).Booked ∧
        ((engine name).replay requests (new name inputs outputs failing)).Numbered name := by
    induction requests using List.reverseRecOn with
    | nil =>
      exact ⟨new_booked name inputs outputs failing, new_numbered name inputs outputs failing⟩
    | append_singleton requests r ih =>
      rw [Engine.replay_concat]
      have hnext := engine_next name r
        ((engine name).replay requests (new name inputs outputs failing))
      exact ⟨hnext.booked (ih.1.noted r), hnext.numbered (ih.2.noted r)⟩
  exact hbooked.consistent (replay_placed requests ⟨nofun, nofun⟩) (hnumbered.ids_nodup hname)

/-- A bus is made, and a physical input is connected to it; a bus inside of one that does not exist
is refused. -/
theorem oneBus_consistent :
    let requests : List Request :=
      [.addBus "" "echo" "in" "out", .addBus (numberedId 9) "lost" "" "",
        .addConnection (numberedId 0) (PortAddress.bus (numberedId 2) (numberedId 3)).text]
    let e := (engine numberedId).replay requests (new numberedId 1 1 ["list_main"])
    Function.Injective numberedId ∧ e.buses.length = 1 ∧ e.connections.length = 1 ∧
      Consistent numberedId e ∧ e.calls = requests :=
  ⟨fun m n h => numberedId_distinct.injective m n h, by decide, by decide,
    replay_consistent (fun m n h => numberedId_distinct.injective m n h) 1 1 ["list_main"] _⟩

end VirtualEngine

end Patchbay
