import Patchbay.Proofs.Compile.Reordered
import Patchbay.Proofs.Engine.Reordered

/-!
# The order of a document does not matter

A document with its nodes and links in another order is built in the same way: where the one can be
built in a virtual engine, so can the other one. The two engines then hold the same, up to the order
in which they were asked for it and the ids that they issued, and the reports say the same.
-/

namespace Patchbay

open VirtualEngine (Bus Module)

variable {g g' : Graph} {l l' : Level} {v v' : GraphNode} {k k' : GraphLink} {π : Nat → Nat}
  {ρ : String → String → Prop}

/-! ### What is assigned to nodes at the same place -/

section Assignments

variable {α : Type} {p : NodeKind → Bool} {f f' : NodeKey → α} {xs ys : List α}

/-- The nodes of one kind are the same in both graphs, up to the order of the visits. -/
lemma Graph.Twin.visited_related (h : g.Twin g') (hg : g.WellFormed) (hg' : g'.WellFormed)
    (p : NodeKind → Bool) :
    UpToOrder (fun v v' => g.SameNode g' v.1 v.2 v'.1 v'.2) (visited p g.steps)
      (visited p g'.steps) := by
  refine (h.steps_related hg hg').filterMap fun t _ t' _ ht => ?_
  cases ht with
  | enter | connect => exact .none
  | visit hv =>
    rw [BuildStep.node?, BuildStep.node?, hv.twin.kind]
    split_ifs
    · exact .some hv
    · exact .none

/-- The links that are kept are the same in both graphs, up to their order. -/
lemma Graph.Twin.keptLinks_related (h : g.Twin g') (hg : g.WellFormed) (hg' : g'.WellFormed) :
    UpToOrder (fun k k' => g.SameLink g' k.1 k.2 k'.1 k'.2) (keptLinks g.steps)
      (keptLinks g'.steps) := by
  have hlinks : UpToOrder (fun k k' => g.SameLink g' k.1 k.2 k'.1 k'.2)
      (g.steps.filterMap BuildStep.link?) (g'.steps.filterMap BuildStep.link?) := by
    refine (h.steps_related hg hg').filterMap fun t _ t' _ ht => ?_
    cases ht with
    | enter | visit => exact .none
    | connect hk => exact .some hk
  exact hlinks.filter fun k _ k' _ hk =>
    decide_eq_decide.mpr (not_congr (hk.leavesOut_iff hg hg' h))

def Graph.keysOf (g : Graph) (p : NodeKind → Bool) : Set NodeKey :=
  {key | ∃ l ∈ g.levels, ∃ v ∈ l.nodes, v.key = key ∧ p v.kind = true}

/-- Two things are assigned to a node and to the node at its place. -/
def AtSameNode (g g' : Graph) (p : NodeKind → Bool) (f f' : NodeKey → α) (x y : α) : Prop :=
  ∃ l v l' v', g.SameNode g' l v l' v' ∧ p v.kind = true ∧ x = f v.key ∧ y = f' v'.key

/-- What the nodes are assigned to is all there is, each once. -/
lemma visited_map_perm (hg : g.WellFormed) (hf : Set.BijOn f (g.keysOf p) {x | x ∈ xs})
    (hxs : xs.Nodup) : ((visited p g.steps).map fun v => f v.2.key).Perm xs := by
  refine perm_map_of_bijOn (s := g.keysOf p) (fun key => ?_) (visited_keys_nodup hg p) hf hxs
  exact exists_visited_iff.symm

/-- Things that are assigned to the nodes of two graphs are related by the places of the nodes. -/
lemma Graph.Twin.assigned_related (h : g.Twin g') (hg : g.WellFormed) (hg' : g'.WellFormed)
    (hf : Set.BijOn f (g.keysOf p) {x | x ∈ xs}) (hf' : Set.BijOn f' (g'.keysOf p) {y | y ∈ ys})
    (hxs : xs.Nodup) (hys : ys.Nodup) : UpToOrder (AtSameNode g g' p f f') xs ys := by
  have hmap : UpToOrder (AtSameNode g g' p f f') ((visited p g.steps).map fun v => f v.2.key)
      ((visited p g'.steps).map fun v => f' v.2.key) := by
    refine (h.visited_related hg hg' p).map fun v hv v' _ hvv' => ?_
    exact ⟨_, _, _, _, hvv', (mem_visited.mp hv).2, rfl, rfl⟩
  exact (hmap.perm_left (visited_map_perm hg hf hxs).symm).perm_right
    (visited_map_perm hg' hf' hys)

/-- What is known of things at the same place holds of the ones that are assigned to these nodes. -/
lemma Graph.SameNode.of_assigned {Q : α → α → Prop} (hv : g.SameNode g' l v l' v')
    (hg : g.WellFormed) (hg' : g'.WellFormed) (hp : p v.kind = true)
    (hf : Set.BijOn f (g.keysOf p) {x | x ∈ xs})
    (h : UpToOrder (fun x y => AtSameNode g g' p f f' x y ∧ Q x y) xs ys) :
    Q (f v.key) (f' v'.key) := by
  have hkey : v.key ∈ g.keysOf p := ⟨l, hv.place.mem, v, hv.mem, rfl, hp⟩
  obtain ⟨y, -, ⟨m, w, m', w', hw, hpw, hx, rfl⟩, hQ⟩ := h.exists_right (hf.mapsTo hkey)
  have hsame := hf.injOn hkey ⟨m, hw.place.mem, w, hw.mem, rfl, hpw⟩ hx
  obtain ⟨rfl, rfl⟩ := hg.node_unique hv.place.mem hw.place.mem hv.mem hw.mem hsame
  obtain ⟨rfl, rfl⟩ := hv.right_unique hg hg' hw
  exact hQ

end Assignments

/-! ### Addresses at the same place -/

lemma PortList.Renamed.ports {p q : PortList} (h : p.Renamed ρ q) (d : Direction) :
    List.Forall₂ (Port.Renamed ρ) (p.ports d) (q.ports d) := by
  cases d
  · exact h.inputs
  · exact h.outputs

/-- A node is a pass-through in one direction only. -/
lemma NodeKind.passThrough?_unique {kind : NodeKind} {d d' : Direction}
    (h : (kind.passThrough? d).isSome) (h' : (kind.passThrough? d').isSome) : d = d' := by
  cases kind <;> cases d <;> cases d' <;> simp [passThrough?] at h h' ⊢

/-- A level is the root, or it is held by a node. -/
lemma Graph.SamePlace.root_or_held (h : g.SamePlace g' l l') (hgg' : g.Twin g')
    (hg' : g'.WellFormed) :
    l = g.root ∧ l' = g'.root ∨
      ∃ m v m' v', g.SameNode g' m v m' v' ∧ v.child = some l ∧ v'.child = some l' := by
  cases h with
  | root => exact .inl ⟨rfl, rfl⟩
  | inside outer hv hv' hid child child' =>
    exact .inr ⟨_, _, _, _, hgg'.sameNode hg' outer hv hv' hid, child, child'⟩

/-- Ids that are assigned to nodes at the same place stand for each other. -/
structure Corresponding (ρ : String → String → Prop) (g g' : Graph) (mains mains' : MainPorts)
    (bus bus' : NodeKey → Bus) (module module' : NodeKey → Module) : Prop where
  empty : ρ "" ""
  mains : mains.Renamed ρ mains'
  bus : ∀ {l v l' v' title}, g.SameNode g' l v l' v' → v.kind = .busAdd title →
    ρ (bus v.key).id (bus' v'.key).id ∧ (bus v.key).ports.Renamed ρ (bus' v'.key).ports
  module : ∀ {l v l' v' spec}, g.SameNode g' l v l' v' → v.kind = .processing spec →
    ρ (module v.key).id (module' v'.key).id ∧
      (module v.key).ports.Renamed ρ (module' v'.key).ports

namespace Corresponding

variable {mains mains' : MainPorts} {bus bus' : NodeKey → Bus} {module module' : NodeKey → Module}
  {e : LinkEnd} {slot : Nat} {a a' : PortAddress}

/-- The buses around levels at the same place correspond. -/
lemma held (h : Corresponding ρ g g' mains mains' bus bus' module module') (hgg' : g.Twin g')
    (hg : g.WellFormed) (hg' : g'.WellFormed) (hl : g.SamePlace g' l l') {key key' : NodeKey}
    (hkey : l.parent = some key) (hkey' : l'.parent = some key') :
    ρ (bus key).id (bus' key').id ∧ (bus key).ports.Renamed ρ (bus' key').ports := by
  obtain ⟨rfl, -⟩ | ⟨m, w, m', w', hw, child, child'⟩ := hl.root_or_held hgg' hg'
  · cases hkey.symm.trans hg.root_parent
  · have hfits := (hg.fits m hw.place.mem).node w hw.mem
    have hfits' := (hg'.fits m' hw.place.mem').node w' hw.mem'
    obtain rfl := Option.some.inj (hkey.symm.trans (hfits.child_parent l child))
    obtain rfl := Option.some.inj (hkey'.symm.trans (hfits'.child_parent l' child'))
    obtain ⟨title, hkind⟩ := hfits.bus_of_child l child
    exact h.bus hw hkind

/-- The buses around levels at one place are renamed into each other. -/
lemma enclosing_renamed (h : Corresponding ρ g g' mains mains' bus bus' module module')
    (hgg' : g.Twin g') (hg : g.WellFormed) (hg' : g'.WellFormed) (hl : g.SamePlace g' l l') :
    ρ (enclosing bus l) (enclosing bus' l') := by
  obtain ⟨rfl, rfl⟩ | ⟨m, w, m', w', hw, child, child'⟩ := hl.root_or_held hgg' hg'
  · rw [enclosing, enclosing, hg.root_parent, hg'.root_parent]
    exact h.empty
  · have hparent := ((hg.fits m hw.place.mem).node w hw.mem).child_parent l child
    have hparent' := ((hg'.fits m' hw.place.mem').node w' hw.mem').child_parent l' child'
    rw [enclosing, enclosing, hparent, hparent']
    exact (h.held hgg' hg hg' hl hparent hparent').1

/-- The ports that a place among the pass-throughs stands for correspond. -/
lemma port_renamed (h : Corresponding ρ g g' mains mains' bus bus' module module')
    (hgg' : g.Twin g') (hg : g.WellFormed) (hg' : g'.WellFormed) (hv : g.SameNode g' l v l' v')
    {d d' : Direction} {key key' : NodeKey} {n n' : Nat} {port port' : Port}
    (hkind : (v.kind.passThrough? d).isSome) (hkind' : (v'.kind.passThrough? d').isSome)
    (hparent : l.parent = some key) (hparent' : l'.parent = some key')
    (hplace : (l.portNodes d)[n]? = some v.key.id)
    (hplace' : (l'.portNodes d')[n']? = some v'.key.id)
    (hport : ((bus key).ports.ports d)[n]? = some port)
    (hport' : ((bus' key').ports.ports d')[n']? = some port') :
    ρ (bus key).id (bus' key').id ∧ ρ port.id port'.id := by
  obtain ⟨hid, hports⟩ := h.held hgg' hg hg' hv.place hparent hparent'
  rw [hv.twin.kind] at hkind'
  obtain rfl : d = d' := NodeKind.passThrough?_unique hkind hkind'
  rw [(hgg' l l' hv.place).portNodes, hv.twin.id] at hplace'
  have hnodup := Level.portNodes_nodup (hg.fits l hv.place.mem) d
  obtain ⟨hlt, -⟩ := List.getElem?_eq_some_iff.mp hplace
  obtain rfl := (List.getElem?_inj hlt hnodup).mp (hplace.trans hplace'.symm)
  exact ⟨hid, (forall₂_rel_of_getElem? (hports.ports d) hport hport').id⟩

/-- Ends of links at the same place have the same address, up to ids. -/
lemma address_renamed (h : Corresponding ρ g g' mains mains' bus bus' module module')
    (hgg' : g.Twin g') (hg : g.WellFormed) (hg' : g'.WellFormed) (hv : g.SameNode g' l v l' v')
    (hmodule : ∀ spec, v.kind = .processing spec →
      ρ (module v.key).bus (module' v'.key).bus)
    (ha : EndAddress mains bus module l v e slot a)
    (ha' : EndAddress mains' bus' module' l' v' e slot a') : a.Renamed ρ a' := by
  have hkind := hv.twin.kind
  -- the nodes are of one kind, and each kind has addresses of one form
  cases ha with
  | main d n port hmain hend hport =>
    rw [← hkind] at hmain
    cases ha' with
    | main d' n' port' hmain' hend' hport' =>
      subst hend hend'
      exact .main (forall₂_rel_of_getElem? (h.mains.ports _) hport hport')
    | bus title port' hbus' => simp [hbus', NodeKind.mainSlots?] at hmain
    | port d' key' n' port' hpass' =>
      rw [NodeKind.mainSlots?_of_port hpass'] at hmain
      cases hmain
    | module spec' name' port' hspec' => simp [hspec', NodeKind.mainSlots?] at hmain
  | bus title port hbus hport =>
    cases ha' with
    | bus title' port' hbus' hport' =>
      obtain ⟨hid, hports⟩ := h.bus hv hbus
      exact .bus hid (forall₂_rel_of_getElem? (hports.ports _) hport hport').id
    | main d' n' port' hmain' => simp [hkind, hbus, NodeKind.mainSlots?] at hmain'
    | port d' key' n' port' hpass' => simp [hkind, hbus, NodeKind.passThrough?] at hpass'
    | module spec' name' port' hspec' => simp [hkind, hbus] at hspec'
  | port d key n port hpass hparent hplace hport =>
    cases ha' with
    | port d' key' n' port' hpass' hparent' hplace' hport' =>
      obtain ⟨hid, hrenamed⟩ := h.port_renamed hgg' hg hg' hv hpass hpass' hparent hparent'
        hplace hplace' hport hport'
      exact .bus hid hrenamed
    | main d' n' port' hmain' =>
      rw [hkind, NodeKind.mainSlots?_of_port hpass] at hmain'
      cases hmain'
    | bus title' port' hbus' => simp [← hkind, hbus', NodeKind.passThrough?] at hpass
    | module spec' name' port' hspec' => simp [← hkind, hspec', NodeKind.passThrough?] at hpass
  | module spec name port hspec hname hport =>
    cases ha' with
    | module spec' name' port' hspec' hname' hport' =>
      obtain ⟨hid, hports⟩ := h.module hv hspec
      rw [hv.twin.names] at hname'
      obtain rfl := Option.some.inj (hname.symm.trans hname')
      have hfound := forall₂_find?_rel (hports.ports e.direction)
        (p := fun p => p.name = name) (q := fun q => q.name = name) fun p q hpq => by rw [hpq.name]
      rw [hport, hport'] at hfound
      cases hfound with
      | some hrenamed =>
        cases e with
        | origin => exact .moduleOutput (hmodule spec hspec) hid hrenamed.id
        | target => exact .moduleInput (hmodule spec hspec) hid hrenamed.id
    | main d' n' port' hmain' => simp [hkind, hspec, NodeKind.mainSlots?] at hmain'
    | bus title' port' hbus' => simp [hkind, hspec] at hbus'
    | port d' key' n' port' hpass' => simp [hkind, hspec, NodeKind.passThrough?] at hpass'

end Corresponding

/-! ### Engines that hold the same graph -/

namespace Authored

variable {mains mains' : MainPorts} {bus bus' : NodeKey → Bus} {module module' : NodeKey → Module}
  {e e' : VirtualEngine}

lemma bus_bijOn_keysOf (he : Authored mains bus module g e) :
    Set.BijOn bus (g.keysOf NodeKind.isBus) {x | x ∈ e.buses} := by
  simpa only [Graph.keysOf, NodeKind.isBus_iff] using he.bus_bijOn

lemma module_bijOn_keysOf (he : Authored mains bus module g e) :
    Set.BijOn module (g.keysOf NodeKind.isModule) {x | x ∈ e.modules} := by
  simpa only [Graph.keysOf, NodeKind.isModule_iff] using he.module_bijOn

/-- A bus has ports of the same names in both engines, since the levels in it have. -/
lemma bus_sameNames (he : Authored mains bus module g e) (he' : Authored mains' bus' module' g' e')
    (h : g.Twin g') {x y : Bus} (hxy : AtSameNode g g' NodeKind.isBus bus bus' x y) :
    x.ports.SameNames y.ports := by
  obtain ⟨l, v, l', v', hv, hp, rfl, rfl⟩ := hxy
  obtain ⟨title, hkind⟩ := NodeKind.isBus_iff.mp hp
  obtain ⟨-, -, c, hc, hnames⟩ := he.bus_eq l hv.place.mem v hv.mem title hkind
  obtain ⟨-, -, c', hc', hnames'⟩ :=
    he'.bus_eq l' hv.place.mem' v' hv.mem' title (hv.twin.kind.trans hkind)
  have hinside : g.SamePlace g' c c' := .inside hv.place hv.mem hv.mem' hv.twin.id hc hc'
  intro d
  rw [hnames, hnames', (h c c' hinside).portNames]

/-- A module has ports of the same names in both engines, since it is of the same type. -/
lemma module_sameNames (he : Authored mains bus module g e)
    (he' : Authored mains' bus' module' g' e') {x y : Module}
    (hxy : AtSameNode g g' NodeKind.isModule module module' x y) :
    x.ports.SameNames y.ports := by
  obtain ⟨l, v, l', v', hv, hp, rfl, rfl⟩ := hxy
  obtain ⟨spec, hkind⟩ := NodeKind.isModule_iff.mp hp
  obtain ⟨-, -, hnames⟩ := he.module_eq l hv.place.mem v hv.mem spec hkind
  obtain ⟨-, -, hnames'⟩ :=
    he'.module_eq l' hv.place.mem' v' hv.mem' spec (hv.twin.kind.trans hkind)
  intro d
  rw [hnames, hnames']

/-- Connections are related by the places of their links. -/
lemma connections_related (he : Authored mains bus module g e)
    (he' : Authored mains' bus' module' g' e') (h : g.Twin g') (hg : g.WellFormed)
    (hg' : g'.WellFormed) :
    UpToOrder (fun x y => ∃ l k l' k', g.SameLink g' l k l' k' ∧
      (EndText mains bus module l k .origin x.origin ∧
        EndText mains bus module l k .target x.target) ∧
      EndText mains' bus' module' l' k' .origin y.origin ∧
        EndText mains' bus' module' l' k' .target y.target) e.connections e'.connections := by
  have hx := UpToOrder.of_forall₂ he.connections
  have hy := UpToOrder.of_forall₂ he'.connections
  rw [← Level.keptLinks_steps] at hx hy
  refine ((hx.symm.trans (h.keptLinks_related hg hg')).trans hy).imp ?_
  rintro x - y - ⟨⟨l', k'⟩, -, ⟨⟨l, k⟩, -, hx, hk⟩, hy⟩
  exact ⟨l, k, l', k', hk, hx, hy⟩

section Renamed

variable (he : Authored mains bus module g e) (he' : Authored mains' bus' module' g' e')
  (h : Corresponding ρ g g' mains mains' bus bus' module module') (hgg' : g.Twin g')
  (hg : g.WellFormed) (hg' : g'.WellFormed)
include he he' h hgg' hg hg'

/-- A bus lies in the renamed bus and has the renamed ports. -/
lemma bus_renamed (hv : g.SameNode g' l v l' v') {title : String} (hkind : v.kind = .busAdd title) :
    (bus v.key).Renamed ρ (bus' v'.key) := by
  obtain ⟨hparent, htitle, -⟩ := he.bus_eq l hv.place.mem v hv.mem title hkind
  obtain ⟨hparent', htitle', -⟩ :=
    he'.bus_eq l' hv.place.mem' v' hv.mem' title (hv.twin.kind.trans hkind)
  obtain ⟨hid, hports⟩ := h.bus hv hkind
  refine ⟨hid, ?_, htitle.trans htitle'.symm, hports⟩
  rw [hparent, hparent']
  exact h.enclosing_renamed hgg' hg hg' hv.place

lemma module_renamed (hv : g.SameNode g' l v l' v') {spec : ModuleSpec}
    (hkind : v.kind = .processing spec) : (module v.key).Renamed ρ (module' v'.key) := by
  obtain ⟨hbus, hspec, -⟩ := he.module_eq l hv.place.mem v hv.mem spec hkind
  obtain ⟨hbus', hspec', -⟩ :=
    he'.module_eq l' hv.place.mem' v' hv.mem' spec (hv.twin.kind.trans hkind)
  obtain ⟨hid, hports⟩ := h.module hv hkind
  refine ⟨hid, ?_, hspec.trans hspec'.symm, hports⟩
  rw [hbus, hbus']
  exact h.enclosing_renamed hgg' hg hg' hv.place

/-- The text at an end of a connection is that of a renamed address. -/
lemma text_renamed (hk : g.SameLink g' l k l' k') {d : LinkEnd} {x y : String}
    (hx : EndText mains bus module l k d x) (hy : EndText mains' bus' module' l' k' d y) :
    VirtualEngine.TextRenamed ρ x y := by
  obtain ⟨v, hv, hkey, a, ha, rfl⟩ := hx
  obtain ⟨v', hv', hkey', a', ha', rfl⟩ := hy
  have hsame := hgg'.sameNode hg' hk.place hv hv' (by rw [hkey, hkey', hk.twin.node])
  rw [hk.twin.slot] at ha'
  refine ⟨a, a', h.address_renamed hgg' hg hg' hsame (fun _ hkind => ?_) ha ha', rfl, rfl⟩
  exact (he.module_renamed he' h hgg' hg hg' hsame hkind).bus

end Renamed

open VirtualEngine in
/-- Engines that hold graphs with the same nodes and links at the same places hold the same, up to
the order and the ids. -/
theorem reordered {name name' : Nat → String} (he : Authored mains bus module g e)
    (he' : Authored mains' bus' module' g' e') (h : g.Twin g') (hg : g.WellFormed)
    (hg' : g'.WellFormed) (hname : Names name) (hname' : Names name') (hids : e.Numbered name)
    (hids' : e'.Numbered name')
    (hmains : ∀ d, (mains.ports d).length = (mains'.ports d).length) :
    ∃ ρ, Renaming ρ ∧ e.Reordered ρ e' := by
  have hbuses := h.assigned_related hg hg' he.bus_bijOn_keysOf he'.bus_bijOn_keysOf
    (.of_map _ he.bus_ids) (.of_map _ he'.bus_ids)
  have hmodules := h.assigned_related hg hg' he.module_bijOn_keysOf he'.module_bijOn_keysOf
    (.of_map _ he.module_ids) (.of_map _ he'.module_ids)
  obtain ⟨ρ, hρ, hports, hbuses, hmodules, hconnections⟩ := exists_renaming hname hname' hids hids'
    (he.mains_eq ▸ he'.mains_eq ▸ hmains) hbuses (fun _ _ => he.bus_sameNames he' h) hmodules
    (fun _ _ => he.module_sameNames he') (he.connections_related he' h hg hg')
  -- the ids of all things are related before the buses that these lie in are compared
  have hcorr : Corresponding ρ g g' mains mains' bus bus' module module' := by
    refine ⟨hρ.empty, he.mains_eq ▸ he'.mains_eq ▸ hports, fun hv hkind => ?_, fun hv hkind => ?_⟩
    · exact hv.of_assigned hg hg' (NodeKind.isBus_iff.mpr ⟨_, hkind⟩) he.bus_bijOn_keysOf hbuses
    · exact hv.of_assigned hg hg' (NodeKind.isModule_iff.mpr ⟨_, hkind⟩) he.module_bijOn_keysOf
        hmodules
  refine ⟨ρ, hρ, hports, hbuses.imp ?_, hmodules.imp ?_, hconnections.imp ?_⟩
  · rintro _ - _ - ⟨⟨l, v, l', v', hv, hp, rfl, rfl⟩, -⟩
    obtain ⟨title, hkind⟩ := NodeKind.isBus_iff.mp hp
    exact he.bus_renamed he' hcorr h hg hg' hv hkind
  · rintro _ - _ - ⟨⟨l, v, l', v', hv, hp, rfl, rfl⟩, -⟩
    obtain ⟨spec, hkind⟩ := NodeKind.isModule_iff.mp hp
    exact he.module_renamed he' hcorr h hg hg' hv hkind
  · rintro x - y - ⟨⟨l, k, l', k', hk, ⟨horigin, htarget⟩, horigin', htarget'⟩, hid⟩
    exact ⟨hid, he.text_renamed he' hcorr h hg hg' hk horigin horigin',
      he.text_renamed he' hcorr h hg hg' hk htarget htarget'⟩

end Authored

/-! ### Documents in another order -/

/-- Two compilations for fresh engines either both fail or both succeed, and then they report the
same and leave their engines with the same things. Levels and ids may have other numbers. -/
structure EndsAlike (π : Nat → Nat) (r r' : Except CompileError Compilation × VirtualEngine) :
    Prop where
  succeeds_iff : (∃ c, r.1 = .ok c) ↔ ∃ c', r'.1 = .ok c'
  report : ∀ c c', r.1 = .ok c → r'.1 = .ok c' → c.report.Reordered π c'.report
  engine : ∀ c c', r.1 = .ok c → r'.1 = .ok c' → ∃ ρ, Renaming ρ ∧ r.2.Reordered ρ r'.2

/-- Whether a virtual engine can build a graph is said of the graph alone. -/
lemma compile_virtual_ok_iff (hg : g.WellFormed) {name : Nat → String}
    (hname : VirtualEngine.Distinct name) (inputs outputs : Nat) :
    (∃ c, (compile (VirtualEngine.engine name) g
      (VirtualEngine.new name inputs outputs [])).1 = .ok c) ↔ g.Connectable inputs outputs := by
  have hends := compiles_virtual hg hname inputs outputs
  constructor
  · rintro ⟨c, hc⟩
    exact (hends.ok_of_ok hc).1
  · intro hconnectable
    cases hresult : (compile (VirtualEngine.engine name) g
        (VirtualEngine.new name inputs outputs [])).1 with
    | ok c => exact ⟨c, rfl⟩
    | error err => exact ((hends.fail_of_error hresult).2 hconnectable).elim

/-- The order in which a document has its nodes and links does not matter, but for that of the ports
of a bus: the document is accepted in any other order, and whatever the number of physical ports, it
is built alike. -/
theorem compile_reordered {d d' : Document} (h : d.Rearranged d') (hd : Graph.build d = .ok g) :
    ∃ g' π, Graph.build d' = .ok g' ∧ d.Renumbers π d' ∧
      ∀ {name name' : Nat → String}, VirtualEngine.Names name → VirtualEngine.Names name' →
        ∀ inputs outputs, EndsAlike π
          (compile (VirtualEngine.engine name) g (VirtualEngine.new name inputs outputs []))
          (compile (VirtualEngine.engine name') g'
            (VirtualEngine.new name' inputs outputs [])) := by
  obtain ⟨g', hd'⟩ := h.build hd
  have hg := Graph.build_wellFormed hd
  have hg' := Graph.build_wellFormed hd'
  have htwin := h.twin hd hd'
  obtain ⟨π, hπ⟩ := Graph.exists_renumbering hg hg'
  refine ⟨g', π, hd', hπ.documents h hd hd', fun {name name'} hname hname' inputs outputs => ?_⟩
  refine ⟨?_, fun c c' hc hc' => ?_, fun c c' hc hc' => ?_⟩
  · -- whether a compilation succeeds is said of the graph, so the runs need not be compared
    rw [compile_virtual_ok_iff hg hname.toDistinct, compile_virtual_ok_iff hg' hname'.toDistinct]
    exact htwin.connectable_iff hg hg' inputs outputs
  · exact (compile_virtual_tells hg hname.toDistinct hc).reordered
      (compile_virtual_tells hg' hname'.toDistinct hc') htwin hg hg' hπ
  · obtain ⟨s, hs, hmirrors, hengine, -⟩ := compile_virtual_session hg hname.toDistinct hc
    obtain ⟨s', hs', hmirrors', hengine', -⟩ := compile_virtual_session hg' hname'.toDistinct hc'
    obtain ⟨bus, module, hauthored⟩ := hmirrors.authored hg hs
    obtain ⟨bus', module', hauthored'⟩ := hmirrors'.authored hg' hs'
    rw [hengine] at hauthored
    rw [hengine'] at hauthored'
    refine hauthored.reordered hauthored' htwin hg hg' hname hname'
      (VirtualEngine.compile_numbered g (VirtualEngine.new_numbered name inputs outputs []))
      (VirtualEngine.compile_numbered g' (VirtualEngine.new_numbered name' inputs outputs []))
      fun d => ?_
    cases d <;> simp [VirtualEngine.new, MainPorts.ports]

/-- A bus with a node in it that the engine knows nothing like. -/
def echoBus : Document where
  nodes :=
    [⟨9, "studio/echo", none, [], none, none, none, []⟩,
      ⟨1, "bus/input", none, [("name", .string "in")], none, none, none, []⟩,
      ⟨2, "bus/output", none, [("name", .string "out")], none, none, none, []⟩]
  links := [⟨5, 1, 0, 2, 0, .null, .null, []⟩, ⟨6, 9, 0, 2, 0, .null, .null, []⟩]
  busId := none
  extra := []

def echoBusTurned : Document where
  nodes :=
    [⟨2, "bus/output", none, [("name", .string "out")], none, none, none, []⟩,
      ⟨9, "studio/echo", none, [], none, none, none, []⟩,
      ⟨1, "bus/input", none, [("name", .string "in")], none, none, none, []⟩]
  links := [⟨6, 9, 0, 2, 0, .null, .null, []⟩, ⟨5, 1, 0, 2, 0, .null, .null, []⟩]
  busId := none
  extra := []

def ring : Document where
  nodes :=
    [⟨7, "bus/add", some "wire", [], some wireBus, none, none, []⟩,
      ⟨3, "bus/add", some "echo", [], some echoBus, none, none, []⟩]
  links := [⟨5, 7, 0, 3, 0, .null, .null, []⟩, ⟨6, 3, 0, 7, 0, .null, .null, []⟩]
  busId := none
  extra := []

def ringTurned : Document where
  nodes :=
    [⟨3, "bus/add", some "echo", [], some echoBusTurned, none, none, []⟩,
      ⟨7, "bus/add", some "wire", [], some wireBus, none, none, []⟩]
  links := [⟨6, 3, 0, 7, 0, .null, .null, []⟩, ⟨5, 7, 0, 3, 0, .null, .null, []⟩]
  busId := none
  extra := []

/-- Two buses change places, and so do nodes and links inside of one of them. -/
lemma ring_rearranged : ring.Rearranged ringTurned := by
  have hinside : echoBus.Rearranged echoBusTurned := by
    refine .mk _ (List.forall₂_same.mpr fun n _ => .same n) ?_ (by rintro (_ | _) <;> rfl)
      (.swap _ _ _) rfl rfl
    exact .trans (.cons _ (.swap _ _ _)) (.swap _ _ _)
  exact .mk _ (.cons (.same _) (.cons (.bus rfl rfl hinside rfl) .nil)) (.swap _ _ _)
    (by rintro (_ | _) <;> rfl) (.swap _ _ _) rfl rfl

open VirtualEngine in
theorem ring_reordered : ∃ g g' π c c', Graph.build ring = .ok g ∧
    Graph.build ringTurned = .ok g' ∧ ring.Renumbers π ringTurned ∧
    (compile (engine numberedId) g (new numberedId 0 0 [])).1 = .ok c ∧
    (compile (engine numberedId) g' (new numberedId 0 0 [])).1 = .ok c' ∧
    EndsAlike π (compile (engine numberedId) g (new numberedId 0 0 []))
      (compile (engine numberedId) g' (new numberedId 0 0 [])) ∧
    c.report.warnings = [.unsupportedNode ⟨2, 9⟩ "studio/echo", .skippedLink 2 6 ⟨2, 9⟩] ∧
    c'.report.warnings = [.unsupportedNode ⟨1, 9⟩ "studio/echo", .skippedLink 1 6 ⟨1, 9⟩] := by
  have hreport : report? (engine numberedId) ring (new numberedId 0 0 []) =
      some ⟨2, 0, 4, 1, [.unsupportedNode ⟨2, 9⟩ "studio/echo", .skippedLink 2 6 ⟨2, 9⟩]⟩ := by
    decide +kernel
  have hreport' : report? (engine numberedId) ringTurned (new numberedId 0 0 []) =
      some ⟨2, 0, 4, 1, [.unsupportedNode ⟨1, 9⟩ "studio/echo", .skippedLink 1 6 ⟨1, 9⟩]⟩ := by
    decide +kernel
  obtain ⟨g, c, hd, hc, hr⟩ := report?_eq_some hreport
  obtain ⟨g', c', hd', hc', hr'⟩ := report?_eq_some hreport'
  obtain ⟨g'', π, hd'', hπ, halike⟩ := compile_reordered ring_rearranged hd
  obtain rfl := Except.ok.inj (hd'.symm.trans hd'')
  refine ⟨g, g', π, c, c', hd, hd', hπ, hc, hc', ?_, ?_, ?_⟩
  · exact halike numberedId_names numberedId_names 0 0
  · rw [hr]
  · rw [hr']

end Patchbay
