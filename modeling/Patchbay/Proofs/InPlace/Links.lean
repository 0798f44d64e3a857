import Patchbay.Proofs.Compile.Links
import Patchbay.Proofs.InPlace.Writing

/-!
# Links connected in place

The recursion over a document knows of each node of a level how its slots are linked to, a
compilation knows what the node was bound to. Either way the ends of a link get the same addresses.
-/

namespace Patchbay

/-- The slots of a node are linked to as what it is bound to says. -/
inductive Anchored (g : Graph) (b : Bindings) (l : Level) (v : GraphNode) : Anchor → Prop
  | leftOut (tag : String) (hkind : v.kind = .unsupported tag) : Anchored g b l v .leftOut
  | unbound (d : Direction) (hkind : (v.kind.passThrough? d).isSome) (hroot : l = g.root) :
      Anchored g b l v .unbound
  | mains (d : Direction) (slots : Nat) (ids : List String)
      (hkind : v.kind.mainSlots? = some (d, slots)) (hb : b.node? v.key = some (.mains ids)) :
      Anchored g b l v (.mains ids)
  | busPort (d : Direction) (bus port : String) (hkind : (v.kind.passThrough? d).isSome)
      (hb : b.node? v.key = some (.busPort bus port)) : Anchored g b l v (.busPort bus port)
  | bus (title : String) (ids : BusIds) (hkind : v.kind = .busAdd title)
      (hb : b.node? v.key = some (.bus ids.id ids.inputs ids.outputs)) : Anchored g b l v (.bus ids)
  | module (spec : ModuleSpec) (bus : String) (n : Node) (ids : ModuleIds)
      (hkind : v.kind = .processing spec) (hin : v.inputNames = n.inputNames)
      (hout : v.outputNames = n.outputNames)
      (hb : b.node? v.key = some (v.moduleBinding bus ids)) : Anchored g b l v (.module bus n ids)

/-- How the nodes of a level are linked to, by their ids. -/
def AllAnchored (g : Graph) (b : Bindings) (l : Level) (vs : List GraphNode)
    (anchors : List (Int × Anchor)) : Prop :=
  List.Forall₂ (fun v x => x.1 = v.key.id ∧ Anchored g b l v x.2) vs anchors

section Anchored

variable {g : Graph} {b b' : Bindings} {l : Level} {v : GraphNode} {a : Anchor}
  {vs : List GraphNode} {anchors : List (Int × Anchor)}

lemma Anchored.mono (h : Anchored g b l v a) (hb : b.Extends b') : Anchored g b' l v a := by
  cases h with
  | leftOut tag hkind => exact .leftOut tag hkind
  | unbound d hkind hroot => exact .unbound d hkind hroot
  | mains d slots ids hkind h => exact .mains d slots ids hkind (hb.node h)
  | busPort d bus port hkind h => exact .busPort d bus port hkind (hb.node h)
  | bus title ids hkind h => exact .bus title ids hkind (hb.node h)
  | module spec bus n ids hkind hin hout h =>
    exact .module spec bus n ids hkind hin hout (hb.node h)

lemma AllAnchored.mono (h : AllAnchored g b l vs anchors) (hb : b.Extends b') :
    AllAnchored g b' l vs anchors :=
  h.imp fun _ _ hx => ⟨hx.1, hx.2.mono hb⟩

lemma AllAnchored.keys (h : AllAnchored g b l vs anchors) :
    anchors.map Prod.fst = vs.map fun v => v.key.id := by
  induction h with
  | nil => rfl
  | cons hx _ ih => rw [List.map_cons, List.map_cons, hx.1, ih]

/-- Each node of the level is found among the anchors. -/
lemma AllAnchored.lookup (h : AllAnchored g b l vs anchors)
    (hnodup : (vs.map fun v => v.key.id).Nodup) (hv : v ∈ vs) :
    ∃ a, anchors.lookup v.key.id = some a ∧ Anchored g b l v a := by
  obtain ⟨x, hx, hid, ha⟩ := forall₂_exists_right h hv
  rw [← h.keys] at hnodup
  exact ⟨x.2, hid ▸ lookup_of_mem hnodup hx, ha⟩

/-- Left out are just the nodes of unsupported types. -/
lemma Anchored.eq_leftOut_iff (h : Anchored g b l v a) :
    a = .leftOut ↔ ∃ tag, v.kind = .unsupported tag := by
  cases h with
  | leftOut tag hkind => simp [hkind]
  | unbound d hkind =>
    obtain ⟨-, name, hv⟩ | ⟨-, name, hv⟩ := NodeKind.passThrough?_cases hkind <;> simp [hv]
  | mains d slots ids hkind =>
    obtain ⟨-, hv⟩ | ⟨-, hv⟩ := NodeKind.mainSlots?_cases hkind <;> simp [hv, Anchor.mains]
  | busPort d bus port hkind =>
    obtain ⟨-, name, hv⟩ | ⟨-, name, hv⟩ := NodeKind.passThrough?_cases hkind <;>
      simp [hv, Anchor.busPort]
  | bus title ids hkind => simp [hkind, Anchor.bus]
  | module spec bus n ids hkind => simp [hkind, Anchor.module]

end Anchored

/-! ### Addresses -/

section Addresses

variable {g : Graph} {b : Bindings} {l : Level} {v : GraphNode} {a : Anchor} {link : Link}
  {index : Nat} {e : LinkEnd} {place : BusPath} {anchors : List (Int × Anchor)}

/-- An end at a node that has ports is resolved by them, or there is no such port. -/
lemma address_ports {address : LinkEnd → Nat → Option PortAddress}
    (h : anchors.lookup (link.node e) = some (.ports address)) (f : BuildFailure → CompileError) :
    (link.address place anchors e).mapError f = match address e (link.slot e) with
      | some a => .ok a
      | none =>
        .error (f (.unresolvedPort place link.id (link.node e) e.direction (link.slot e))) := by
  simp only [Link.address, h]
  cases address e (link.slot e) <;> rfl

/-- An end of a link has the same address, or lacks one for the same reason. -/
lemma address_anchored (hnumber : g.number place = l.id) (ha : Anchored g b l v a)
    (hlookup : anchors.lookup (link.node e) = some a)
    (hnode : l.node? (link.node e) = some v) (hkey : v.key = ⟨l.id, link.node e⟩)
    (hslots : v.slots e ≠ .none) (hkind : ∀ tag, v.kind ≠ .unsupported tag)
    (hroot : ∀ d, l = g.root → (v.kind.passThrough? d).isSome → b.node? v.key = none) :
    (link.address place anchors e).mapError (BuildFailure.numbered g.number)
      = resolveEnd l b (.ofLink l.id index link) e := by
  cases ha with
  | leftOut tag h => exact (hkind tag h).elim
  | unbound d hpass hl =>
    have hb := hroot d hl hpass
    rw [hkey] at hb
    rw [resolveEnd_unbound (by rwa [GraphLink.node_ofLink]), GraphLink.node_ofLink, ← hnumber]
    simp only [Link.address, hlookup]
    rfl
  | mains d slots ids hmain hb =>
    rw [hkey] at hb
    rw [address_ports hlookup, BuildFailure.numbered, hnumber]
    simp only [resolveEnd, GraphLink.node_ofLink, GraphLink.slot_ofLink, hnode, hb]
    -- a physical input can only be an origin, a physical output only a target
    have hend := v.mainDirection_of_main hmain hslots
    obtain ⟨rfl, hv⟩ | ⟨rfl, hv⟩ := NodeKind.mainSlots?_cases hmain
    all_goals
      cases e <;> cases hend
      rw [hv]
      rfl
  | busPort d bus port hpass hb =>
    rw [hkey] at hb
    rw [address_ports hlookup]
    simp only [resolveEnd, GraphLink.node_ofLink, hnode, hb]
    have hend := v.mainDirection_of_port hpass hslots
    obtain ⟨rfl, name, hv⟩ | ⟨rfl, name, hv⟩ := NodeKind.passThrough?_cases hpass
    all_goals
      cases e <;> cases hend
      rw [hv]
  | bus title ids hbus hb =>
    rw [hkey] at hb
    rw [address_ports hlookup, BuildFailure.numbered, hnumber]
    simp only [resolveEnd, GraphLink.node_ofLink, GraphLink.slot_ofLink, hnode, hb, hbus]
    cases e <;> rfl
  | module spec bus n ids hmodule hin hout hb =>
    rw [hkey] at hb
    rw [address_ports hlookup, BuildFailure.numbered, hnumber]
    simp only [resolveEnd, GraphLink.node_ofLink, GraphLink.slot_ofLink, hnode, hb, hmodule,
      GraphNode.moduleBinding, hin, hout]
    cases e <;> rfl

end Addresses

end Patchbay
