import Patchbay.Compile.Nodes
import Patchbay.Proofs.Bindings

/-!
# Binding physical ports

Nodes for physical ports are bound to the first ones of their direction, or the first node with
more slots than there are ports is reported.
-/

namespace Patchbay

namespace NodeKind

variable {kind : NodeKind} {d : Direction}

lemma mainSlots?_cases {n : Nat} (h : kind.mainSlots? = some (d, n)) :
    d = .input ∧ kind = mainInputs n ∨ d = .output ∧ kind = mainOutputs n := by
  cases kind <;> cases h
  · exact .inl ⟨rfl, rfl⟩
  · exact .inr ⟨rfl, rfl⟩

/-- A port of the bus is one of the two kinds for it. -/
lemma passThrough?_cases (h : (kind.passThrough? d).isSome) :
    d = .input ∧ (∃ name, kind = busInput name) ∨ d = .output ∧ ∃ name, kind = busOutput name := by
  cases kind <;> cases d <;> cases h
  · exact .inl ⟨rfl, _, rfl⟩
  · exact .inr ⟨rfl, _, rfl⟩

lemma mainSlots?_of_port (h : (kind.passThrough? d).isSome) : kind.mainSlots? = none := by
  obtain ⟨-, name, rfl⟩ | ⟨-, name, rfl⟩ := passThrough?_cases h <;> rfl

end NodeKind

/-- A node stands for more physical ports than there are, the error says. -/
def MainExcess (mains : MainPorts) (v : GraphNode) (err : CompileError) : Prop :=
  ∃ d n, v.kind.mainSlots? = some (d, n) ∧ (mains.ports d).length < n ∧
    err = .mainOutOfRange v.key d (n - 1) (mains.ports d).length

/-- The nodes for physical ports among the given ones are bound, and nothing else is. -/
structure MainsBound (mains : MainPorts) (vs : List GraphNode) (b : Bindings) : Prop where
  slots_le : ∀ v ∈ vs, ∀ d n, v.kind.mainSlots? = some (d, n) → n ≤ (mains.ports d).length
  bound : ∀ v ∈ vs, ∀ d n, v.kind.mainSlots? = some (d, n) →
    b.node? v.key = some (.mains ((mains.ports d).take n))
  only : ∀ k x, b.node? k = some x → ∃ v ∈ vs, v.key = k ∧ v.kind.mainSlots?.isSome
  connections : b.connections = []
  levelBuses : b.levelBuses = []

namespace MainsBound

variable {mains : MainPorts} {vs : List GraphNode} {b : Bindings} {v : GraphNode}

lemma nil : MainsBound mains [] {} := by
  constructor <;> simp [Bindings.node?]

/-- Other nodes are passed over. -/
lemma concat_other (h : MainsBound mains vs b) (hv : v.kind.mainSlots? = none) :
    MainsBound mains (vs ++ [v]) b where
  slots_le := by
    intro w hw d n hn
    rcases List.mem_append.mp hw with hw | hw
    · exact h.slots_le w hw d n hn
    · obtain rfl := List.mem_singleton.mp hw
      rw [hv] at hn
      cases hn
  bound := by
    intro w hw d n hn
    rcases List.mem_append.mp hw with hw | hw
    · exact h.bound w hw d n hn
    · obtain rfl := List.mem_singleton.mp hw
      rw [hv] at hn
      cases hn
  only := by
    intro k x hx
    obtain ⟨w, hw, hk⟩ := h.only k x hx
    exact ⟨w, List.mem_append_left _ hw, hk⟩
  connections := h.connections
  levelBuses := h.levelBuses

/-- A node for physical ports is bound to the first ones, if there are enough. -/
lemma concat_main (h : MainsBound mains vs b) (hkey : v.key ∉ vs.map GraphNode.key)
    {d : Direction} {n : Nat} (hv : v.kind.mainSlots? = some (d, n))
    (hn : n ≤ (mains.ports d).length) :
    MainsBound mains (vs ++ [v])
      { b with nodes := (v.key, .mains ((mains.ports d).take n)) :: b.nodes } where
  slots_le := by
    intro w hw d' n' hn'
    rcases List.mem_append.mp hw with hw | hw
    · exact h.slots_le w hw d' n' hn'
    · obtain rfl := List.mem_singleton.mp hw
      rw [hv] at hn'
      cases hn'
      exact hn
  bound := by
    intro w hw d' n' hn'
    rw [Bindings.node?_cons]
    rcases List.mem_append.mp hw with hw | hw
    · -- its key is that of none of the nodes before
      rw [if_neg]
      · exact h.bound w hw d' n' hn'
      · intro heq
        exact hkey (heq ▸ List.mem_map_of_mem hw)
    · obtain rfl := List.mem_singleton.mp hw
      rw [hv] at hn'
      cases hn'
      rw [if_pos rfl]
  only := by
    intro k x hx
    rw [Bindings.node?_cons] at hx
    split_ifs at hx with hk
    · exact ⟨v, by simp, hk.symm, by simp [hv]⟩
    · obtain ⟨w, hw, hw'⟩ := h.only k x hx
      exact ⟨w, List.mem_append_left _ hw, hw'⟩
  connections := h.connections
  levelBuses := h.levelBuses

lemma free (h : MainsBound mains vs b) (hkey : v.key ∉ vs.map GraphNode.key) :
    b.node? v.key = none := by
  cases hx : b.node? v.key with
  | none => rfl
  | some x =>
    obtain ⟨w, hw, hk, -⟩ := h.only v.key x hx
    exact (hkey (hk ▸ List.mem_map_of_mem hw)).elim

end MainsBound

/-- The nodes are taken one after the other, those in `before` having been bound. The first one with
too many slots ends it. -/
lemma bindMains_from {mains : MainPorts} {vs : List GraphNode} : ∀ {before : List GraphNode}
    {b : Bindings}, ((before ++ vs).map GraphNode.key).Nodup → MainsBound mains before b →
      match bindMains mains b vs with
      | .ok b' => MainsBound mains (before ++ vs) b'
      | .error err => ∃ v ∈ vs, MainExcess mains v err := by
  induction vs with
  | nil =>
    intro before b _ h
    change MainsBound mains (before ++ []) b
    rwa [List.append_nil]
  | cons v vs ih =>
    intro before b hnodup h
    have hkey : v.key ∉ before.map GraphNode.key := by
      rw [List.map_append, List.nodup_append] at hnodup
      exact fun hv => hnodup.2.2 _ hv _ (List.mem_map_of_mem List.mem_cons_self) rfl
    have hrest : ∀ {b₁}, bindMain mains b v = .ok b₁ → MainsBound mains (before ++ [v]) b₁ →
        match bindMains mains b (v :: vs) with
        | .ok b' => MainsBound mains (before ++ v :: vs) b'
        | .error err => ∃ w ∈ v :: vs, MainExcess mains w err := by
      intro b₁ h₁ hbound
      have hnodup' : ((before ++ [v] ++ vs).map GraphNode.key).Nodup := by simpa using hnodup
      have hspec := ih hnodup' hbound
      rw [bindMains, List.foldlM_cons, h₁]
      change match bindMains mains b₁ vs with | .ok b' => _ | .error err => _
      split at hspec
      · simpa using hspec
      · obtain ⟨w, hw, hexcess⟩ := hspec
        exact ⟨w, List.mem_cons_of_mem _ hw, hexcess⟩
    cases hv : v.kind.mainSlots? with
    | none => exact hrest (by simp [bindMain, hv]) (h.concat_other hv)
    | some slots =>
      obtain ⟨d, n⟩ := slots
      by_cases hn : n ≤ (mains.ports d).length
      · refine hrest ?_ (h.concat_main hkey hv hn)
        simp only [bindMain, hv, if_pos hn]
        rw [Bindings.bindNode_of_none (h.free hkey)]
        rfl
      · have hfail : bindMain mains b v
            = .error (.mainOutOfRange v.key d (n - 1) (mains.ports d).length) := by
          simp only [bindMain, hv, if_neg hn]
        rw [bindMains, List.foldlM_cons, hfail]
        exact ⟨v, List.mem_cons_self, d, n, hv, by omega, rfl⟩

/-- All nodes for physical ports are bound, or one of them asks for too many. -/
theorem bindMains_spec (mains : MainPorts) {vs : List GraphNode}
    (hnodup : (vs.map GraphNode.key).Nodup) :
    match bindMains mains {} vs with
    | .ok b => MainsBound mains vs b
    | .error err => ∃ v ∈ vs, MainExcess mains v err :=
  @bindMains_from mains vs [] {} hnodup MainsBound.nil

end Patchbay
