import Mathlib.Data.List.Nodup
import Patchbay.Compile.Nodes
import Patchbay.Proofs.Graph.Keys

/-!
# Bindings grow

Recording something new keeps what was recorded before. A key that nothing was recorded under is
free, and recording under free keys does not fail.
-/

namespace Patchbay

namespace Bindings

/-- Everything recorded in `b` is recorded in `b'` too. -/
structure Extends (b b' : Bindings) : Prop where
  node : ∀ {k x}, b.node? k = some x → b'.node? k = some x
  connection : ∀ {i j c}, b.connection? i j = some c → b'.connection? i j = some c
  levelBus : ∀ {i bus}, b.levelBus? i = some bus → b'.levelBus? i = some bus

lemma Extends.refl (b : Bindings) : b.Extends b := ⟨id, id, id⟩

lemma Extends.trans {b b' b'' : Bindings} (h : b.Extends b') (h' : b'.Extends b'') :
    b.Extends b'' :=
  ⟨h'.node ∘ h.node, h'.connection ∘ h.connection, h'.levelBus ∘ h.levelBus⟩

/-! ### Recording one thing -/

variable {b b' : Bindings}

lemma node?_cons (k k' : NodeKey) (x : NodeBinding) :
    ({ b with nodes := (k, x) :: b.nodes } : Bindings).node? k'
      = if k' = k then some x else b.node? k' := by
  simp only [node?, List.lookup_cons]
  by_cases h : k' = k
  · simp [h]
  · simp only [beq_eq_false_iff_ne.mpr h, if_neg h]

lemma connection?_cons (i j i' j' : Nat) (c : String) :
    ({ b with connections := ((i, j), c) :: b.connections } : Bindings).connection? i' j'
      = if (i', j') = (i, j) then some c else b.connection? i' j' := by
  simp only [connection?, List.lookup_cons]
  by_cases h : (i', j') = (i, j)
  · simp [h]
  · simp only [beq_eq_false_iff_ne.mpr h, if_neg h]

/-- A level keeps the bus that it has, and gets the new one if it has none. -/
lemma levelBus?_bindLevelBus (i j : Nat) (bus : String) :
    (b.bindLevelBus i bus).levelBus? j
      = if j = i then (b.levelBus? i).or (some bus) else b.levelBus? j := by
  unfold bindLevelBus
  cases h : b.levelBus? i with
  | some bus' =>
    by_cases hj : j = i
    · simp [hj, h]
    · simp [hj]
  | none =>
    by_cases hj : j = i
    · simp [hj, levelBus?]
    · simp [levelBus?, List.lookup_cons, beq_eq_false_iff_ne.mpr hj, hj]

@[simp] lemma node?_bindLevelBus (i : Nat) (bus : String) (k : NodeKey) :
    (b.bindLevelBus i bus).node? k = b.node? k := by
  unfold bindLevelBus
  split <;> rfl

@[simp] lemma connection?_bindLevelBus (i j k : Nat) (bus : String) :
    (b.bindLevelBus i bus).connection? j k = b.connection? j k := by
  unfold bindLevelBus
  split <;> rfl

lemma bindNode_of_none {k : NodeKey} (h : b.node? k = none) (x : NodeBinding) :
    b.bindNode k x = .ok { b with nodes := (k, x) :: b.nodes } := by
  simp [bindNode, h]

/-- A node is bound only if it was not. -/
lemma bindNode_ok {k : NodeKey} {x : NodeBinding} (h : b.bindNode k x = .ok b') :
    b.node? k = none ∧ b' = { b with nodes := (k, x) :: b.nodes } := by
  unfold bindNode at h
  split at h
  · cases h
  · cases h
    exact ⟨‹_›, rfl⟩

lemma bindConnection_of_none {i j : Nat} (h : b.connection? i j = none) (link : Int)
    (c : String) : b.bindConnection i j link c
      = .ok { b with connections := ((i, j), c) :: b.connections } := by
  simp [bindConnection, h]

/-- Binding a node changes nothing that was bound. -/
lemma bindNode_extends {k : NodeKey} {x : NodeBinding} (h : b.bindNode k x = .ok b') :
    b.Extends b' := by
  obtain ⟨hk, rfl⟩ := bindNode_ok h
  refine ⟨?_, id, id⟩
  intro k' y hy
  rw [node?_cons, if_neg]
  · exact hy
  · rintro rfl
    rw [hk] at hy
    cases hy

/-- Recording a connection changes nothing that was recorded. -/
lemma bindConnection_extends {i j : Nat} {link : Int} {c : String}
    (h : b.bindConnection i j link c = .ok b') : b.Extends b' := by
  unfold bindConnection at h
  split at h
  · cases h
  · rename_i hnone
    cases h
    refine ⟨id, ?_, id⟩
    intro i' j' c' hc
    rw [connection?_cons, if_neg]
    · exact hc
    · rintro ⟨⟩
      rw [hnone] at hc
      cases hc

lemma bindLevelBus_extends (i : Nat) (bus : String) : b.Extends (b.bindLevelBus i bus) := by
  refine ⟨by simp, by simp, ?_⟩
  intro j bus' h
  rw [levelBus?_bindLevelBus]
  split_ifs with hj
  · subst hj
    simp [h]
  · exact h

end Bindings

/-! ### Recording a bus -/

def BusIds.ports (ids : BusIds) : Direction → List String
  | .input => ids.inputs
  | .output => ids.outputs

/-- The pass-throughs of a level with their ports of its bus. -/
def BusIds.pairs (ids : BusIds) (l : Level) : List (Int × String) :=
  (l.portNodes .input).zip ids.inputs ++ (l.portNodes .output).zip ids.outputs

namespace Bindings

def withPorts (b : Bindings) (level : Nat) (bus : String) (pairs : List (Int × String)) :
    Bindings :=
  pairs.foldl
    (fun b q => { b with nodes := (⟨level, q.1⟩, .busPort bus q.2) :: b.nodes }) b

def withInside (b : Bindings) (ids : BusIds) : Option Level → Bindings
  | none => b
  | some l => (b.withPorts l.id ids.id (ids.pairs l)).bindLevelBus l.id ids.id

def withBus (b : Bindings) (key : NodeKey) (child : Option Level) (ids : BusIds) : Bindings :=
  { b.withInside ids child with
    nodes := (key, .bus ids.id ids.inputs ids.outputs) :: (b.withInside ids child).nodes }

variable {b : Bindings} {level : Nat} {bus : String} {pairs : List (Int × String)}

@[simp] lemma connections_withPorts :
    (b.withPorts level bus pairs).connections = b.connections := by
  induction pairs generalizing b with
  | nil => rfl
  | cons q pairs ih => exact ih

@[simp] lemma levelBuses_withPorts : (b.withPorts level bus pairs).levelBuses = b.levelBuses := by
  induction pairs generalizing b with
  | nil => rfl
  | cons q pairs ih => exact ih

lemma node?_withPorts_of_ne {k : NodeKey} (h : ∀ q ∈ pairs, k ≠ ⟨level, q.1⟩) :
    (b.withPorts level bus pairs).node? k = b.node? k := by
  induction pairs generalizing b with
  | nil => rfl
  | cons q pairs ih =>
    have hq : k ≠ ⟨level, q.1⟩ := h q List.mem_cons_self
    change (withPorts _ level bus pairs).node? k = _
    rw [ih fun r hr => h r (List.mem_cons_of_mem _ hr), node?_cons, if_neg hq]

/-- Of ports with different nodes each is bound to its node. -/
lemma node?_withPorts_of_mem (hnodup : (pairs.map Prod.fst).Nodup) {q : Int × String}
    (hq : q ∈ pairs) :
    (b.withPorts level bus pairs).node? ⟨level, q.1⟩ = some (.busPort bus q.2) := by
  induction pairs generalizing b with
  | nil => cases hq
  | cons r pairs ih =>
    rw [List.map_cons, List.nodup_cons] at hnodup
    change (withPorts _ level bus pairs).node? _ = _
    rcases List.mem_cons.mp hq with rfl | hq
    · rw [node?_withPorts_of_ne, node?_cons, if_pos rfl]
      intro s hs h
      have hid : q.1 = s.1 := congrArg NodeKey.id h
      exact hnodup.1 (hid ▸ List.mem_map_of_mem hs)
    · exact ih hnodup.2 hq

end Bindings

/-- Binding ports changes nothing that was bound. -/
lemma bindPassThroughs_extends {level : Nat} {bus : String} {pairs : List (Int × String)} :
    ∀ {b b' : Bindings}, bindPassThroughs level bus pairs b = .ok b' → b.Extends b' := by
  induction pairs with
  | nil =>
    intro b b' h
    cases h
    exact .refl b
  | cons q pairs ih =>
    intro b b' h
    obtain ⟨b₁, h₁, h⟩ := bind_eq_ok_iff.mp h
    exact (Bindings.bindNode_extends h₁).trans (ih h)

/-- Recording pass-throughs under free keys does not fail. -/
lemma bindPassThroughs_of_free {level : Nat} (bus : String) {pairs : List (Int × String)} :
    ∀ {b : Bindings}, (pairs.map Prod.fst).Nodup →
      (∀ q ∈ pairs, b.node? ⟨level, q.1⟩ = none) →
      bindPassThroughs level bus pairs b = .ok (b.withPorts level bus pairs) := by
  induction pairs with
  | nil => exact fun _ _ => rfl
  | cons q pairs ih =>
    intro b hnodup hfree
    rw [List.map_cons, List.nodup_cons] at hnodup
    have hq := Bindings.bindNode_of_none (hfree q List.mem_cons_self) (.busPort bus q.2)
    have hrest := ih (b := { b with nodes := (⟨level, q.1⟩, .busPort bus q.2) :: b.nodes })
      hnodup.2 (by
        intro r hr
        rw [Bindings.node?_cons, if_neg]
        · exact hfree r (List.mem_cons_of_mem _ hr)
        · intro h
          have hid : r.1 = q.1 := congrArg NodeKey.id h
          exact hnodup.1 (hid ▸ List.mem_map_of_mem hr))
    rw [bindPassThroughs, List.foldlM_cons]
    change (b.bindNode ⟨level, q.1⟩ (.busPort bus q.2) >>= _) = _
    rw [hq]
    exact hrest

/-! ### A bus whose keys are free -/

lemma map_fst_zip_sublist {α β : Type} : ∀ (xs : List α) (ys : List β),
    ((xs.zip ys).map Prod.fst).Sublist xs
  | [], ys => by simp
  | x :: xs, [] => by simp
  | x :: xs, y :: ys => by simpa using map_fst_zip_sublist xs ys

namespace BusIds

variable (ids : BusIds) {c : Level}

lemma fst_mem_of_mem_pairs {q : Int × String} (h : q ∈ ids.pairs c) :
    ∃ d, q.1 ∈ c.portNodes d ∧ q.2 ∈ ids.ports d := by
  rcases List.mem_append.mp h with h | h
  · exact ⟨.input, (List.of_mem_zip h).1, (List.of_mem_zip h).2⟩
  · exact ⟨.output, (List.of_mem_zip h).1, (List.of_mem_zip h).2⟩

/-- No node is bound to two ports of a bus, since no pass-through has both directions. -/
lemma pairs_nodup (hc : c.Fits) : ((ids.pairs c).map Prod.fst).Nodup := by
  have hi := map_fst_zip_sublist (c.portNodes .input) ids.inputs
  have ho := map_fst_zip_sublist (c.portNodes .output) ids.outputs
  rw [pairs, List.map_append, List.nodup_append]
  refine ⟨(Level.portNodes_nodup hc .input).sublist hi,
    (Level.portNodes_nodup hc .output).sublist ho, ?_⟩
  rintro i hi' j hj rfl
  exact Level.portNodes_disjoint hc (hi.subset hi') (ho.subset hj)

/-- Each pass-through has a port if there are enough of them. -/
lemma exists_mem_pairs {d : Direction} {i : Int} (hi : i ∈ c.portNodes d)
    (hlen : (ids.ports d).length = (c.portNodes d).length) : ∃ port, (i, port) ∈ ids.pairs c := by
  obtain ⟨n, hn, rfl⟩ := List.mem_iff_getElem.mp hi
  have hzip : n < ((c.portNodes d).zip (ids.ports d)).length := by
    rw [List.length_zip, hlen]
    omega
  have hmem := List.getElem_mem hzip
  rw [List.getElem_zip] at hmem
  refine ⟨(ids.ports d)[n], ?_⟩
  cases d
  · exact List.mem_append_left _ hmem
  · exact List.mem_append_right _ hmem

end BusIds

/-- The keys under which a bus and what lies in it is recorded are free. -/
structure Bindings.FreeFor (b : Bindings) (key : NodeKey) (child : Option Level) : Prop where
  own : b.node? key = none
  port : ∀ c, child = some c → ∀ d, ∀ i ∈ c.portNodes d, b.node? ⟨c.id, i⟩ = none
  level : ∀ c, child = some c → b.levelBus? c.id = none

/-- If no pass-through of the level in a bus is bound yet, all of them can be. -/
lemma bindInside_of_free {b : Bindings} {child : Option Level} (ids : BusIds)
    (hfit : ∀ c, child = some c → c.Fits)
    (hfree : ∀ c, child = some c → ∀ d, ∀ i ∈ c.portNodes d, b.node? ⟨c.id, i⟩ = none) :
    bindInside child ids b = .ok (b.withInside ids child) := by
  cases child with
  | none => rfl
  | some l =>
    have hnodup := ids.pairs_nodup (hfit l rfl)
    have hpairs : ∀ q ∈ ids.pairs l, b.node? ⟨l.id, q.1⟩ = none := by
      intro q hq
      obtain ⟨d, hd, -⟩ := ids.fst_mem_of_mem_pairs hq
      exact hfree l rfl d q.1 hd
    have happend := bindPassThroughs_of_free ids.id hnodup hpairs
    unfold bindPassThroughs BusIds.pairs at happend
    rw [List.foldlM_append] at happend
    obtain ⟨b₁, h₁, h₂⟩ := bind_eq_ok_iff.mp happend
    refine bind_eq_ok_iff.mpr ⟨b₁, h₁, bind_eq_ok_iff.mpr ⟨_, h₂, rfl⟩⟩

namespace Bindings

variable {b : Bindings} {key : NodeKey} {child : Option Level} {ids : BusIds}

lemma node?_withBus_self :
    (b.withBus key child ids).node? key = some (.bus ids.id ids.inputs ids.outputs) := by
  rw [withBus, node?_cons, if_pos rfl]

/-- The ports of a bus are bound in the level that the bus holds. -/
lemma node?_withBus_port {c : Level} (hc : c.Fits) (hkey : key.level ≠ c.id)
    {q : Int × String} (hq : q ∈ ids.pairs c) :
    (b.withBus key (some c) ids).node? ⟨c.id, q.1⟩ = some (.busPort ids.id q.2) := by
  rw [withBus, node?_cons, if_neg]
  · rw [withInside, node?_bindLevelBus]
    exact node?_withPorts_of_mem (ids.pairs_nodup hc) hq
  · rintro rfl
    exact hkey rfl

lemma node?_withInside_of_ne {k : NodeKey}
    (h : ∀ c, child = some c → k.level = c.id → ∀ d, k.id ∉ c.portNodes d) :
    (b.withInside ids child).node? k = b.node? k := by
  cases child with
  | none => rfl
  | some c =>
    rw [withInside, node?_bindLevelBus]
    apply node?_withPorts_of_ne
    rintro q hq rfl
    obtain ⟨d, hd, -⟩ := ids.fst_mem_of_mem_pairs hq
    exact h c rfl rfl d hd

/-- A bus binds its own node and the pass-throughs in it, and no other node. -/
lemma node?_withBus_of_ne {k : NodeKey} (hk : k ≠ key)
    (h : ∀ c, child = some c → k.level = c.id → ∀ d, k.id ∉ c.portNodes d) :
    (b.withBus key child ids).node? k = b.node? k := by
  rw [withBus, node?_cons, if_neg hk]
  exact node?_withInside_of_ne h

@[simp] lemma connection?_withBus (i j : Nat) :
    (b.withBus key child ids).connection? i j = b.connection? i j := by
  cases child with
  | none => rfl
  | some c =>
    change (bindLevelBus _ c.id ids.id).connection? i j = _
    rw [connection?_bindLevelBus]
    simp [connection?]

/-- A bus is recorded for the level that it holds. -/
lemma levelBus?_withBus (i : Nat) :
    (b.withBus key child ids).levelBus? i
      = if child.map Level.id = some i then (b.levelBus? i).or (some ids.id)
        else b.levelBus? i := by
  cases child with
  | none => rfl
  | some c =>
    have hports : ∀ j, (b.withPorts c.id ids.id (ids.pairs c)).levelBus? j = b.levelBus? j := by
      simp [levelBus?]
    change (bindLevelBus _ c.id ids.id).levelBus? i = _
    rw [levelBus?_bindLevelBus, hports, hports]
    by_cases h : i = c.id
    · simp [h]
    · simp [h, Ne.symm h]

/-- A bus recorded under free keys keeps what was recorded before. -/
lemma FreeFor.extends (h : b.FreeFor key child) : b.Extends (b.withBus key child ids) := by
  refine ⟨?_, by simp, ?_⟩
  · intro k x hx
    rw [node?_withBus_of_ne]
    · exact hx
    · rintro rfl
      rw [h.own] at hx
      cases hx
    · intro c hc hlevel d hd
      have hfree := h.port c hc d k.id hd
      rw [← hlevel, hx] at hfree
      cases hfree
  · intro i bus hi
    rw [levelBus?_withBus, hi]
    simp

end Bindings

end Patchbay
