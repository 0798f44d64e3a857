import Patchbay.Proofs.Engine.Consistency
import Patchbay.Proofs.Engine.Failing

/-!
# Requests one by one

What a single request does to an engine. It is recorded in any case. It is refused if its operation
is set to fail, or if it names something that does not exist, and for no other reason. A request
that is refused, or that only lists ports, changes nothing else; one that is granted puts one entry
into one table, with ids that were never issued before, and the addresses of its ports behind those
that are there.
-/

namespace Patchbay

/-- The requests that only ask for ports. -/
inductive Request.IsListing : Request → Prop
  | main : IsListing .listMain
  | bus (bus : String) : IsListing (.listBusPorts bus)
  | module (id : String) : IsListing (.listModulePorts id)

namespace VirtualEngine

variable {name : Nat → String} {e e' : VirtualEngine}

/-! ### States that come about -/

/-- An engine that comes about when a fresh one is asked and set to fail, in any order. -/
inductive Reachable (name : Nat → String) : VirtualEngine → Prop
  | new (inputs outputs : Nat) : Reachable name (.new name inputs outputs [])
  | failing (failing : List String) {e : VirtualEngine} (h : Reachable name e) :
      Reachable name (e.withFailing failing)
  | asked (r : Request) {e : VirtualEngine} (h : Reachable name e) :
      Reachable name (engine name r e).2

namespace Reachable

/-- The addresses of an engine that can be reached are those of its things. -/
lemma booked (h : Reachable name e) : e.Booked := by
  induction h with
  | new inputs outputs => exact new_booked name inputs outputs []
  | failing failing _ ih =>
    exact ih.connect rfl rfl rfl rfl rfl fun _ hc => ih.connection_known hc
  | asked r _ ih => exact (engine_next name r _).booked (ih.noted r)

lemma numbered (h : Reachable name e) : e.Numbered name := by
  induction h with
  | new inputs outputs => exact new_numbered name inputs outputs []
  | failing failing _ ih => exact ih
  | asked r _ ih => exact (engine_next name r _).numbered (ih.noted r)

lemma placed (h : Reachable name e) : e.Placed := by
  induction h with
  | new inputs outputs => exact ⟨nofun, nofun⟩
  | failing failing _ ih => exact ⟨ih.buses, ih.modules⟩
  | asked r _ ih => exact (engine_next name r _).placed ⟨ih.buses, ih.modules⟩

end Reachable

/-- An id that is issued from now on differs from all that there are. -/
lemma Numbered.unused (he : e.Numbered name) (hname : Function.Injective name) {n : Nat}
    {id : String} (h : IssuedIn name e.issued n id) : id ∉ e.ids := by
  obtain ⟨k, hk, -, rfl⟩ := h
  intro hmem
  obtain ⟨m, hm, hmk⟩ := List.mem_map.mp (he.subset hmem)
  rw [hname hmk, List.mem_range] at hm
  omega

/-! ### Requests that are refused -/

/-- A request names something that does not exist: a bus or module that is to hold something or to
be listed, or an end of a connection. -/
def Lacks (e : VirtualEngine) : Request → Prop
  | .listMain => False
  | .addBus bus .. | .addModule bus _ => bus ≠ "" ∧ ∀ x ∈ e.buses, x.id ≠ bus
  | .listBusPorts bus => ∀ x ∈ e.buses, x.id ≠ bus
  | .listModulePorts id => ∀ x ∈ e.modules, x.id ≠ id
  | .addConnection origin target => ¬ e.StartsAt origin ∨ ¬ e.EndsAt target

def Fails (name : Nat → String) (r : Request) (e : VirtualEngine) : Prop :=
  ∃ err, (engine name r e).1 = .error err

/-- Nothing can be put into a bus that is named but does not exist. -/
lemma not_canHold_iff {bus : String} :
    ¬ e.canHold bus = true ↔ bus ≠ "" ∧ ∀ x ∈ e.buses, x.id ≠ bus := by
  simp [canHold_iff]

lemma bus?_eq_none_iff {id : String} : e.bus? id = none ↔ ∀ x ∈ e.buses, x.id ≠ id := by
  simp [bus?]

lemma module?_eq_none_iff {id : String} : e.module? id = none ↔ ∀ x ∈ e.modules, x.id ≠ id := by
  simp [module?]

/-- A request that is not set to fail is refused exactly for what it names. -/
lemma Booked.respond_error_iff (he : e.Booked) (r : Request) :
    (∃ err, (respond name r e).1 = .error err) ↔ e.Lacks r := by
  cases r with
  | listMain => simp [respond, Lacks]
  | addBus parent =>
    rw [Lacks, ← not_canHold_iff]
    by_cases h : e.canHold parent = true <;> simp [respond, h]
  | listBusPorts bus =>
    rw [Lacks, ← bus?_eq_none_iff]
    cases h : e.bus? bus <;> simp [respond, h]
  | addModule bus =>
    rw [Lacks, ← not_canHold_iff]
    by_cases h : e.canHold bus = true <;> simp [respond, h]
  | listModulePorts id =>
    rw [Lacks, ← module?_eq_none_iff]
    cases h : e.module? id <;> simp [respond, h]
  | addConnection origin target =>
    rw [Lacks, ← he.sources, ← he.sinks]
    by_cases ho : origin ∈ e.sources <;> by_cases ht : target ∈ e.sinks <;>
      simp [respond, ho, ht]

lemma noted_lacks_iff (q r : Request) : (e.noted q).Lacks r ↔ e.Lacks r := by
  cases r with
  | addConnection => simp [Lacks, startsAt_iff, endsAt_iff, noted]
  | _ => rfl

/-- A request fails if its operation is set to fail, or if it names something that does not exist.
-/
lemma Booked.fails_iff (he : e.Booked) (r : Request) :
    Fails name r e ↔ r.operation ∈ e.failing ∨ e.Lacks r := by
  by_cases h : r.operation ∈ e.failing
  · simp [Fails, engine_of_failing h, h]
  · rw [Fails, engine_of_not_failing h, (he.noted r).respond_error_iff, noted_lacks_iff]
    simp only [h, false_or]

/-- What is refused changes nothing. -/
lemma respond_of_error {r : Request} {err : EngineError}
    (h : (respond name r e).1 = .error err) : (respond name r e).2 = e := by
  cases r with
  | listMain => rfl
  | addBus parent =>
    by_cases hparent : e.canHold parent = true
    · simp [respond, hparent] at h
    · simp [respond, hparent]
  | listBusPorts bus => cases hbus : e.bus? bus <;> simp [respond, hbus]
  | addModule bus =>
    by_cases hbus : e.canHold bus = true
    · simp [respond, hbus] at h
    · simp [respond, hbus]
  | listModulePorts id => cases hid : e.module? id <;> simp [respond, hid]
  | addConnection origin target =>
    by_cases ho : origin ∈ e.sources
    · by_cases ht : target ∈ e.sinks
      · simp [respond, ho, ht] at h
      · simp [respond, ho, ht]
    · simp [respond, ho]

/-- A request that is refused changes nothing. -/
lemma engine_of_fails {r : Request} (h : Fails name r e) : (engine name r e).2 = e.noted r := by
  obtain ⟨err, herr⟩ := h
  by_cases hfail : r.operation ∈ e.failing
  · rw [engine_of_failing hfail]
  · rw [engine_of_not_failing hfail] at herr ⊢
    exact respond_of_error herr

/-- A request that lists ports changes nothing. -/
lemma engine_of_isListing {r : Request} (h : r.IsListing) :
    (engine name r e).2 = e.noted r := by
  by_cases hfail : r.operation ∈ e.failing
  · rw [engine_of_failing hfail]
  · rw [engine_of_not_failing hfail]
    cases h with
    | main => rfl
    | bus bus => cases hbus : (e.noted (.listBusPorts bus)).bus? bus <;> simp [respond, hbus]
    | module id => cases hid : (e.noted (.listModulePorts id)).module? id <;> simp [respond, hid]

/-! ### Requests that are granted -/

/-- An entry is new, with ids that were never issued before. -/
def Unused (e : VirtualEngine) (ids : List String) : Prop := ∀ id ∈ ids, id ∉ e.ids

/-- One bus more, and nothing else but the addresses of its ports and the count of its ids. -/
structure PutsBus (e : VirtualEngine) (x : Bus) (e' : VirtualEngine) : Prop where
  unused : e.Unused x.allIds
  state : e' = { e with
    buses := e.buses ++ [x]
    sources := e.sources ++ x.addresses
    sinks := e.sinks ++ x.addresses
    issued := e.issued + x.allIds.length }

/-- One module more, and nothing else but the addresses of its ports and the count of its ids. -/
structure PutsModule (e : VirtualEngine) (x : Module) (e' : VirtualEngine) : Prop where
  unused : e.Unused x.allIds
  state : e' = { e with
    modules := e.modules ++ [x]
    sources := e.sources ++ x.origins
    sinks := e.sinks ++ x.targets
    issued := e.issued + x.allIds.length }

/-- One connection more, and nothing else but the count of its id. -/
structure PutsConnection (e : VirtualEngine) (x : Connection) (e' : VirtualEngine) : Prop where
  unused : e.Unused [x.id]
  state : e' = { e with connections := e.connections ++ [x], issued := e.issued + 1 }

/-- The ids for a thing and its ports are new, and they differ from each other. -/
lemma Numbered.unused_next (he : e.Numbered name) (hname : Function.Injective name)
    (inputs outputs : List String) :
    e.Unused (name e.issued :: (portsFrom name (e.issued + 1) inputs ++
      portsFrom name (e.issued + 1 + inputs.length) outputs).map Port.id) :=
  fun _ hid => he.unused hname (issuedIn_next hid)

lemma Numbered.putBus (he : e.Numbered name) (hname : Function.Injective name)
    (parent title inputs outputs : String) :
    ∃ x : Bus, x.id = name e.issued ∧
      x.Fits parent title (Text.splitNames inputs) (Text.splitNames outputs) ∧
      e.PutsBus x (e.putBus name parent title inputs outputs) := by
  refine ⟨e.nextBus name parent title (Text.splitNames inputs) (Text.splitNames outputs), rfl,
    ⟨rfl, rfl, names_portsFrom _ _, names_portsFrom _ _⟩, he.unused_next hname _ _, ?_⟩
  simp [VirtualEngine.putBus, nextBus, Bus.addresses, Bus.allIds, Nat.add_assoc, Nat.add_comm]

lemma Numbered.putModule (he : e.Numbered name) (hname : Function.Injective name)
    (bus : String) (spec : ModuleSpec) :
    ∃ x : Module, x.id = name e.issued ∧ x.Fits bus spec ∧
      e.PutsModule x (e.putModule name bus spec) := by
  refine ⟨e.nextModule name bus spec, rfl,
    ⟨rfl, rfl, names_portsFrom _ _, names_portsFrom _ _⟩, he.unused_next hname _ _, ?_⟩
  simp [VirtualEngine.putModule, nextModule, Module.origins, Module.targets, Module.allIds,
    Nat.add_assoc, Nat.add_comm]

lemma Numbered.putConnection (he : e.Numbered name) (hname : Function.Injective name)
    (origin target : String) :
    e.PutsConnection ⟨name e.issued, origin, target⟩ (e.putConnection name origin target) := by
  refine ⟨fun id hid => ?_, rfl⟩
  rw [List.mem_singleton] at hid
  exact he.unused hname ⟨e.issued, Nat.le_refl _, Nat.lt_succ_self _, hid⟩

/-- A request is not set to fail where it is answered with something else than an error. -/
lemma engine_of_ok {r : Request} {answer : r.Answer} (h : (engine name r e).1 = .ok answer) :
    engine name r e = respond name r (e.noted r) := by
  by_cases hfail : r.operation ∈ e.failing
  · rw [engine_of_failing hfail] at h
    cases h
  · exact engine_of_not_failing hfail

/-- A request for a bus that is granted puts the bus that was asked for. -/
lemma Numbered.addBus_ok (he : e.Numbered name) (hname : Function.Injective name)
    {parent title inputs outputs id : String}
    (h : (engine name (.addBus parent title inputs outputs) e).1 = .ok id) :
    ∃ x : Bus, x.id = id ∧
      x.Fits parent title (Text.splitNames inputs) (Text.splitNames outputs) ∧
      (e.noted (.addBus parent title inputs outputs)).PutsBus x
        (engine name (.addBus parent title inputs outputs) e).2 := by
  have hengine := engine_of_ok h
  rw [hengine] at h ⊢
  generalize hnoted : e.noted (.addBus parent title inputs outputs) = n at h ⊢
  have hn : n.Numbered name := hnoted ▸ he.noted _
  by_cases hparent : n.canHold parent = true
  · simp only [respond, if_pos hparent] at h ⊢
    cases h
    exact hn.putBus hname parent title inputs outputs
  · simp [respond, hparent] at h

/-- A request for a module that is granted puts the module that was asked for. -/
lemma Numbered.addModule_ok (he : e.Numbered name) (hname : Function.Injective name)
    {bus id : String} {spec : ModuleSpec}
    (h : (engine name (.addModule bus spec) e).1 = .ok id) :
    ∃ x : Module, x.id = id ∧ x.Fits bus spec ∧
      (e.noted (.addModule bus spec)).PutsModule x (engine name (.addModule bus spec) e).2 := by
  have hengine := engine_of_ok h
  rw [hengine] at h ⊢
  generalize hnoted : e.noted (.addModule bus spec) = n at h ⊢
  have hn : n.Numbered name := hnoted ▸ he.noted _
  by_cases hbus : n.canHold bus = true
  · simp only [respond, if_pos hbus] at h ⊢
    cases h
    exact hn.putModule hname bus spec
  · simp [respond, hbus] at h

/-- A request for a connection that is granted puts a connection between the two addresses. -/
lemma Numbered.addConnection_ok (he : e.Numbered name) (hname : Function.Injective name)
    {origin target id : String}
    (h : (engine name (.addConnection origin target) e).1 = .ok id) :
    (e.noted (.addConnection origin target)).PutsConnection ⟨id, origin, target⟩
      (engine name (.addConnection origin target) e).2 := by
  have hengine := engine_of_ok h
  rw [hengine] at h ⊢
  generalize hnoted : e.noted (.addConnection origin target) = n at h ⊢
  have hn : n.Numbered name := hnoted ▸ he.noted _
  by_cases ho : origin ∈ n.sources
  · by_cases ht : target ∈ n.sinks
    · obtain rfl : name n.issued = id := by simpa [respond, ho, ht] using h
      simpa [respond, ho, ht] using hn.putConnection hname origin target
    · simp [respond, ho, ht] at h
  · simp [respond, ho] at h

/-! ### Every request -/

/-- What an engine does with each request. -/
structure Handles (name : Nat → String) (e : VirtualEngine) : Prop where
  /-- Every request is recorded, whatever the answer. -/
  recorded : ∀ r, (engine name r e).2.calls = e.calls ++ [r]
  /-- It is refused if it is set to fail or names something that does not exist. -/
  fails_iff : ∀ r, Fails name r e ↔ r.operation ∈ e.failing ∨ e.Lacks r
  /-- If it is refused, nothing but the record changes. -/
  failed : ∀ r, Fails name r e → (engine name r e).2 = e.noted r
  /-- Nor if it only lists ports. -/
  listed : ∀ r, r.IsListing → (engine name r e).2 = e.noted r
  /-- If it is granted, what it asks for is there, with the answer as its id. -/
  addedBus : ∀ parent title inputs outputs id,
    (engine name (.addBus parent title inputs outputs) e).1 = .ok id →
    ∃ x : Bus, x.id = id ∧
      x.Fits parent title (Text.splitNames inputs) (Text.splitNames outputs) ∧
      (e.noted (.addBus parent title inputs outputs)).PutsBus x
        (engine name (.addBus parent title inputs outputs) e).2
  addedModule : ∀ bus spec id, (engine name (.addModule bus spec) e).1 = .ok id →
    ∃ x : Module, x.id = id ∧ x.Fits bus spec ∧
      (e.noted (.addModule bus spec)).PutsModule x (engine name (.addModule bus spec) e).2
  addedConnection : ∀ origin target id,
    (engine name (.addConnection origin target) e).1 = .ok id →
    (e.noted (.addConnection origin target)).PutsConnection ⟨id, origin, target⟩
      (engine name (.addConnection origin target) e).2

/-- However an engine came about and whatever is set to fail, it records every request, refuses
just those that it has to, and changes nothing but what is asked for. -/
theorem handles_of_reachable (hname : Function.Injective name) (he : Reachable name e) :
    Handles name e where
  recorded r := (engine_calls name r e).1
  fails_iff r := he.booked.fails_iff r
  failed _ h := engine_of_fails h
  listed _ h := engine_of_isListing h
  addedBus _ _ _ _ _ h := he.numbered.addBus_ok hname h
  addedModule _ _ _ h := he.numbered.addModule_ok hname h
  addedConnection _ _ _ h := he.numbered.addConnection_ok hname h

/-- A bus was made, and then making buses was set to fail. -/
def echoEngine : VirtualEngine :=
  (engine numberedId (.addBus "" "echo" "in" "out") (new numberedId 1 1 [])).2.withFailing
    ["add_bus"]

/-- Another bus is refused, and so is the list of a module whose id is that of the bus. -/
theorem echoEngine_handles :
    Function.Injective numberedId ∧ Reachable numberedId echoEngine ∧
      Handles numberedId echoEngine ∧
      Fails numberedId (.addBus (numberedId 2) "inner" "" "") echoEngine ∧
      Fails numberedId (.listModulePorts (numberedId 2)) echoEngine := by
  have hname : Function.Injective numberedId := fun m n h => numberedId_distinct.injective m n h
  have hreached : Reachable numberedId echoEngine := .failing _ (.asked _ (.new 1 1))
  have hhandles : Handles numberedId echoEngine := handles_of_reachable hname hreached
  exact ⟨hname, hreached, hhandles, (hhandles.fails_iff _).mpr (.inl (by decide)),
    (hhandles.fails_iff _).mpr (.inr fun x hx => by cases hx)⟩

end VirtualEngine

end Patchbay
