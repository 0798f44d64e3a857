import Mathlib.Data.List.Induction
import Patchbay.Proofs.Engine.History
import Patchbay.Proofs.Engine.Virtual

/-!
# The virtual engine only grows

Whatever it is asked, an engine keeps what it holds, and puts new things behind it, with ids that
it issues for them.
-/

namespace Patchbay

namespace VirtualEngine

variable {name : Nat → String} {e e' : VirtualEngine}

/-! ### Single requests -/

@[simp] lemma noted_calls (e : VirtualEngine) (r : Request) :
    (e.noted r).calls = e.calls ++ [r] := rfl

/-- An operation that is set to fail is recorded and does nothing else. -/
lemma engine_of_failing {r : Request} (h : r.operation ∈ e.failing) :
    engine name r e = (.error (.rejected r.operation "failure injected"), e.noted r) :=
  if_pos (List.contains_iff_mem.mpr h)

lemma engine_of_not_failing {r : Request} (h : r.operation ∉ e.failing) :
    engine name r e = respond name r (e.noted r) :=
  if_neg (by simpa using h)

/-- What an engine can become: it stays as it is, or something is put into it. -/
inductive Next (name : Nat → String) (e : VirtualEngine) : VirtualEngine → Prop
  | same : Next name e e
  | bus (parent title inputs outputs : String) (hparent : e.canHold parent = true) :
      Next name e (e.putBus name parent title inputs outputs)
  | module (bus : String) (spec : ModuleSpec) (hbus : e.canHold bus = true) :
      Next name e (e.putModule name bus spec)
  | connection (origin target : String) (horigin : origin ∈ e.sources)
      (htarget : target ∈ e.sinks) : Next name e (e.putConnection name origin target)

/-- The answer to a request either leaves the engine as it is or puts one thing that may be put
there. -/
lemma respond_next (r : Request) (e : VirtualEngine) : Next name e (respond name r e).2 := by
  cases r with
  | listMain => exact .same
  | addBus parent title inputs outputs =>
    rw [respond]
    split_ifs with h
    · exact .bus parent title inputs outputs h
    · exact .same
  | listBusPorts bus =>
    rw [respond]
    split <;> exact .same
  | addModule bus spec =>
    rw [respond]
    split_ifs with h
    · exact .module bus spec h
    · exact .same
  | listModulePorts id =>
    rw [respond]
    split <;> exact .same
  | addConnection origin target =>
    rw [respond]
    split_ifs with ho ht
    · exact .same
    · exact .same
    · exact .connection origin target (by simpa using ho) (by simpa using ht)

/-- A request is noted, and then at most one thing is added. -/
lemma engine_next (name : Nat → String) (r : Request) (e : VirtualEngine) :
    Next name (e.noted r) (engine name r e).2 := by
  by_cases h : r.operation ∈ e.failing
  · rw [engine_of_failing h]
    exact .same
  · rw [engine_of_not_failing h]
    exact respond_next r _

/-- Every request is recorded, whether it is granted or not. -/
lemma engine_calls (name : Nat → String) (r : Request) (e : VirtualEngine) :
    (engine name r e).2.calls = e.calls ++ [r] ∧ (engine name r e).2.failing = e.failing := by
  have h := engine_next name r e
  revert h
  generalize (engine name r e).2 = e'
  rintro (_ | _ | _ | _) <;> exact ⟨rfl, rfl⟩

lemma replay_calls (requests : List Request) (h : e.calls = []) :
    ((engine name).replay requests e).calls = requests := by
  induction requests using List.reverseRecOn with
  | nil => exact h
  | append_singleton requests r ih => rw [Engine.replay_concat, (engine_calls name r _).1, ih]

/-! ### What an engine holds -/

/-- Buses, modules and connections, and the requests that they came from. -/
structure Content where
  buses : List Bus
  modules : List Module
  connections : List Connection
  calls : List Request

def Bus.allIds (x : Bus) : List String := x.id :: (x.ports.inputs ++ x.ports.outputs).map Port.id

def Module.allIds (x : Module) : List String :=
  x.id :: (x.ports.inputs ++ x.ports.outputs).map Port.id

namespace Content

def append (c more : Content) : Content where
  buses := c.buses ++ more.buses
  modules := c.modules ++ more.modules
  connections := c.connections ++ more.connections
  calls := c.calls ++ more.calls

def ids (c : Content) : List String :=
  c.buses.flatMap Bus.allIds ++ c.modules.flatMap Module.allIds ++
    c.connections.map Connection.id

def none : Content := ⟨[], [], [], []⟩

lemma none_append (c : Content) : none.append c = c := rfl

lemma append_none (c : Content) : c.append none = c := by
  simp [append, none]

lemma append_assoc (c d f : Content) : (c.append d).append f = c.append (d.append f) := by
  simp [append]

lemma mem_ids_of_bus {c : Content} {x : Bus} (hx : x ∈ c.buses) {id : String}
    (hid : id ∈ x.allIds) : id ∈ c.ids := by
  simp only [ids, List.mem_append, List.mem_flatMap]
  exact .inl (.inl ⟨x, hx, hid⟩)

lemma mem_ids_of_module {c : Content} {x : Module} (hx : x ∈ c.modules) {id : String}
    (hid : id ∈ x.allIds) : id ∈ c.ids := by
  simp only [ids, List.mem_append, List.mem_flatMap]
  exact .inl (.inr ⟨x, hx, hid⟩)

lemma append_left_cancel {c d d' : Content} (h : c.append d = c.append d') : d = d' := by
  obtain ⟨hb, hm, hc, hr⟩ := Content.mk.inj h
  cases d
  cases d'
  simp_all

lemma mem_ids_append {c d : Content} {id : String} :
    id ∈ (c.append d).ids ↔ id ∈ c.ids ∨ id ∈ d.ids := by
  simp only [ids, append, List.flatMap_append, List.map_append, List.mem_append]
  tauto

end Content

def content (e : VirtualEngine) : Content := ⟨e.buses, e.modules, e.connections, e.calls⟩

lemma content_noted (e : VirtualEngine) (r : Request) :
    (e.noted r).content = e.content.append ⟨[], [], [], [r]⟩ := by
  simp [content, Content.append, noted]

lemma content_putBus (e : VirtualEngine) (parent title inputs outputs : String) :
    (e.putBus name parent title inputs outputs).content = e.content.append
      ⟨[e.nextBus name parent title (Text.splitNames inputs) (Text.splitNames outputs)], [], [],
        []⟩ := by
  simp [content, putBus, nextBus, Content.append]

lemma content_putModule (e : VirtualEngine) (bus : String) (spec : ModuleSpec) :
    (e.putModule name bus spec).content =
      e.content.append ⟨[], [e.nextModule name bus spec], [], []⟩ := by
  simp [content, putModule, nextModule, Content.append]

lemma content_putConnection (e : VirtualEngine) (origin target : String) :
    (e.putConnection name origin target).content =
      e.content.append ⟨[], [], [⟨name e.issued, origin, target⟩], []⟩ := by
  simp [content, putConnection, Content.append]

/-- The ids of everything in an engine, its physical ports included. -/
def ids (e : VirtualEngine) : List String := e.mains.inputs ++ e.mains.outputs ++ e.content.ids

/-! ### Growing -/

/-- An id whose number lies between two numbers. -/
def IssuedIn (name : Nat → String) (m n : Nat) (id : String) : Prop :=
  ∃ k, m ≤ k ∧ k < n ∧ id = name k

lemma IssuedIn.mono {m m' n n' : Nat} {id : String} (h : IssuedIn name m n id) (hm : m' ≤ m)
    (hn : n ≤ n') : IssuedIn name m' n' id := by
  obtain ⟨k, hmk, hkn, rfl⟩ := h
  exact ⟨k, Nat.le_trans hm hmk, Nat.lt_of_lt_of_le hkn hn, rfl⟩

/-- The ids of ports are those that were issued for them. -/
lemma issuedIn_portsFrom (start : Nat) (names : List String) :
    ∀ p ∈ portsFrom name start names, IssuedIn name start (start + names.length) p.id := by
  intro p hp
  obtain ⟨k, hk, rfl⟩ := List.mem_iff_getElem.mp hp
  rw [length_portsFrom] at hk
  exact ⟨start + k, by omega, by omega, by simp [portsFrom, idsFrom]⟩

/-- An engine with more in it than before, under ids that it issued for this. -/
structure Grown (name : Nat → String) (e : VirtualEngine) (added : Content) (e' : VirtualEngine) :
    Prop where
  mains : e'.mains = e.mains
  failing : e'.failing = e.failing
  content : e'.content = e.content.append added
  issued : e.issued ≤ e'.issued
  ids : ∀ id ∈ added.ids, IssuedIn name e.issued e'.issued id
  sources : e.sources ⊆ e'.sources
  sinks : e.sinks ⊆ e'.sinks

lemma Grown.refl (e : VirtualEngine) : Grown name e .none e :=
  ⟨rfl, rfl, e.content.append_none.symm, Nat.le_refl _, by simp [Content.ids, Content.none],
    List.Subset.refl _, List.Subset.refl _⟩

/-- What is added later stands behind what was added before, with later ids. -/
lemma Grown.trans {e'' : VirtualEngine} {added added' : Content} (h : Grown name e added e')
    (h' : Grown name e' added' e'') : Grown name e (added.append added') e'' where
  mains := h'.mains.trans h.mains
  failing := h'.failing.trans h.failing
  content := by rw [h'.content, h.content, Content.append_assoc]
  issued := Nat.le_trans h.issued h'.issued
  ids := by
    intro id hid
    rcases Content.mem_ids_append.mp hid with hid | hid
    · exact (h.ids id hid).mono (Nat.le_refl _) h'.issued
    · exact (h'.ids id hid).mono h.issued (Nat.le_refl _)
  sources := List.Subset.trans h.sources h'.sources
  sinks := List.Subset.trans h.sinks h'.sinks

lemma grown_noted (e : VirtualEngine) (r : Request) :
    Grown name e ⟨[], [], [], [r]⟩ (e.noted r) :=
  ⟨rfl, rfl, content_noted e r, Nat.le_refl _, by simp [Content.ids], List.Subset.refl _,
    List.Subset.refl _⟩

/-- What is made next has an id and ports that are numbered from there on. -/
lemma issuedIn_next {first : Nat} {inputs outputs : List String} {id : String}
    (hid : id ∈ name first :: (portsFrom name (first + 1) inputs ++
      portsFrom name (first + 1 + inputs.length) outputs).map Port.id) :
    IssuedIn name first (first + 1 + inputs.length + outputs.length) id := by
  rcases List.mem_cons.mp hid with rfl | hid
  · exact ⟨first, by omega, by omega, rfl⟩
  · obtain ⟨p, hp, rfl⟩ := List.mem_map.mp hid
    rcases List.mem_append.mp hp with hp | hp
    · exact (issuedIn_portsFrom _ _ p hp).mono (by omega) (by omega)
    · exact (issuedIn_portsFrom _ _ p hp).mono (by omega) (by omega)

/-- A request adds something to an engine or nothing. -/
lemma Next.grown (h : Next name e e') : ∃ added, Grown name e added e' := by
  cases h with
  | same => exact ⟨_, .refl e⟩
  | bus parent title inputs outputs hparent =>
    refine ⟨_, rfl, rfl, content_putBus e parent title inputs outputs, ?_, ?_,
      List.subset_append_left _ _, List.subset_append_left _ _⟩
    · simp only [putBus]
      omega
    · intro id hid
      simp only [Content.ids, List.flatMap_cons, List.flatMap_nil, List.map_nil, List.append_nil,
        Bus.allIds, nextBus] at hid
      simpa [putBus] using issuedIn_next hid
  | module bus spec hbus =>
    refine ⟨_, rfl, rfl, content_putModule e bus spec, ?_, ?_, List.subset_append_left _ _,
      List.subset_append_left _ _⟩
    · simp only [putModule]
      omega
    · intro id hid
      simp only [Content.ids, List.flatMap_cons, List.flatMap_nil, List.map_nil, List.append_nil,
        List.nil_append, Module.allIds, nextModule] at hid
      simpa [putModule] using issuedIn_next hid
  | connection origin target horigin htarget =>
    refine ⟨_, rfl, rfl, content_putConnection e origin target, Nat.le_succ _, ?_,
      List.Subset.refl _, List.Subset.refl _⟩
    intro id hid
    obtain rfl : id = name e.issued := by simpa [Content.ids] using hid
    exact ⟨e.issued, Nat.le_refl _, Nat.lt_succ_self _, rfl⟩

lemma engine_grown (name : Nat → String) (r : Request) (e : VirtualEngine) :
    ∃ added, Grown name e added (engine name r e).2 := by
  obtain ⟨added, h⟩ := (engine_next name r e).grown
  exact ⟨_, (grown_noted e r).trans h⟩

/-- Over any requests an engine grows. -/
theorem replay_grown (name : Nat → String) (requests : List Request) (e : VirtualEngine) :
    ∃ added, Grown name e added ((engine name).replay requests e) := by
  induction requests using List.reverseRecOn with
  | nil => exact ⟨_, .refl e⟩
  | append_singleton requests r ih =>
    obtain ⟨added, h⟩ := ih
    obtain ⟨added', h'⟩ := engine_grown name r ((engine name).replay requests e)
    rw [Engine.replay_concat]
    exact ⟨_, h.trans h'⟩

/-- In a compilation an engine grows. -/
theorem compile_grown (name : Nat → String) (g : Graph) (e : VirtualEngine) :
    ∃ added, Grown name e added (compile (engine name) g e).2 := by
  refine compile_keeps (P := fun e' => ∃ added, Grown name e added e') ?_ g ⟨_, .refl e⟩
  rintro r e' ⟨added, h⟩
  obtain ⟨added', h'⟩ := engine_grown name r e'
  exact ⟨_, h.trans h'⟩

/-! ### Places -/

/-- Every bus and every module is in a bus that exists, or in none. -/
structure Placed (e : VirtualEngine) : Prop where
  buses : ∀ x ∈ e.buses, e.canHold x.parent = true
  modules : ∀ x ∈ e.modules, e.canHold x.bus = true

/-- An engine can put something outside of all buses, or into a bus that it has. -/
lemma canHold_iff {bus : String} :
    e.canHold bus = true ↔ bus = "" ∨ ∃ x ∈ e.buses, x.id = bus := by
  simp [canHold, bus?]

lemma canHold_mono {bus : String} (hbuses : e.buses ⊆ e'.buses) (h : e.canHold bus = true) :
    e'.canHold bus = true := by
  rw [canHold_iff] at h ⊢
  refine h.imp_right ?_
  rintro ⟨x, hx, rfl⟩
  exact ⟨x, hbuses hx, rfl⟩

/-- What is put somewhere is put into a bus that is there. -/
lemma Next.placed (h : Next name e e') (he : e.Placed) : e'.Placed := by
  cases h with
  | same => exact he
  | bus parent title inputs outputs hparent =>
    have hmore : e.buses ⊆ (e.putBus name parent title inputs outputs).buses :=
      List.subset_append_left _ _
    refine ⟨forall_mem_concat (fun x hx => ?_) ?_, fun x hx => ?_⟩
    · exact canHold_mono hmore (he.buses x hx)
    · exact canHold_mono hmore hparent
    · exact canHold_mono hmore (he.modules x hx)
  | module bus spec hbus => exact ⟨he.buses, forall_mem_concat he.modules hbus⟩
  | connection origin target horigin htarget => exact ⟨he.buses, he.modules⟩

/-- Whatever an engine is asked, everything in it has a place. -/
theorem replay_placed (requests : List Request) (he : e.Placed) :
    ((engine name).replay requests e).Placed := by
  induction requests using List.reverseRecOn with
  | nil => exact he
  | append_singleton requests r ih =>
    rw [Engine.replay_concat]
    exact (engine_next name r _).placed ⟨ih.buses, ih.modules⟩

end VirtualEngine

end Patchbay
