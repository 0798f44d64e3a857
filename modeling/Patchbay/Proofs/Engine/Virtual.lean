import Mathlib.Data.List.Nodup
import Patchbay.Engine.Conversation
import Patchbay.Engine.Virtual
import Patchbay.Proofs.Engine.Conversation
import Patchbay.Proofs.Lists
import Patchbay.Proofs.Text.Split

/-!
# The virtual engine does what it is asked

Ids are told apart and can stand in addresses, if the texts that they are made of do. Then the
engine finds what it has created, knows all addresses of it, and makes buses and modules without
an error.
-/

namespace Patchbay

namespace VirtualEngine

/-- Texts of ids that differ from each other and hold no separator of addresses. -/
structure Distinct (name : Nat → String) : Prop where
  injective : ∀ m n, name m = name n → m = n
  isOpaque : ∀ n, isOpaque (name n) = true

lemma toList_numberedId (n : Nat) :
    (numberedId n).toList = '\x7b' :: (Nat.toDigits 10 n ++ ['\x7d']) := by
  simp [numberedId, Nat.toString_eq_repr, Nat.toList_repr]

/-- Numbers in braces can be ids. -/
lemma numberedId_distinct : Distinct numberedId where
  injective := by
    intro m n h
    have hlist := congrArg String.toList h
    rw [toList_numberedId, toList_numberedId, List.cons_inj_right, List.append_left_inj] at hlist
    rw [← Nat.ofDigitChars_ten_toDigits (n := m), hlist, Nat.ofDigitChars_ten_toDigits]
  isOpaque := by
    intro n
    have hseparator : ∀ c ∈ addressSeparators, c.isDigit = false := by
      intro c hc
      simp only [addressSeparators, List.mem_cons, List.not_mem_nil, or_false] at hc
      rcases hc with rfl | rfl | rfl | rfl <;> rfl
    -- braces and digits are no separators
    have hdigit : ∀ c ∈ Nat.toDigits 10 n, c ∉ addressSeparators := by
      intro c hc hsep
      have hc := Nat.isDigit_of_mem_toDigits (by decide) (by decide) hc
      rw [hseparator c hsep] at hc
      cases hc
    simp only [Patchbay.isOpaque, toList_numberedId, List.all_eq_true, Bool.not_eq_true',
      List.contains_eq_mem, decide_eq_false_iff_not]
    intro c hc
    rcases List.mem_cons.mp hc with rfl | hc
    · decide
    · rcases List.mem_append.mp hc with hc | hc
      · exact hdigit c hc
      · obtain rfl := List.mem_singleton.mp hc
        decide

/-- An engine that has never failed on purpose, with ids of its own for all that it created, and
with all addresses of it. -/
structure Sound (name : Nat → String) (e : VirtualEngine) : Prop where
  failing : e.failing = []
  bus_ids : (e.buses.map Bus.id).Nodup
  module_ids : (e.modules.map Module.id).Nodup
  bus_issued : ∀ x ∈ e.buses, ∃ n < e.issued, x.id = name n
  module_issued : ∀ x ∈ e.modules, ∃ n < e.issued, x.id = name n
  main_source : ∀ id ∈ e.mains.inputs, (PortAddress.main id).text ∈ e.sources
  main_sink : ∀ id ∈ e.mains.outputs, (PortAddress.main id).text ∈ e.sinks
  bus_source : ∀ x ∈ e.buses, ∀ d, ∀ p ∈ x.ports.ports d,
    (PortAddress.bus x.id p.id).text ∈ e.sources
  bus_sink : ∀ x ∈ e.buses, ∀ d, ∀ p ∈ x.ports.ports d,
    (PortAddress.bus x.id p.id).text ∈ e.sinks
  module_source : ∀ x ∈ e.modules, ∀ p ∈ x.ports.outputs,
    (PortAddress.moduleOutput x.bus x.id p.id).text ∈ e.sources
  module_sink : ∀ x ∈ e.modules, ∀ p ∈ x.ports.inputs,
    (PortAddress.moduleInput x.bus x.id p.id).text ∈ e.sinks

variable {name : Nat → String} {e : VirtualEngine}

/-! ### Ports by their numbers -/

@[simp] lemma length_portsFrom (start : Nat) (names : List String) :
    (portsFrom name start names).length = names.length := by
  simp [portsFrom, idsFrom]

lemma names_portsFrom (start : Nat) (names : List String) :
    (portsFrom name start names).map Port.name = names := by
  rw [portsFrom, List.map_zipWith]
  simp only [idsFrom]
  apply List.ext_getElem <;> simp

/-- The ids of ports can be a part of an address. -/
lemma opaque_portsFrom (hname : Distinct name) (start : Nat) (names : List String) :
    ∀ p ∈ portsFrom name start names, isOpaque p.id = true := by
  intro p hp
  obtain ⟨n, hn, rfl⟩ := List.mem_iff_getElem.mp hp
  simp [portsFrom, idsFrom, hname.isOpaque]

/-! ### A fresh engine -/

/-- A fresh engine has nothing but physical ports, and knows their addresses. -/
lemma new_sound (name : Nat → String) (inputs outputs : Nat) :
    (new name inputs outputs []).Sound name where
  failing := rfl
  bus_ids := List.nodup_nil
  module_ids := List.nodup_nil
  bus_issued := by simp [new]
  module_issued := by simp [new]
  main_source _ h := List.mem_map_of_mem h
  main_sink _ h := List.mem_map_of_mem h
  bus_source := by simp [new]
  bus_sink := by simp [new]
  module_source := by simp [new]
  module_sink := by simp [new]

/-! ### Single requests -/

/-- The engine after it has noted a request. -/
def noted (e : VirtualEngine) (r : Request) : VirtualEngine := { e with calls := e.calls ++ [r] }

lemma Sound.noted (he : e.Sound name) (r : Request) : (e.noted r).Sound name :=
  ⟨he.failing, he.bus_ids, he.module_ids, he.bus_issued, he.module_issued, he.main_source,
    he.main_sink, he.bus_source, he.bus_sink, he.module_source, he.module_sink⟩

/-- Where no operation is set to fail, asking is responding. -/
lemma ask_iff (he : e.Sound name) (r : Request) {ok : r.Answer → VirtualEngine → Prop}
    {fail : EngineError → VirtualEngine → Prop} :
    Ends ((engine name).ask r) e ok fail ↔
      match respond name r (e.noted r) with
      | (.ok a, e') => ok a e'
      | (.error err, e') => fail err e' := by
  have hrun : engine name r e = respond name r (e.noted r) := by
    simp [engine, VirtualEngine.noted, he.failing]
  simp only [Ends, Engine.ask, ExceptT.run_mk, hrun]
  rcases respond name r (e.noted r) with ⟨_ | _, _⟩ <;> rfl

lemma bus?_of_mem (he : e.Sound name) {x : Bus} (hx : x ∈ e.buses) : e.bus? x.id = some x :=
  find?_of_nodup_map he.bus_ids hx

lemma module?_of_mem (he : e.Sound name) {x : Module} (hx : x ∈ e.modules) :
    e.module? x.id = some x :=
  find?_of_nodup_map he.module_ids hx

/-! ### Answers -/

section Answers

variable {fail : EngineError → VirtualEngine → Prop}

lemma listMain_iff (he : e.Sound name) {ok : MainPorts → VirtualEngine → Prop} :
    Ends ((engine name).ask .listMain) e ok fail ↔ ok e.mains (e.noted .listMain) := by
  rw [ask_iff he]
  rfl

/-- A bus can be put where something can be held, and gets the next id. -/
lemma addBus_iff (he : e.Sound name) {parent : String} (hparent : e.canHold parent = true)
    (title inputs outputs : String) {ok : String → VirtualEngine → Prop} :
    Ends ((engine name).ask (.addBus parent title inputs outputs)) e ok fail ↔
      ok (name e.issued) ((e.noted (.addBus parent title inputs outputs)).putBus name parent title
        inputs outputs) := by
  have hhold : (e.noted (.addBus parent title inputs outputs)).canHold parent = true := hparent
  rw [ask_iff he, respond, if_pos hhold]
  rfl

lemma listBusPorts_iff (he : e.Sound name) {x : Bus} (hx : x ∈ e.buses)
    {ok : PortList → VirtualEngine → Prop} :
    Ends ((engine name).ask (.listBusPorts x.id)) e ok fail ↔
      ok x.ports (e.noted (.listBusPorts x.id)) := by
  have hfound : (e.noted (.listBusPorts x.id)).bus? x.id = some x := bus?_of_mem he hx
  rw [ask_iff he, respond, hfound]

lemma addModule_iff (he : e.Sound name) {bus : String} (hbus : e.canHold bus = true)
    (spec : ModuleSpec) {ok : String → VirtualEngine → Prop} :
    Ends ((engine name).ask (.addModule bus spec)) e ok fail ↔
      ok (name e.issued) ((e.noted (.addModule bus spec)).putModule name bus spec) := by
  have hhold : (e.noted (.addModule bus spec)).canHold bus = true := hbus
  rw [ask_iff he, respond, if_pos hhold]
  rfl

lemma listModulePorts_iff (he : e.Sound name) {x : Module} (hx : x ∈ e.modules)
    {ok : PortList → VirtualEngine → Prop} :
    Ends ((engine name).ask (.listModulePorts x.id)) e ok fail ↔
      ok x.ports (e.noted (.listModulePorts x.id)) := by
  have hfound : (e.noted (.listModulePorts x.id)).module? x.id = some x := module?_of_mem he hx
  rw [ask_iff he, respond, hfound]

/-- Two addresses that are known can be connected. -/
lemma addConnection_iff (he : e.Sound name) {origin target : String} (ho : origin ∈ e.sources)
    (ht : target ∈ e.sinks) {ok : String → VirtualEngine → Prop} :
    Ends ((engine name).ask (.addConnection origin target)) e ok fail ↔
      ok (name e.issued)
        ((e.noted (.addConnection origin target)).putConnection name origin target) := by
  have hsource : (e.noted (.addConnection origin target)).sources.contains origin = true :=
    List.contains_iff_mem.mpr ho
  have hsink : (e.noted (.addConnection origin target)).sinks.contains target = true :=
    List.contains_iff_mem.mpr ht
  rw [ask_iff he, respond, hsource, hsink]
  rfl

end Answers

/-! ### Requests that add something -/

/-- An id that was not issued yet is not one of those that were. -/
lemma notMem_of_issued {α : Type} {id : α → String} {xs : List α} {n : Nat}
    (hname : Distinct name) (h : ∀ x ∈ xs, ∃ m < n, id x = name m) : name n ∉ xs.map id := by
  intro hn
  obtain ⟨x, hx, hid⟩ := List.mem_map.mp hn
  obtain ⟨m, hm, hxm⟩ := h x hx
  exact absurd (hname.injective m n (hxm.symm.trans hid)) (Nat.ne_of_lt hm)

def nextBus (name : Nat → String) (e : VirtualEngine) (parent title : String)
    (inputs outputs : List String) : Bus :=
  ⟨name e.issued, parent, title,
    ⟨portsFrom name (e.issued + 1) inputs,
      portsFrom name (e.issued + 1 + inputs.length) outputs⟩⟩

def nextModule (name : Nat → String) (e : VirtualEngine) (bus : String) (spec : ModuleSpec) :
    Module :=
  ⟨name e.issued, bus, spec,
    ⟨portsFrom name (e.issued + 1) spec.type.inputNames,
      portsFrom name (e.issued + 1 + spec.type.inputNames.length) spec.type.outputNames⟩⟩

/-- After a bus was put the engine finds it by its id and knows the addresses of all its ports. -/
lemma putBus_sound (hname : Distinct name) (he : e.Sound name) (parent title : String)
    {inputs outputs : String} {ins outs : List String} (hins : Text.splitNames inputs = ins)
    (houts : Text.splitNames outputs = outs) :
    (e.putBus name parent title inputs outputs).Sound name ∧
      (e.putBus name parent title inputs outputs).buses
        = e.buses ++ [e.nextBus name parent title ins outs] := by
  subst hins houts
  have hbuses : (e.putBus name parent title inputs outputs).buses = e.buses ++
      [e.nextBus name parent title (Text.splitNames inputs) (Text.splitNames outputs)] := by
    simp [putBus, nextBus]
  have haddress : ∀ d, ∀ p ∈ (e.nextBus name parent title (Text.splitNames inputs)
      (Text.splitNames outputs)).ports.ports d, (PortAddress.bus (name e.issued) p.id).text ∈
        ((portsFrom name (e.issued + 1) (Text.splitNames inputs)) ++
          portsFrom name (e.issued + 1 + (portsFrom name (e.issued + 1)
            (Text.splitNames inputs)).length) (Text.splitNames outputs)).map
              fun p => (PortAddress.bus (name e.issued) p.id).text := by
    rintro (_ | _) p hp
    · exact List.mem_map_of_mem (List.mem_append_left _ hp)
    · rw [length_portsFrom]
      exact List.mem_map_of_mem (List.mem_append_right _ hp)
  refine ⟨⟨he.failing, ?_, he.module_ids, ?_, ?_, ?_, ?_, ?_, ?_, ?_, ?_⟩, hbuses⟩
  · rw [hbuses]
    -- the next id was never issued before
    exact nodup_concat he.bus_ids (notMem_of_issued hname he.bus_issued)
  · rw [hbuses]
    refine forall_mem_concat (fun x hx => ?_) ⟨e.issued, by simp [putBus]; omega, rfl⟩
    obtain ⟨n, hn, hid⟩ := he.bus_issued x hx
    exact ⟨n, by simp [putBus]; omega, hid⟩
  · intro x hx
    obtain ⟨n, hn, hid⟩ := he.module_issued x hx
    exact ⟨n, by simp [putBus]; omega, hid⟩
  · exact fun id hid => List.mem_append_left _ (he.main_source id hid)
  · exact fun id hid => List.mem_append_left _ (he.main_sink id hid)
  · rw [hbuses]
    refine forall_mem_concat (fun x hx d p hp => ?_) fun d p hp => ?_
    · exact List.mem_append_left _ (he.bus_source x hx d p hp)
    · exact List.mem_append_right _ (haddress d p hp)
  · rw [hbuses]
    refine forall_mem_concat (fun x hx d p hp => ?_) fun d p hp => ?_
    · exact List.mem_append_left _ (he.bus_sink x hx d p hp)
    · exact List.mem_append_right _ (haddress d p hp)
  · exact fun x hx p hp => List.mem_append_left _ (he.module_source x hx p hp)
  · exact fun x hx p hp => List.mem_append_left _ (he.module_sink x hx p hp)

/-- After a module was put the engine finds it and knows the addresses of its ports. -/
lemma putModule_sound (hname : Distinct name) (he : e.Sound name) (bus : String)
    (spec : ModuleSpec) :
    (e.putModule name bus spec).Sound name ∧
      (e.putModule name bus spec).modules = e.modules ++ [e.nextModule name bus spec] := by
  have hmodules : (e.putModule name bus spec).modules
      = e.modules ++ [e.nextModule name bus spec] := by
    simp [putModule, nextModule]
  have hissued : e.issued < (e.putModule name bus spec).issued := by
    simp only [putModule]
    omega
  refine ⟨⟨he.failing, he.bus_ids, ?_, ?_, ?_, ?_, ?_, ?_, ?_, ?_, ?_⟩, hmodules⟩
  · rw [hmodules]
    exact nodup_concat he.module_ids (notMem_of_issued hname he.module_issued)
  · intro x hx
    obtain ⟨n, hn, hid⟩ := he.bus_issued x hx
    exact ⟨n, Nat.lt_trans hn hissued, hid⟩
  · rw [hmodules]
    refine forall_mem_concat (fun x hx => ?_) ⟨e.issued, hissued, rfl⟩
    obtain ⟨n, hn, hid⟩ := he.module_issued x hx
    exact ⟨n, Nat.lt_trans hn hissued, hid⟩
  · exact fun id hid => List.mem_append_left _ (he.main_source id hid)
  · exact fun id hid => List.mem_append_left _ (he.main_sink id hid)
  · exact fun x hx d p hp => List.mem_append_left _ (he.bus_source x hx d p hp)
  · exact fun x hx d p hp => List.mem_append_left _ (he.bus_sink x hx d p hp)
  · rw [hmodules]
    refine forall_mem_concat (fun x hx p hp => ?_) fun p hp => ?_
    · exact List.mem_append_left _ (he.module_source x hx p hp)
    · refine List.mem_append_right _ (List.mem_map.mpr ⟨p, ?_, rfl⟩)
      simpa [nextModule] using hp
  · rw [hmodules]
    refine forall_mem_concat (fun x hx p hp => ?_) fun p hp => ?_
    · exact List.mem_append_left _ (he.module_sink x hx p hp)
    · exact List.mem_append_right _ (List.mem_map.mpr ⟨p, hp, rfl⟩)

lemma putConnection_sound (he : e.Sound name) (origin target : String) :
    (e.putConnection name origin target).Sound name := by
  have hissued : e.issued < (e.putConnection name origin target).issued := Nat.lt_succ_self _
  refine ⟨he.failing, he.bus_ids, he.module_ids, ?_, ?_, he.main_source, he.main_sink,
    he.bus_source, he.bus_sink, he.module_source, he.module_sink⟩
  · intro x hx
    obtain ⟨n, hn, hid⟩ := he.bus_issued x hx
    exact ⟨n, Nat.lt_trans hn hissued, hid⟩
  · intro x hx
    obtain ⟨n, hn, hid⟩ := he.module_issued x hx
    exact ⟨n, Nat.lt_trans hn hissued, hid⟩

/-! ### Conversations -/

/-- A bus with ports of given names in a given place. -/
structure Bus.Fits (x : Bus) (parent title : String) (inputs outputs : List String) : Prop where
  parent : x.parent = parent
  title : x.title = title
  inputs : x.ports.inputs.map Port.name = inputs
  outputs : x.ports.outputs.map Port.name = outputs

def Bus.ids (x : Bus) : BusIds :=
  ⟨x.id, x.ports.inputs.map Port.id, x.ports.outputs.map Port.id⟩

structure Module.Fits (x : Module) (bus : String) (spec : ModuleSpec) : Prop where
  bus : x.bus = bus
  spec : x.spec = spec
  inputs : x.ports.inputs.map Port.name = x.spec.type.inputNames
  outputs : x.ports.outputs.map Port.name = x.spec.type.outputNames

def Module.ids (x : Module) : ModuleIds := ⟨x.id, x.ports⟩

/-- A bus with valid names of ports can be made in any bus that exists. -/
lemma newBus_ends (hname : Distinct name) (he : e.Sound name) {parent : String}
    (hparent : e.canHold parent = true) (title : String) {inputs outputs : List String}
    (hinputs : Text.splitNames (Text.joinCommas inputs) = inputs)
    (houtputs : Text.splitNames (Text.joinCommas outputs) = outputs) :
    Ends ((engine name).newBus parent title inputs outputs) e
      (fun ids e' => e'.Sound name ∧ e'.mains = e.mains ∧ e'.modules = e.modules ∧
        e'.connections = e.connections ∧
        ∃ x, e'.buses = e.buses ++ [x] ∧ x.Fits parent title inputs outputs ∧ ids = x.ids)
      (fun _ _ => False) := by
  obtain ⟨hsound, hbuses⟩ := putBus_sound hname (he.noted (.addBus parent title
    (Text.joinCommas inputs) (Text.joinCommas outputs))) parent title hinputs houtputs
  have hmem := List.mem_append_right e.buses (List.mem_singleton_self
    ((e.noted (.addBus parent title (Text.joinCommas inputs)
      (Text.joinCommas outputs))).nextBus name parent title inputs outputs))
  rw [Engine.newBus, Ends.bind_iff, addBus_iff he hparent, Ends.bind_iff,
    checkOpaque_ok_iff.mpr (hname.isOpaque _), Ends.proceed_ok, Ends.bind_iff]
  refine (listBusPorts_iff hsound (hbuses ▸ hmem)).mpr ?_
  simp only [nextBus]
  have hids : ∀ bus d first (names : List String),
      busPortIds bus d (portsFrom name first names) names.length =
        .ok ((portsFrom name first names).map Port.id) := fun _ _ first names =>
    busPortIds_ok_iff.mpr ⟨length_portsFrom first names, opaque_portsFrom hname first names, rfl⟩
  rw [Ends.bind_iff, hids, Ends.proceed_ok, Ends.bind_iff, hids, Ends.proceed_ok, Ends.pure_iff]
  exact ⟨hsound.noted _, rfl, rfl, rfl, _, hbuses,
    ⟨rfl, rfl, names_portsFrom _ _, names_portsFrom _ _⟩, rfl⟩

/-- A module can be made in any bus that exists. -/
lemma newModule_ends (hname : Distinct name) (he : e.Sound name) {bus : String}
    (hbus : e.canHold bus = true) (spec : ModuleSpec) :
    Ends ((engine name).newModule bus spec) e
      (fun ids e' => e'.Sound name ∧ e'.mains = e.mains ∧ e'.buses = e.buses ∧
        e'.connections = e.connections ∧
        ∃ x, e'.modules = e.modules ++ [x] ∧ x.Fits bus spec ∧ ids = x.ids)
      (fun _ _ => False) := by
  obtain ⟨hsound, hmodules⟩ := putModule_sound hname (he.noted (.addModule bus spec)) bus spec
  have hmem := List.mem_append_right e.modules
    (List.mem_singleton_self ((e.noted (.addModule bus spec)).nextModule name bus spec))
  have hports : ((nextModule name (e.noted (.addModule bus spec)) bus spec).ports.inputs ++
      (nextModule name (e.noted (.addModule bus spec)) bus spec).ports.outputs).forM
        (fun p => checkOpaque "list_module_port" p.id) = .ok () := by
    refine forM_checkOpaque_ok_iff.mpr fun p hp => ?_
    rcases List.mem_append.mp hp with hp | hp
    · exact opaque_portsFrom hname _ _ p hp
    · exact opaque_portsFrom hname _ _ p hp
  rw [Engine.newModule, Ends.bind_iff, addModule_iff he hbus, Ends.bind_iff,
    checkOpaque_ok_iff.mpr (hname.isOpaque _), Ends.proceed_ok, Ends.bind_iff]
  refine (listModulePorts_iff hsound (hmodules ▸ hmem)).mpr ?_
  rw [Ends.bind_iff, hports, Ends.proceed_ok, Ends.pure_iff]
  exact ⟨hsound.noted _, rfl, rfl, rfl, _, hmodules,
    ⟨rfl, rfl, names_portsFrom _ _, names_portsFrom _ _⟩, rfl⟩

/-- A connection can be made between addresses that are known. -/
lemma addConnection_ends (he : e.Sound name) {origin target : String} (ho : origin ∈ e.sources)
    (ht : target ∈ e.sinks) :
    Ends ((engine name).ask (.addConnection origin target)) e
      (fun id e' => e'.Sound name ∧ e'.mains = e.mains ∧ e'.buses = e.buses ∧
        e'.modules = e.modules ∧ e'.connections = e.connections ++ [⟨id, origin, target⟩])
      (fun _ _ => False) :=
  (addConnection_iff he ho ht).mpr
    ⟨putConnection_sound (he.noted _) origin target, rfl, rfl, rfl, rfl⟩

end VirtualEngine

end Patchbay
