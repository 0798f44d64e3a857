import Patchbay.Proofs.Compile.Renaming
import Patchbay.Proofs.Compile.Success
import Patchbay.Proofs.Engine.Ports

/-!
# Engines that were used before

What an engine holds already does not get in the way of a compilation. The compilation ends as it
does for a fresh engine, and adds what it would add there, under other ids; nothing that it adds
touches anything that was there before.
-/

namespace Patchbay

variable {ρ : String → String → Prop}

namespace VirtualEngine

/-- Texts of ids that no id of a missing bus is taken for. -/
structure Names (name : Nat → String) : Prop extends Distinct name where
  ne_empty : ∀ n, name n ≠ ""

lemma numberedId_names : Names numberedId where
  toDistinct := numberedId_distinct
  ne_empty n h := by simpa [toList_numberedId] using congrArg String.toList h

/-! ### Renamed content -/

section Renamed

variable (ρ)

structure Bus.Renamed (x y : Bus) : Prop where
  id : ρ x.id y.id
  parent : ρ x.parent y.parent
  title : x.title = y.title
  ports : x.ports.Renamed ρ y.ports

structure Module.Renamed (x y : Module) : Prop where
  id : ρ x.id y.id
  bus : ρ x.bus y.bus
  spec : x.spec = y.spec
  ports : x.ports.Renamed ρ y.ports

/-- The texts of the same address, in one engine and in the other. -/
def TextRenamed (x y : String) : Prop :=
  ∃ a b : PortAddress, a.Renamed ρ b ∧ x = a.text ∧ y = b.text

structure Connection.Renamed (x y : Connection) : Prop where
  id : ρ x.id y.id
  origin : TextRenamed ρ x.origin y.origin
  target : TextRenamed ρ x.target y.target

structure Content.Renamed (c d : Content) : Prop where
  buses : List.Forall₂ (Bus.Renamed ρ) c.buses d.buses
  modules : List.Forall₂ (Module.Renamed ρ) c.modules d.modules
  connections : List.Forall₂ (Connection.Renamed ρ) c.connections d.connections
  calls : List.Forall₂ (Request.Renamed ρ) c.calls d.calls

/-- Every address of the one list is in the other one, renamed. -/
def AddressesRenamed (xs ys : List String) : Prop := ∀ x ∈ xs, ∃ y ∈ ys, TextRenamed ρ x y

end Renamed

/-- What is added on both sides is renamed as what was there is. -/
lemma Content.Renamed.append {c d c' d' : Content} (h : c.Renamed ρ d) (h' : c'.Renamed ρ d') :
    (c.append c').Renamed ρ (d.append d') :=
  ⟨List.rel_append h.buses h'.buses, List.rel_append h.modules h'.modules,
    List.rel_append h.connections h'.connections, List.rel_append h.calls h'.calls⟩

/-- Lists of addresses are renamed part by part. -/
lemma AddressesRenamed.append {xs ys xs' ys' : List String} (h : AddressesRenamed ρ xs ys)
    (h' : AddressesRenamed ρ xs' ys') : AddressesRenamed ρ (xs ++ xs') (ys ++ ys') := by
  intro x hx
  rcases List.mem_append.mp hx with hx | hx
  · obtain ⟨y, hy, hxy⟩ := h x hx
    exact ⟨y, List.mem_append_left _ hy, hxy⟩
  · obtain ⟨y, hy, hxy⟩ := h' x hx
    exact ⟨y, List.mem_append_right _ hy, hxy⟩

/-- Things with renamed addresses have their addresses renamed. -/
lemma AddressesRenamed.of_map {α : Type} {P : α → α → Prop} {xs ys : List α}
    {address address' : α → PortAddress} (h : List.Forall₂ P xs ys)
    (haddress : ∀ x y, P x y → (address x).Renamed ρ (address' y)) :
    AddressesRenamed ρ (xs.map fun x => (address x).text) (ys.map fun y => (address' y).text) := by
  intro text htext
  obtain ⟨x, hx, rfl⟩ := List.mem_map.mp htext
  obtain ⟨y, hy, hxy⟩ := forall₂_exists_right h hx
  exact ⟨_, List.mem_map_of_mem hy, _, _, haddress x y hxy, rfl, rfl⟩

/-- An address is known if the one that it stands for is. -/
lemma AddressesRenamed.mem (hρ : Renaming ρ) {xs ys : List String} (h : AddressesRenamed ρ xs ys)
    {a b : PortAddress} (hab : a.Renamed ρ b) (ha : a.text ∈ xs) : b.text ∈ ys := by
  obtain ⟨_, hy, a', b', hab', htext, rfl⟩ := h _ ha
  obtain rfl := PortAddress.text_injective (hab.separable hρ).1 (hab'.separable hρ).1 htext
  rwa [hab.right_unique hρ hab']

/-! ### Numbers of ids -/

/-- The number that an engine in use gives to what a fresh one gives a number. The first ones are
those of physical ports; the other ones come after all that were issued. -/
def shift (first issued n : Nat) : Nat := if n < first then n else issued + (n - first)

/-- The ids of a fresh engine, and those of an engine in use in their place. -/
def shifted (fresh name : Nat → String) (first issued : Nat) (x y : String) : Prop :=
  x = "" ∧ y = "" ∨ ∃ n, x = fresh n ∧ y = name (shift first issued n)

section Shift

variable {fresh name : Nat → String} {first issued : Nat}

/-- Numbers are shifted apart: those of the physical ports stay, and the others go behind what was
issued. -/
lemma shift_injective (h : first ≤ issued) {m n : Nat}
    (hmn : shift first issued m = shift first issued n) : m = n := by
  unfold shift at hmn
  split_ifs at hmn <;> omega

lemma shift_add (n : Nat) : shift first issued (first + n) = issued + n := by
  simp [shift]

/-- The renaming by shifted numbers goes one way and back, and takes ids that can stand in addresses
to such ids. -/
lemma shifted_renaming (hfresh : Names fresh) (hname : Names name) (h : first ≤ issued) :
    Renaming (shifted fresh name first issued) where
  empty := .inl ⟨rfl, rfl⟩
  isOpaque := by
    rintro x y (⟨rfl, rfl⟩ | ⟨n, rfl, rfl⟩)
    · exact ⟨by decide, by decide⟩
    · exact ⟨hfresh.isOpaque n, hname.isOpaque _⟩
  one_to_one := by
    rintro x y x' y' (⟨rfl, rfl⟩ | ⟨n, rfl, rfl⟩) (⟨rfl, rfl⟩ | ⟨n', rfl, rfl⟩)
    · simp
    · exact iff_of_false (hfresh.ne_empty n').symm (hname.ne_empty _).symm
    · exact iff_of_false (hfresh.ne_empty n) (hname.ne_empty _)
    · constructor
      · intro heq
        rw [hfresh.injective _ _ heq]
      · intro heq
        rw [shift_injective h (hname.injective _ _ heq)]

/-- An id that stands for one of a fresh engine is no id that was issued before, unless it is one
of a physical port. -/
lemma not_issuedIn_of_shifted (hname : Names name) {x y : String}
    (hxy : shifted fresh name first issued x y) : ¬ IssuedIn name first issued y := by
  rintro ⟨k, hmk, hk, hy⟩
  obtain ⟨-, rfl⟩ | ⟨n, -, rfl⟩ := hxy
  · exact hname.ne_empty k hy.symm
  · have hshift := hname.injective _ _ hy
    unfold shift at hshift
    split_ifs at hshift <;> omega

lemma shifted_main {n : Nat} (h : n < first) : shifted fresh name first issued (fresh n) (name n) :=
  .inr ⟨n, rfl, by rw [shift, if_pos h]⟩

lemma shifted_add (n : Nat) :
    shifted fresh name first issued (fresh (first + n)) (name (issued + n)) :=
  .inr ⟨first + n, rfl, by rw [shift_add]⟩

/-- Ports that are made at corresponding times are corresponding ports. -/
lemma portsFrom_renamed (n : Nat) (names : List String) :
    List.Forall₂ (Port.Renamed (shifted fresh name first issued))
      (portsFrom fresh (first + n) names) (portsFrom name (issued + n) names) := by
  have hcons : ∀ (f : Nat → String) start port ports,
      portsFrom f start (port :: ports) = ⟨f start, port⟩ :: portsFrom f (start + 1) ports := by
    intro f start port ports
    simp [portsFrom, idsFrom, List.range'_succ]
  induction names generalizing n with
  | nil => exact .nil
  | cons port ports ih =>
    rw [hcons, hcons]
    exact .cons ⟨shifted_add n, rfl⟩ (ih (n + 1))

end Shift

/-! ### Two engines side by side -/

section Beside

variable {fresh name : Nat → String} {used s t : VirtualEngine} {first : Nat}

/-- A fresh engine, and an engine that was used before and was then asked for the same. -/
structure Beside (fresh name : Nat → String) (used : VirtualEngine) (first : Nat)
    (s t : VirtualEngine) : Prop where
  failing : s.failing = [] ∧ t.failing = []
  issued : ∃ n, s.issued = first + n ∧ t.issued = used.issued + n
  mains : s.mains.Renamed (shifted fresh name first used.issued) t.mains
  content : ∃ added, t.content = used.content.append added ∧
    s.content.Renamed (shifted fresh name first used.issued) added
  sources : AddressesRenamed (shifted fresh name first used.issued) s.sources t.sources
  sinks : AddressesRenamed (shifted fresh name first used.issued) s.sinks t.sinks

/-- Corresponding things are put into both engines. -/
lemma Beside.put (h : Beside fresh name used first s t) {s' t' : VirtualEngine} {c d : Content}
    (hs : s'.content = s.content.append c) (ht : t'.content = t.content.append d)
    (hcd : c.Renamed (shifted fresh name first used.issued) d) :
    ∃ added, t'.content = used.content.append added ∧
      s'.content.Renamed (shifted fresh name first used.issued) added := by
  obtain ⟨added, hcontent, hadded⟩ := h.content
  refine ⟨added.append d, ?_, ?_⟩
  · rw [ht, hcontent, Content.append_assoc]
  · rw [hs]
    exact hadded.append hcd

lemma Beside.noted (h : Beside fresh name used first s t) {r r' : Request}
    (hr : r.Renamed (shifted fresh name first used.issued) r') :
    Beside fresh name used first (s.noted r) (t.noted r') :=
  ⟨h.failing, h.issued, h.mains,
    h.put (content_noted s r) (content_noted t r') ⟨.nil, .nil, .nil, .cons hr .nil⟩, h.sources,
    h.sinks⟩

/-- The id that is issued next. -/
lemma Beside.next_id (h : Beside fresh name used first s t) :
    shifted fresh name first used.issued (fresh s.issued) (name t.issued) := by
  obtain ⟨n, hs, ht⟩ := h.issued
  rw [hs, ht]
  exact shifted_add n

/-- The ports that are made next. -/
lemma Beside.next_ports (h : Beside fresh name used first s t) (k : Nat) (names : List String) :
    List.Forall₂ (Port.Renamed (shifted fresh name first used.issued))
      (portsFrom fresh (s.issued + k) names) (portsFrom name (t.issued + k) names) := by
  obtain ⟨n, hs, ht⟩ := h.issued
  rw [hs, ht, Nat.add_assoc, Nat.add_assoc]
  exact portsFrom_renamed (n + k) names

/-- A bus that is put into both engines gets the next ids on both sides, and so do its ports. -/
lemma Beside.putBus (h : Beside fresh name used first s t) {parent parent' : String}
    (hparent : shifted fresh name first used.issued parent parent')
    (title inputs outputs : String) :
    Beside fresh name used first (s.putBus fresh parent title inputs outputs)
      (t.putBus name parent' title inputs outputs) := by
  have hins := h.next_ports 1 (Text.splitNames inputs)
  have houts := h.next_ports (1 + (Text.splitNames inputs).length) (Text.splitNames outputs)
  have haddresses : AddressesRenamed (shifted fresh name first used.issued)
      ((portsFrom fresh (s.issued + 1) (Text.splitNames inputs) ++
        portsFrom fresh (s.issued + (1 + (Text.splitNames inputs).length))
          (Text.splitNames outputs)).map fun p => (PortAddress.bus (fresh s.issued) p.id).text)
      ((portsFrom name (t.issued + 1) (Text.splitNames inputs) ++
        portsFrom name (t.issued + (1 + (Text.splitNames inputs).length))
          (Text.splitNames outputs)).map fun p => (PortAddress.bus (name t.issued) p.id).text) :=
    .of_map (List.rel_append hins houts) fun _ _ hp => .bus h.next_id hp.id
  refine ⟨h.failing, ?_, h.mains, ?_, ?_, ?_⟩
  · -- both have issued the same number of ids since the start
    obtain ⟨n, hs, ht⟩ := h.issued
    refine ⟨n + 1 + (Text.splitNames inputs).length + (Text.splitNames outputs).length, ?_, ?_⟩ <;>
      simp only [VirtualEngine.putBus, length_portsFrom] <;> omega
  · refine h.put (content_putBus _ _ _ _ _) (content_putBus _ _ _ _ _)
      ⟨.cons ⟨h.next_id, hparent, rfl, hins, ?_⟩ .nil, .nil, .nil, .nil⟩
    simpa only [nextBus, Nat.add_assoc] using houts
  · refine h.sources.append ?_
    simpa only [length_portsFrom, Nat.add_assoc] using haddresses
  · refine h.sinks.append ?_
    simpa only [length_portsFrom, Nat.add_assoc] using haddresses

/-- A module that is put into both engines gets the next ids on both sides. -/
lemma Beside.putModule (h : Beside fresh name used first s t) {bus bus' : String}
    (hbus : shifted fresh name first used.issued bus bus') (spec : ModuleSpec) :
    Beside fresh name used first (s.putModule fresh bus spec) (t.putModule name bus' spec) := by
  have hins := h.next_ports 1 spec.type.inputNames
  have houts := h.next_ports (1 + spec.type.inputNames.length) spec.type.outputNames
  refine ⟨h.failing, ?_, h.mains, ?_, ?_, ?_⟩
  · obtain ⟨n, hs, ht⟩ := h.issued
    refine ⟨n + 1 + spec.type.inputNames.length + spec.type.outputNames.length, ?_, ?_⟩ <;>
      simp only [VirtualEngine.putModule, length_portsFrom] <;> omega
  · refine h.put (content_putModule _ _ _) (content_putModule _ _ _)
      ⟨.nil, .cons ⟨h.next_id, hbus, rfl, hins, ?_⟩ .nil, .nil, .nil⟩
    simpa only [nextModule, Nat.add_assoc] using houts
  · refine h.sources.append ?_
    simpa only [length_portsFrom, Nat.add_assoc] using
      AddressesRenamed.of_map houts fun _ _ hp => .moduleOutput hbus h.next_id hp.id
  · exact h.sinks.append (.of_map hins fun _ _ hp => .moduleInput hbus h.next_id hp.id)

lemma Beside.putConnection (h : Beside fresh name used first s t)
    {origin origin' target target' : String}
    (horigin : TextRenamed (shifted fresh name first used.issued) origin origin')
    (htarget : TextRenamed (shifted fresh name first used.issued) target target') :
    Beside fresh name used first (s.putConnection fresh origin target)
      (t.putConnection name origin' target') := by
  refine ⟨h.failing, ?_, h.mains, ?_, h.sources, h.sinks⟩
  · obtain ⟨n, hs, ht⟩ := h.issued
    exact ⟨n + 1, congrArg (· + 1) hs, congrArg (· + 1) ht⟩
  · exact h.put (content_putConnection _ _ _) (content_putConnection _ _ _)
      ⟨.nil, .nil, .cons ⟨h.next_id, horigin, htarget⟩ .nil, .nil⟩

/-! ### Requests to both engines -/

/-- An engine whose ids, but for those of the physical ports, come after a number. -/
def UsedFrom (name : Nat → String) (first : Nat) (used : VirtualEngine) : Prop :=
  first ≤ used.issued ∧ ∀ id ∈ used.content.ids, IssuedIn name first used.issued id

/-- No renamed id was there before. -/
lemma notMem_ids (hname : Names name) (hused : UsedFrom name first used) {x y : String}
    (hxy : shifted fresh name first used.issued x y) : y ∉ used.content.ids :=
  fun hy => not_issuedIn_of_shifted hname hxy (hused.2 y hy)

/-- A bus is found in both engines, or in none. -/
lemma Beside.bus? (hfresh : Names fresh) (hname : Names name) (hused : UsedFrom name first used)
    (h : Beside fresh name used first s t) {x y : String}
    (hxy : shifted fresh name first used.issued x y) :
    Option.Rel (Bus.Renamed (shifted fresh name first used.issued)) (s.bus? x) (t.bus? y) := by
  have hρ := shifted_renaming hfresh hname hused.1
  obtain ⟨added, hcontent, hadded⟩ := h.content
  have hbuses : t.buses = used.buses ++ added.buses := congrArg Content.buses hcontent
  have hold : used.buses.find? (fun b => b.id = y) = none := by
    simp only [List.find?_eq_none, decide_eq_true_eq]
    rintro b hb rfl
    exact notMem_ids hname hused hxy
      (Content.mem_ids_of_bus (c := used.content) hb List.mem_cons_self)
  unfold VirtualEngine.bus?
  rw [hbuses, List.find?_append, hold, Option.none_or]
  exact forall₂_find?_rel hadded.buses fun a b hab =>
    decide_eq_decide.mpr (hρ.one_to_one _ _ _ _ hab.id hxy)

/-- A module is found in both engines, or in none. -/
lemma Beside.module? (hfresh : Names fresh) (hname : Names name)
    (hused : UsedFrom name first used) (h : Beside fresh name used first s t) {x y : String}
    (hxy : shifted fresh name first used.issued x y) :
    Option.Rel (Module.Renamed (shifted fresh name first used.issued)) (s.module? x)
      (t.module? y) := by
  have hρ := shifted_renaming hfresh hname hused.1
  obtain ⟨added, hcontent, hadded⟩ := h.content
  have hmodules : t.modules = used.modules ++ added.modules := congrArg Content.modules hcontent
  have hold : used.modules.find? (fun b => b.id = y) = none := by
    simp only [List.find?_eq_none, decide_eq_true_eq]
    rintro b hb rfl
    exact notMem_ids hname hused hxy
      (Content.mem_ids_of_module (c := used.content) hb List.mem_cons_self)
  unfold VirtualEngine.module?
  rw [hmodules, List.find?_append, hold, Option.none_or]
  exact forall₂_find?_rel hadded.modules fun a b hab =>
    decide_eq_decide.mpr (hρ.one_to_one _ _ _ _ hab.id hxy)

/-- What can hold something in one engine can in the other, since a renamed id is none of those from
before. -/
lemma Beside.canHold (hfresh : Names fresh) (hname : Names name)
    (hused : UsedFrom name first used) (h : Beside fresh name used first s t) {x y : String}
    (hxy : shifted fresh name first used.issued x y) : s.canHold x = t.canHold y := by
  have hρ := shifted_renaming hfresh hname hused.1
  have hempty : (x = "") = (y = "") := propext (hρ.one_to_one _ _ _ _ hxy hρ.empty)
  simp only [VirtualEngine.canHold, hempty]
  exact optionRel_elim (h.bus? hfresh hname hused hxy) rfl fun _ _ _ => rfl

/-- What the fresh engine grants the used one grants too, with a renamed answer. Nothing is said of
what the fresh one refuses. -/
lemma respond_renamed (hfresh : Names fresh) (hname : Names name)
    (hused : UsedFrom name first used) (h : Beside fresh name used first s t) {r r' : Request}
    (hr : r.Renamed (shifted fresh name first used.issued) r') :
    match respond fresh r s, respond name r' t with
    | (.ok a, s'), (x, t') =>
      (∃ b, x = .ok b ∧
        Request.AnswersRenamed (shifted fresh name first used.issued) r r' a b) ∧
        Beside fresh name used first s' t'
    | (.error _, _), _ => True := by
  have hρ := shifted_renaming hfresh hname hused.1
  cases hr with
  | listMain => exact ⟨⟨_, rfl, h.mains⟩, h⟩
  | @addBus parent parent' title inputs outputs hparent =>
    rw [respond, respond, ← h.canHold hfresh hname hused hparent]
    by_cases hhold : s.canHold parent = true
    · rw [if_pos hhold, if_pos hhold]
      exact ⟨⟨_, rfl, h.next_id⟩, h.putBus hparent title inputs outputs⟩
    · rw [if_neg hhold]
      trivial
  | @listBusPorts bus bus' hbus =>
    rw [respond, respond]
    exact optionRel_elim (h.bus? hfresh hname hused hbus) trivial
      fun _ _ hxy => ⟨⟨_, rfl, hxy.ports⟩, h⟩
  | @addModule bus bus' spec hbus =>
    rw [respond, respond, ← h.canHold hfresh hname hused hbus]
    by_cases hhold : s.canHold bus = true
    · rw [if_pos hhold, if_pos hhold]
      exact ⟨⟨_, rfl, h.next_id⟩, h.putModule hbus spec⟩
    · rw [if_neg hhold]
      trivial
  | @listModulePorts id id' hid =>
    rw [respond, respond]
    exact optionRel_elim (h.module? hfresh hname hused hid) trivial
      fun _ _ hxy => ⟨⟨_, rfl, hxy.ports⟩, h⟩
  | @addConnection origin origin' target target' horigin htarget =>
    rw [respond, respond]
    -- the used engine may know more addresses, but it knows the renamed ones if the fresh engine
    -- knows theirs
    by_cases ho : origin.text ∈ s.sources
    · by_cases ht : target.text ∈ s.sinks
      · have ho' := h.sources.mem hρ horigin ho
        have ht' := h.sinks.mem hρ htarget ht
        simp only [List.contains_eq_mem, ho, ht, ho', ht', decide_true, Bool.not_true,
          Bool.false_eq_true, if_false]
        exact ⟨⟨_, rfl, h.next_id⟩, h.putConnection ⟨_, _, horigin, rfl, rfl⟩
          ⟨_, _, htarget, rfl, rfl⟩⟩
      · simp [ho, ht]
    · simp [ho]

/-- The used engine answers as the fresh one does. -/
lemma engine_renames (hfresh : Names fresh) (hname : Names name)
    (hused : UsedFrom name first used) :
    (engine fresh).Renames (shifted fresh name first used.issued) (Beside fresh name used first)
      (engine name) := by
  intro r r' hr s t h
  have hrespond := respond_renamed hfresh hname hused (h.noted hr) hr
  have hs : engine fresh r s = respond fresh r (s.noted r) :=
    engine_of_not_failing (by simp [h.failing.1])
  have ht : engine name r' t = respond name r' (t.noted r') :=
    engine_of_not_failing (by simp [h.failing.2])
  simp only [Engine.ask, ExceptT.run_mk, hs, ht]
  revert hrespond
  rcases respond fresh r (s.noted r) with ⟨_ | _, s'⟩
  · exact fun _ => .inr trivial
  · exact id

end Beside

/-! ### What was there before -/

def portAddresses (e : VirtualEngine) : List PortAddress :=
  e.buses.flatMap (fun x => (x.ports.inputs ++ x.ports.outputs).map fun p => .bus x.id p.id) ++
    e.modules.flatMap (fun x => (x.ports.inputs.map fun p => .moduleInput x.bus x.id p.id) ++
      x.ports.outputs.map fun p => .moduleOutput x.bus x.id p.id)

/-- Things under ids of their own, none of them in or at anything that was there before. -/
structure Apart (before : VirtualEngine) (added : Content) : Prop where
  ids : ∀ id ∈ added.ids, id ∉ before.ids
  buses : ∀ x ∈ added.buses, ∀ y ∈ before.buses, x.parent ≠ y.id
  modules : ∀ x ∈ added.modules, ∀ y ∈ before.buses, x.bus ≠ y.id
  connections : ∀ x ∈ added.connections, ∀ a ∈ before.portAddresses,
    x.origin ≠ a.text ∧ x.target ≠ a.text

section Apart

variable {fresh name : Nat → String} {first : Nat} {used : VirtualEngine}

/-- The id of what a port belongs to. -/
def owner : PortAddress → String
  | .main p => p
  | .bus b _ => b
  | .moduleInput _ m _ => m
  | .moduleOutput _ m _ => m

lemma owner_renamed {a b : PortAddress} (h : a.Renamed ρ b) : ρ (owner a) (owner b) := by
  cases h <;> assumption

/-- The owner of an address that was there before is in the content that was there before. -/
lemma owner_mem_ids {a : PortAddress} (ha : a ∈ used.portAddresses) :
    owner a ∈ used.content.ids := by
  simp only [portAddresses, List.mem_append, List.mem_flatMap, List.mem_map] at ha
  obtain ⟨x, hx, p, -, rfl⟩ | ⟨x, hx, ⟨p, -, rfl⟩ | ⟨p, -, rfl⟩⟩ := ha
  · exact Content.mem_ids_of_bus (c := used.content) hx List.mem_cons_self
  · exact Content.mem_ids_of_module (c := used.content) hx List.mem_cons_self
  · exact Content.mem_ids_of_module (c := used.content) hx List.mem_cons_self

/-- The addresses from before can be taken apart. -/
lemma separable_of_mem (hname : Names name) (hused : UsedFrom name first used)
    (hplaced : used.Placed) {a : PortAddress} (ha : a ∈ used.portAddresses) : a.Separable := by
  have hids : ∀ id ∈ used.content.ids, isOpaque id = true := by
    intro id hid
    obtain ⟨k, -, -, rfl⟩ := hused.2 id hid
    exact hname.isOpaque k
  refine separable_of_isOpaque hplaced hids ?_
  rcases List.mem_append.mp ha with ha | ha
  · exact .inl ha
  · obtain ⟨x, hx, ha⟩ := List.mem_flatMap.mp ha
    rcases List.mem_append.mp ha with ha | ha
    · exact .inr ⟨.target, List.mem_flatMap.mpr ⟨x, hx, ha⟩⟩
    · exact .inr ⟨.origin, List.mem_flatMap.mpr ⟨x, hx, ha⟩⟩

/-- An address that stands for one of a fresh engine is not that of an old port. -/
lemma text_ne_of_renamed (hfresh : Names fresh) (hname : Names name)
    (hused : UsedFrom name first used) (hplaced : used.Placed) {x y : String}
    (hxy : TextRenamed (shifted fresh name first used.issued) x y) {a : PortAddress}
    (ha : a ∈ used.portAddresses) : y ≠ a.text := by
  have hρ := shifted_renaming hfresh hname hused.1
  obtain ⟨b, c, hbc, -, rfl⟩ := hxy
  intro htext
  obtain rfl := PortAddress.text_injective (hbc.separable hρ).2
    (separable_of_mem hname hused hplaced ha) htext
  exact notMem_ids hname hused (owner_renamed hbc) (owner_mem_ids ha)

/-- What stands for the content of a fresh engine is apart from what was there before. -/
lemma apart_of_renamed (hfresh : Names fresh) (hname : Names name)
    (hused : UsedFrom name first used) (hplaced : used.Placed) {c added : Content}
    (hadded : c.Renamed (shifted fresh name first used.issued) added)
    (hids : ∀ id ∈ added.ids, id ∉ used.ids) : Apart used added where
  ids := hids
  buses := by
    intro x hx y hy hparent
    obtain ⟨x', -, hx'⟩ := forall₂_exists_right hadded.buses.flip hx
    exact notMem_ids hname hused hx'.parent (hparent ▸
      Content.mem_ids_of_bus (c := used.content) hy List.mem_cons_self)
  modules := by
    intro x hx y hy hbus
    obtain ⟨x', -, hx'⟩ := forall₂_exists_right hadded.modules.flip hx
    exact notMem_ids hname hused hx'.bus (hbus ▸
      Content.mem_ids_of_bus (c := used.content) hy List.mem_cons_self)
  connections := by
    intro x hx a ha
    obtain ⟨x', -, hx'⟩ := forall₂_exists_right hadded.connections.flip hx
    exact ⟨text_ne_of_renamed hfresh hname hused hplaced hx'.origin ha,
      text_ne_of_renamed hfresh hname hused hplaced hx'.target ha⟩

end Apart

/-! ### The first state -/

section First

variable {fresh name : Nat → String} {used : VirtualEngine} {inputs outputs : Nat} {old : Content}

lemma usedFrom_of_grown (h : Grown name (new name inputs outputs []) old used) :
    UsedFrom name (inputs + outputs) used := by
  refine ⟨h.issued, fun id hid => h.ids id ?_⟩
  rwa [h.content, show (new name inputs outputs []).content = .none from rfl,
    Content.none_append] at hid

/-- Physical ports have the same numbers in both engines. -/
lemma new_mains_renamed (fresh name : Nat → String) (inputs outputs issued : Nat) :
    (new fresh inputs outputs []).mains.Renamed (shifted fresh name (inputs + outputs) issued)
      (new name inputs outputs []).mains := by
  have hrange : ∀ start n, start + n ≤ inputs + outputs →
      List.Forall₂ (shifted fresh name (inputs + outputs) issued)
        ((List.range' start n).map fresh) ((List.range' start n).map name) := by
    intro start n hn
    simp only [List.forall₂_map_left_iff, List.forall₂_map_right_iff, List.forall₂_same]
    intro k hk
    obtain ⟨i, hi, rfl⟩ := List.mem_range'.mp hk
    exact shifted_main (by omega)
  exact ⟨hrange 0 inputs (by omega), hrange inputs outputs (by omega)⟩

/-- A fresh engine stands beside any used one when nothing has been asked. -/
lemma beside_first (h : Grown name (new name inputs outputs []) old used) :
    Beside fresh name used (inputs + outputs) (new fresh inputs outputs []) used := by
  have hmains := new_mains_renamed fresh name inputs outputs used.issued
  refine ⟨⟨rfl, h.failing⟩, ⟨0, rfl, rfl⟩, h.mains ▸ hmains,
    ⟨.none, used.content.append_none.symm, .nil, .nil, .nil, .nil⟩, ?_, ?_⟩
  · intro x hx
    obtain ⟨y, hy, hxy⟩ := AddressesRenamed.of_map hmains.inputs (fun _ _ => .main) x hx
    exact ⟨y, h.sources hy, hxy⟩
  · intro x hx
    obtain ⟨y, hy, hxy⟩ := AddressesRenamed.of_map hmains.outputs (fun _ _ => .main) x hx
    exact ⟨y, h.sinks hy, hxy⟩

/-- What is issued later differs from all ids that were there before. -/
lemma notMem_ids_of_issuedIn (hname : Distinct name)
    (h : Grown name (new name inputs outputs []) old used) {n : Nat} {id : String}
    (hid : IssuedIn name used.issued n id) : id ∉ used.ids := by
  obtain ⟨k, hk, -, rfl⟩ := hid
  have hother : ∀ {m}, IssuedIn name m used.issued (name k) → False := by
    rintro m ⟨k', -, hk', heq⟩
    exact Nat.not_le_of_lt hk' (hname.injective _ _ heq ▸ hk)
  have hfirst := (usedFrom_of_grown h).1
  intro hmem
  simp only [ids, h.mains, List.mem_append] at hmem
  obtain (hmem | hmem) | hmem := hmem
  · obtain ⟨k', hk', heq⟩ := List.mem_map.mp hmem
    obtain ⟨i, hi, rfl⟩ := List.mem_range'.mp hk'
    exact hother ⟨_, Nat.zero_le _, by omega, heq.symm⟩
  · obtain ⟨k', hk', heq⟩ := List.mem_map.mp hmem
    obtain ⟨i, hi, rfl⟩ := List.mem_range'.mp hk'
    exact hother ⟨_, Nat.zero_le _, by omega, heq.symm⟩
  · exact hother ((usedFrom_of_grown h).2 _ hmem)

end First

end VirtualEngine

/-! ### Compilations for an engine that was used before -/

open VirtualEngine in
/-- A compilation for an engine in use ends as one for a fresh engine, and leaves the two engines
side by side. -/
lemma compile_beside {g : Graph} (hg : g.WellFormed) {fresh name : Nat → String}
    (hfresh : Names fresh) (hname : Names name) {inputs outputs : Nat}
    {old : VirtualEngine.Content} {used : VirtualEngine}
    (hused : Grown name (VirtualEngine.new name inputs outputs []) old used) :
    Echoes (Compilation.Renamed (shifted fresh name (inputs + outputs) used.issued))
        (compile (engine fresh) g (VirtualEngine.new fresh inputs outputs [])).1
        (compile (engine name) g used).1 ∧
      Beside fresh name used (inputs + outputs)
        (compile (engine fresh) g (VirtualEngine.new fresh inputs outputs [])).2
        (compile (engine name) g used).2 := by
  have hfrom := usedFrom_of_grown hused
  refine compile_follows (shifted_renaming hfresh hname hfrom.1) (engine_renames hfresh hname hfrom)
    g (beside_first hused) fun e he => ?_
  exact ((compiles_virtual hg hfresh.toDistinct inputs outputs).fail_of_error he).1

/-- Whatever the ids of a fresh engine are, the same is reported of a compilation for it. -/
lemma compile_fresh_again {g : Graph} (hg : g.WellFormed) {fresh name : Nat → String}
    (hfresh : VirtualEngine.Names fresh) (hname : VirtualEngine.Names name) {inputs outputs : Nat}
    {c : Compilation} (hc : (compile (VirtualEngine.engine fresh) g
      (VirtualEngine.new fresh inputs outputs [])).1 = .ok c) :
    ∃ c', (compile (VirtualEngine.engine name) g
      (VirtualEngine.new name inputs outputs [])).1 = .ok c' ∧ c'.report = c.report := by
  have hechoes := (compile_beside hg hfresh hname (.refl (.new name inputs outputs []))).1
  rw [hc] at hechoes
  revert hechoes
  generalize (compile (VirtualEngine.engine name) g _).1 = result
  rintro (⟨hrenamed⟩ | _)
  exact ⟨_, rfl, hrenamed.report.symm⟩

/-- How a compilation for a used engine ends, beside one for a fresh engine. -/
structure Repeats (ρ : String → String → Prop) (used : VirtualEngine)
    (first again : Except CompileError Compilation × VirtualEngine) : Prop where
  outcome : Echoes (Compilation.Renamed ρ) first.1 again.1
  mains : again.2.mains = used.mains ∧ first.2.mains.Renamed ρ used.mains
  added : ∃ added, again.2.content = used.content.append added ∧
    first.2.content.Renamed ρ added ∧ used.Apart added

open VirtualEngine in
/-- Whatever an engine was asked before, a compilation for it ends as for a fresh engine, with ids
of its own for what it adds, and apart from what was there. -/
theorem compile_repeats {d : Document} {g : Graph} (hd : Graph.build d = .ok g)
    {fresh name : Nat → String} (hfresh : Names fresh) (hname : Names name) (inputs outputs : Nat)
    (requests : List Request) :
    let used := (engine name).replay requests (VirtualEngine.new name inputs outputs [])
    let ρ := shifted fresh name (inputs + outputs) used.issued
    Renaming ρ ∧ Repeats ρ used
      (compile (engine fresh) g (VirtualEngine.new fresh inputs outputs []))
      (compile (engine name) g used) := by
  intro used ρ
  obtain ⟨old, hold⟩ :=
    replay_grown name requests (VirtualEngine.new name inputs outputs [])
  have hused : UsedFrom name (inputs + outputs) used := usedFrom_of_grown hold
  have hplaced : used.Placed := replay_placed requests ⟨by simp [new], by simp [new]⟩
  have hρ : Renaming ρ := shifted_renaming hfresh hname hused.1
  obtain ⟨houtcome, hbeside⟩ :=
    compile_beside (Graph.build_wellFormed hd) hfresh hname hold
  obtain ⟨added, hcontent, hadded⟩ := hbeside.content
  obtain ⟨added', hgrown⟩ := compile_grown name g used
  obtain rfl : added = added' := Content.append_left_cancel (hcontent.symm.trans hgrown.content)
  refine ⟨hρ, houtcome, ⟨hgrown.mains, hgrown.mains ▸ hbeside.mains⟩, added, hcontent, hadded, ?_⟩
  exact apart_of_renamed hfresh hname hused hplaced hadded
    fun id hid => notMem_ids_of_issuedIn hname.toDistinct hold (hgrown.ids id hid)

open VirtualEngine in
theorem wire_repeats : ∃ g, Graph.build wire = .ok g ∧
    let used := (engine numberedId).replay
      [.addBus "" "old" "in" "out", .addConnection "in" "out", .addBus "old" "" "" ""]
      (VirtualEngine.new numberedId 1 1 [])
    Repeats (shifted numberedId numberedId 2 used.issued) used
      (compile (engine numberedId) g (VirtualEngine.new numberedId 1 1 []))
      (compile (engine numberedId) g used) := by
  have hwire : Graph.build wire = .ok _ := rfl
  exact ⟨_, hwire, (compile_repeats hwire numberedId_names numberedId_names 1 1 _).2⟩

end Patchbay
