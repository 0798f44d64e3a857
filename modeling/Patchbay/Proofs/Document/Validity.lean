import Patchbay.Proofs.Document.Levels
import Patchbay.Proofs.Document.Meaning

/-!
# Valid levels

What a level has to satisfy in order to be one of a graph: its ids are different, its nodes have
what their tags ask for, the ports of its bus have names that can be told apart, and links end at
slots that there are.
-/

namespace Patchbay

namespace Node

def names (n : Node) : Direction → List String
  | .input => n.inputNames
  | .output => n.outputNames

/-- The name that a node gives a port of the bus around it in a direction. -/
def portName? (d : Direction) (n : Node) : Option String :=
  if n.bareTag = d.portTag then
    match Keyed.get? "name" n.properties with
    | some (.string name) => some name
    | _ => none
  else none

/-- A node offers so many slots to ends of links: a node for physical ports one for each of these,
though never to an end of its own direction, a bus one for each port in its level, and a module one
for each port that is declared. -/
inductive Offers (n : Node) (e : LinkEnd) : Nat → Prop
  | mains (d : Direction) (items : List Json) (tag : n.bareTag = d.mainTag)
      (role : d ≠ e.direction) (ids : Keyed.get? "ids" n.properties = some (.array items)) :
      Offers n e items.length
  | bus (c : Document) (tag : n.bareTag = "bus/add") (subgraph : n.subgraph = some c) :
      Offers n e (c.ports e.direction).length
  | module (type : ModuleType) (tag : ModuleType.ofTag? n.bareTag = some type) :
      Offers n e (n.names e.direction).length

/-- A link may end at a slot of a node. -/
structure Takes (n : Node) (e : LinkEnd) (slot : Nat) : Prop where
  main : n.bareTag ≠ e.direction.mainTag
  port : n.bareTag ≠ e.direction.portTag
  slot_lt : ∀ count, n.Offers e count → slot < count

end Node

/-- A level that may be one of a graph. -/
structure Document.Valid (m : Document) : Prop where
  ids_nodup : (m.nodes.map Node.id).Nodup
  complete : ∀ n ∈ m.nodes, n.Complete
  names_nodup : ∀ d, (m.nodes.filterMap (Node.portName? d)).Nodup
  names_fit : ∀ d, ∀ name ∈ m.nodes.filterMap (Node.portName? d), name ≠ "" ∧ ',' ∉ name.toList
  ends : ∀ l ∈ m.links, ∀ e, ∃ n ∈ m.nodes, n.id = l.node e ∧ n.Takes e (l.slot e)

namespace Node

variable {n : Node} {kind : NodeKind} {e : LinkEnd} {count count' : Nat}

/-- A port of a bus is told by its tag and named by its property. -/
lemma portName?_eq_some_iff {d : Direction} {name : String} : n.portName? d = some name ↔
    n.bareTag = d.portTag ∧ Keyed.get? "name" n.properties = some (.string name) := by
  unfold portName?
  split_ifs with h
  · split <;> simp_all
  · simp [h]

/-- What a node means has the name that the document gives the port. -/
lemma Means.passThrough?_eq (h : n.Means kind) (d : Direction) :
    kind.passThrough? d = n.portName? d :=
  Option.ext fun name => by rw [h.passThrough?_eq_some_iff, portName?_eq_some_iff]

/-! ### Tags of different families -/

lemma mainTag_ne_portTag (d d' : Direction) : d.mainTag ≠ d'.portTag := by
  cases d <;> cases d' <;> simp [Direction.mainTag, Direction.portTag]

lemma mainTag_ne_bus (d : Direction) : d.mainTag ≠ "bus/add" := by
  cases d <;> simp [Direction.mainTag]

lemma portTag_ne_bus (d : Direction) : d.portTag ≠ "bus/add" := by
  cases d <;> simp [Direction.portTag]

lemma mainTag_injective {d d' : Direction} (h : d.mainTag = d'.mainTag) : d = d' := by
  cases d <;> cases d' <;> simp_all [Direction.mainTag]

lemma portTag_injective {d d' : Direction} (h : d.portTag = d'.portTag) : d = d' := by
  cases d <;> cases d' <;> simp_all [Direction.portTag]

/-- A node offers slots in one way only. -/
lemma Offers.unique (h : n.Offers e count) (h' : n.Offers e count') : count = count' := by
  cases h with
  | mains d items tag role ids =>
    cases h' with
    | mains d' items' tag' role' ids' =>
      rw [ids] at ids'
      cases ids'
      rfl
    | bus c tag' => exact (mainTag_ne_bus d (tag.symm.trans tag')).elim
    | module type tag' => exact ((bareTag_of_module tag').1 d tag).elim
  | bus c tag subgraph =>
    cases h' with
    | mains d items tag' => exact (mainTag_ne_bus d (tag'.symm.trans tag)).elim
    | bus c' tag' subgraph' =>
      rw [subgraph] at subgraph'
      cases subgraph'
      rfl
    | module type tag' => exact ((bareTag_of_module tag').2.2 tag).elim
  | module type tag =>
    cases h' with
    | mains d items tag' => exact ((bareTag_of_module tag).1 d tag').elim
    | bus c tag' => exact ((bareTag_of_module tag).2.2 tag').elim
    | module => rfl

/-- A node that is a port of the bus around it, or nothing that the engine knows, offers no slots
that are counted. -/
lemma not_offers (hmain : ∀ d : Direction, n.bareTag ≠ d.mainTag) (hbus : n.bareTag ≠ "bus/add")
    (hmodule : ModuleType.ofTag? n.bareTag = none) : ¬ n.Offers e count := by
  intro h
  cases h with
  | mains d items tag => exact hmain d tag
  | bus c tag => exact hbus tag
  | module type tag =>
    rw [hmodule] at tag
    cases tag

end Node

end Patchbay
