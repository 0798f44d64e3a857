import Patchbay.Bindings

/-!
# Annotating a document

The ids that an engine issued are written into a copy of the document, at the places where the
editor looks for them: a node's properties, its port slots, the `busId` of a nested level, and the
connection of a link. What was not bound stays as it was.
-/

namespace Patchbay

/-- The properties of a node with the ids of its binding. -/
def NodeBinding.overlayProperties (properties : Json.Members) : NodeBinding → Json.Members
  | .mains ids => Keyed.insert "ids" (Json.ofStrings ids) properties
  | .bus id inputs outputs =>
    Keyed.insert "bus_output_ids" (Json.ofStrings outputs)
      (Keyed.insert "bus_input_ids" (Json.ofStrings inputs)
        (Keyed.insert "id" (.string id) properties))
  | .busPort _ port => Keyed.insert "id" (.string port) properties
  | .processing _ id _ _ => Keyed.insert "id" (.string id) properties

/-- Slots with the ids of their ports, by position. A slot without a port keeps its id. -/
def fillSlots : List PortSlot → List (Option String) → List PortSlot
  | slot :: slots, some id :: ids => { slot with id := some (.string id) } :: fillSlots slots ids
  | slot :: slots, none :: ids => slot :: fillSlots slots ids
  | slots, [] => slots
  | [], _ => []

/-- The ids of the ports in a direction, if the binding is one of a module. -/
def NodeBinding.slotIds (d : Direction) : NodeBinding → List (Option String)
  | .processing _ _ inputs outputs =>
    match d with
    | .input => inputs
    | .output => outputs
  | _ => []

/-- Links from a position on, with the ids of their connections. -/
def annotateLinks (b : Bindings) (level index : Nat) : List Link → List Link
  | [] => []
  | l :: ls =>
    (match b.connection? level index with
      | some id => { l with connectionId := .string id }
      | none => l) :: annotateLinks b level (index + 1) ls

mutual

def Document.annotateLevel (g : Graph) (b : Bindings) (level : Nat) : Document → Document
  | ⟨nodes, links, busId, extra⟩ =>
    ⟨Node.annotateList g b level nodes, annotateLinks b level 0 links,
      (b.levelBus? level).or busId, extra⟩

def Node.annotateList (g : Graph) (b : Bindings) (level : Nat) : List Node → List Node
  | [] => []
  | n :: ns => Node.annotate g b level n :: Node.annotateList g b level ns

/-- A node with the ids of the bindings, and its subgraph likewise if the graph has a level for
it. -/
def Node.annotate (g : Graph) (b : Bindings) (level : Nat) : Node → Node
  | ⟨id, type, title, properties, subgraph, inputs, outputs, extra⟩ =>
    let key : NodeKey := ⟨level, id⟩
    let subgraph := Document.annotateChild g b (g.childLevel? key) subgraph
    match b.node? key with
    | none => ⟨id, type, title, properties, subgraph, inputs, outputs, extra⟩
    | some binding =>
      ⟨id, type, title, binding.overlayProperties properties, subgraph,
        inputs.map (fillSlots · (binding.slotIds .input)),
        outputs.map (fillSlots · (binding.slotIds .output)), extra⟩

/-- The subgraph of a node, as the level of a number if there is one. -/
def Document.annotateChild (g : Graph) (b : Bindings) (level : Option Nat) :
    Option Document → Option Document
  | none => none
  | some d =>
    match level with
    | none => some d
    | some level => some (Document.annotateLevel g b level d)

end

/-- The document with the ids of the bindings written into it. -/
def Document.annotate (d : Document) (g : Graph) (b : Bindings) : Document :=
  Document.annotateLevel g b 0 d

end Patchbay
