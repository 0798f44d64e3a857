import Patchbay.Json.Basic

/-!
# Preset documents

A document is one level of a preset: nodes, the links between them, and whatever else the editor
keeps there. A node may hold a document of its own, the subgraph of a bus. Only the fields that
matter for the engine have a type; the others are carried along as `extra`.
-/

namespace Patchbay

/-- A named input or output of a node. -/
structure PortSlot where
  name : String
  /-- The engine's id of the port. -/
  id : Option Json
  extra : Json.Members

/-- A connection between two nodes of one level. -/
structure Link where
  id : Int
  originId : Int
  originSlot : Nat
  targetId : Int
  targetSlot : Nat
  typeTag : Json
  /-- The engine's id of the connection. -/
  connectionId : Json
  trailing : List Json

mutual

/-- A node of a level. -/
structure Node where
  /-- Unique within the level only. -/
  id : Int
  type : String
  title : Option String
  properties : Json.Members
  subgraph : Option Document
  inputs : Option (List PortSlot)
  outputs : Option (List PortSlot)
  extra : Json.Members

/-- One level of a preset. -/
structure Document where
  nodes : List Node
  links : List Link
  /-- The engine's id of the bus that this level belongs to. -/
  busId : Option String
  extra : Json.Members

end

/-- The names of declared slots, in order. -/
def slotNames (slots : Option (List PortSlot)) : List String :=
  (slots.getD []).map PortSlot.name

namespace Node

def inputNames (n : Node) : List String := slotNames n.inputs

def outputNames (n : Node) : List String := slotNames n.outputs

end Node

end Patchbay
