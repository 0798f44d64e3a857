import Patchbay.Document.Basic
import Patchbay.Json.Printer

/-!
# Writing documents

The declared fields of a record come in a fixed order and the others after them by key. A field
that may be absent is left out then, but a node's properties are always written. A link is written
as the editor's tuple.
-/

namespace Patchbay

def PortSlot.toJson (s : PortSlot) : Json :=
  .object (("name", .string s.name) :: Json.field "id" s.id ++ s.extra)

def Link.toJson (l : Link) : Json :=
  .array (.ofInt l.id :: .ofInt l.originId :: .ofNat l.originSlot :: .ofInt l.targetId ::
    .ofNat l.targetSlot :: l.typeTag :: l.connectionId :: l.trailing)

def slotsToJson (slots : Option (List PortSlot)) : Option Json :=
  slots.map fun ss => .array (ss.map PortSlot.toJson)

mutual

def Node.toJson : Node → Json
  | ⟨id, type, title, properties, subgraph, inputs, outputs, extra⟩ =>
    .object
      (("id", .ofInt id) :: ("type", .string type) ::
        Json.field "title" (title.map .string) ++
        ("properties", .object properties) ::
        Json.field "subgraph" (Document.toJson? subgraph) ++
        Json.field "inputs" (slotsToJson inputs) ++
        Json.field "outputs" (slotsToJson outputs) ++
        extra)

def Node.listToJson : List Node → List Json
  | [] => []
  | n :: ns => n.toJson :: Node.listToJson ns

def Document.toJson : Document → Json
  | ⟨nodes, links, busId, extra⟩ =>
    .object
      (("nodes", .array (Node.listToJson nodes)) ::
        ("links", .array (links.map Link.toJson)) ::
        Json.field "bus_id" (busId.map .string) ++
        extra)

/-- The subgraph of a node as a value, if it has one. -/
def Document.toJson? : Option Document → Option Json
  | none => none
  | some d => some d.toJson

end

/-- The text of a document as the editor writes it. -/
def Document.text (d : Document) : String := d.toJson.indented 4

end Patchbay
