import Patchbay.Document.Basic
import Patchbay.Json.Shape

/-!
# Reading documents

A record is read member by member. A declared field may come once; the members of other names are
kept, the last one of a name. Whether a field is missing is asked when the whole record was read,
in the order in which the fields are declared.
-/

namespace Patchbay

open Json (Reading ReadError Members once required)

/-! ### Port slots -/

structure PortSlot.Draft where
  name : Option String := none
  id : Option (Option Json) := none
  extra : Members := []

/-- Adds the members of a port slot one by one. -/
def PortSlot.Draft.addAll (d : Draft) : List (String × Reading) → Except ReadError Draft
  | [] => .ok d
  | (key, v) :: ms => do
    let d ←
      if key = "name" then
        (once key d.name v.text).map fun x => { d with name := x }
      else if key = "id" then
        (once key d.id (v.optional Reading.json)).map fun x => { d with id := x }
      else v.json.map fun x => { d with extra := d.extra ++ [(key, x)] }
    addAll d ms

def PortSlot.ofReading : Reading → Except ReadError PortSlot
  | .object ms stop => do
    let d ← Draft.addAll {} ms
    Reading.closed stop
    return ⟨← required "name" d.name, d.id.join, Keyed.ofList d.extra⟩
  | r => .error (r.mismatch (.record "PortSlot"))

/-- The declared inputs or outputs of a node. -/
def slotsOfReading : Reading → Except ReadError (List PortSlot)
  | .array vs stop => do
    let slots ← vs.mapM PortSlot.ofReading
    Reading.closed stop
    return slots
  | r => .error (r.mismatch .sequence)

/-! ### Links -/

/-- The number of elements that a link has at least. -/
def Link.fieldCount : Nat := 7

/-- An element of a link that has to be a signed word. -/
def Link.integerField (name : String) : Json → Except Json.ShapeError Int
  | .number n =>
    match n.signed? with
    | some i => .ok i
    | none => .error (.linkNotInteger name (.number n))
  | v => .error (.linkNotInteger name v)

/-- An element of a link that has to be an unsigned word. -/
def Link.slotField (name : String) : Json → Except Json.ShapeError Nat
  | .number n =>
    match n.unsigned? with
    | some i => .ok i
    | none => .error (.linkNotSlot name (.number n))
  | v => .error (.linkNotSlot name v)

/-- The link of a tuple: its length is looked at first, then its elements from the left. -/
def Link.ofTuple : List Json → Except Json.ShapeError Link
  | id :: originId :: originSlot :: targetId :: targetSlot :: typeTag :: connectionId :: trailing =>
    do
      return {
        id := ← integerField "id" id
        originId := ← integerField "origin_id" originId
        originSlot := ← slotField "origin_slot" originSlot
        targetId := ← integerField "target_id" targetId
        targetSlot := ← slotField "target_slot" targetSlot
        typeTag, connectionId, trailing }
  | short => .error (.linkTooShort short.length fieldCount)

def Link.ofReading (r : Reading) : Except ReadError Link := do
  (ofTuple (← r.sequence)).mapError .shape

def linksOfReading : Reading → Except ReadError (List Link)
  | .array vs stop => do
    let links ← vs.mapM Link.ofReading
    Reading.closed stop
    return links
  | r => .error (r.mismatch .sequence)

/-! ### Nodes and documents -/

/-- The fields of a node read so far. -/
structure Node.Draft where
  id : Option Int := none
  type : Option String := none
  title : Option (Option String) := none
  properties : Option Members := none
  subgraph : Option (Option Document) := none
  inputs : Option (Option (List PortSlot)) := none
  outputs : Option (Option (List PortSlot)) := none
  extra : Members := []

/-- The node of a draft, where the fields are complete. -/
def Node.Draft.finish (d : Draft) : Except ReadError Node := do
  return {
    id := ← required "id" d.id
    type := ← required "type" d.type
    title := d.title.join
    properties := d.properties.getD []
    subgraph := d.subgraph.join
    inputs := d.inputs.join
    outputs := d.outputs.join
    extra := Keyed.ofList d.extra }

structure Document.Draft where
  nodes : Option (List Node) := none
  links : Option (List Link) := none
  busId : Option (Option String) := none
  extra : Members := []

def Document.Draft.finish (d : Draft) : Except ReadError Document := do
  return {
    nodes := ← required "nodes" d.nodes
    links := ← required "links" d.links
    busId := d.busId.join
    extra := Keyed.ofList d.extra }

mutual

def Document.ofReading : Reading → Except ReadError Document
  | .object ms stop => do
    let d ← Document.Draft.addAll {} ms
    Reading.closed stop
    d.finish
  | r => .error (r.mismatch (.record "GraphDocument"))

/-- Adds the members of a document one by one. -/
def Document.Draft.addAll (d : Document.Draft) :
    List (String × Reading) → Except ReadError Document.Draft
  | [] => .ok d
  | (key, v) :: ms => do
    let d ←
      if key = "nodes" then
        (once key d.nodes (nodesOfReading v)).map fun x => { d with nodes := x }
      else if key = "links" then
        (once key d.links (linksOfReading v)).map fun x => { d with links := x }
      else if key = "bus_id" then
        (once key d.busId (v.optional Reading.text)).map fun x => { d with busId := x }
      else v.json.map fun x => { d with extra := d.extra ++ [(key, x)] }
    Document.Draft.addAll d ms

def nodesOfReading : Reading → Except ReadError (List Node)
  | .array vs stop => do
    let ns ← Node.listOfReading vs
    Reading.closed stop
    return ns
  | r => .error (r.mismatch .sequence)

def Node.listOfReading : List Reading → Except ReadError (List Node)
  | [] => .ok []
  | v :: vs => do return (← Node.ofReading v) :: (← Node.listOfReading vs)

def Node.ofReading : Reading → Except ReadError Node
  | .object ms stop => do
    let d ← Node.Draft.addAll {} ms
    Reading.closed stop
    d.finish
  | r => .error (r.mismatch (.record "Node"))

/-- Adds the members of a node one by one. -/
def Node.Draft.addAll (d : Node.Draft) :
    List (String × Reading) → Except ReadError Node.Draft
  | [] => .ok d
  | (key, v) :: ms => do
    let d ←
      if key = "id" then
        (once key d.id v.signedWord).map fun x => { d with id := x }
      else if key = "type" then
        (once key d.type v.text).map fun x => { d with type := x }
      else if key = "title" then
        (once key d.title (v.optional Reading.text)).map fun x => { d with title := x }
      else if key = "properties" then
        (once key d.properties v.map).map fun x => { d with properties := x }
      else if key = "subgraph" then
        (once key d.subgraph (subgraphOfReading v)).map fun x => { d with subgraph := x }
      else if key = "inputs" then
        (once key d.inputs (v.optional slotsOfReading)).map fun x => { d with inputs := x }
      else if key = "outputs" then
        (once key d.outputs (v.optional slotsOfReading)).map fun x => { d with outputs := x }
      else v.json.map fun x => { d with extra := d.extra ++ [(key, x)] }
    Node.Draft.addAll d ms

/-- The subgraph of a node. -/
def subgraphOfReading : Reading → Except ReadError (Option Document)
  | .null => .ok none
  | r => some <$> Document.ofReading r

end

/-- The document that a text holds. -/
def Document.parse (text : String) : Except ReadError Document :=
  Json.parse Document.ofReading text

end Patchbay
