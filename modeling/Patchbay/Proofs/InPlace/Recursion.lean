import Patchbay.Annotate
import Patchbay.Compile.Nodes
import Patchbay.Proofs.Document.Meaning

/-!
# Building a document in place

A preset can also be built by a recursion over the nested document itself. It numbers no levels and
keeps no table: an id that the engine issues is written into the document at once, and a link is
connected by what was just written into the two nodes beside it. Where something stands is told by
the buses around it.
-/

namespace Patchbay

/-- Where a level stands in a document: the ids of the buses around it, the outermost first. -/
abbrev BusPath := List Int

/-- Why a document could not be built. -/
inductive BuildFailure where
  | mainOutOfRange (place : BusPath) (node : Int) (direction : Direction) (index available : Nat)
  | engine (error : EngineError)
  | unresolvedNode (place : BusPath) (link node : Int)
  | unresolvedPort (place : BusPath) (link node : Int) (direction : Direction) (slot : Nat)

/-- Something that was left out. -/
inductive Notice where
  | unsupportedNode (place : BusPath) (node : Int) (tag : String)
  | skippedLink (place : BusPath) (link node : Int)
  | unmatchedPort (place : BusPath) (node : Int) (direction : Direction) (name : String)

/-- What was built, and what was left out. -/
structure Account where
  buses : Nat := 0
  modules : Nat := 0
  connections : Nat := 0
  maxDepth : Nat := 0
  notices : List Notice := []

/-- The engine's state and the account so far. -/
structure Progress (σ : Type) where
  engine : σ
  account : Account := {}

/-- A part of the recursion. -/
abbrev Worker (σ : Type) := ExceptT BuildFailure (StateM (Progress σ))

/-- How the slots of a node can be linked to. -/
inductive Anchor where
  /-- The node was left out, and its links are too. -/
  | leftOut
  /-- The node has no id. -/
  | unbound
  /-- The slots of either end have addresses, with none where the engine reported no port. -/
  | ports (address : LinkEnd → Nat → Option PortAddress)

namespace Anchor

/-- Physical ports by slot. -/
def mains (ids : List String) : Anchor := .ports fun _ slot => ids[slot]?.map .main

def busPort (bus port : String) : Anchor := .ports fun _ _ => some (.bus bus port)

def bus (ids : BusIds) : Anchor := .ports fun
  | .origin, slot => ids.outputs[slot]?.map (.bus ids.id)
  | .target, slot => ids.inputs[slot]?.map (.bus ids.id)

def module (bus : String) (n : Node) (ids : ModuleIds) : Anchor := .ports fun
  | .origin, slot =>
    (matchPorts ids.ports.outputs n.outputNames)[slot]?.join.map (.moduleOutput bus ids.id)
  | .target, slot =>
    (matchPorts ids.ports.inputs n.inputNames)[slot]?.join.map (.moduleInput bus ids.id)

end Anchor

namespace Worker

variable {σ α : Type}

def talk (c : Conversation σ α) : Worker σ α :=
  ExceptT.mk fun p =>
    let (answer, next) := c.run p.engine
    (answer.mapError .engine, { p with engine := next })

def enter (change : Account → Account) : Worker σ Unit :=
  modify fun p => { p with account := change p.account }

def notice (ns : List Notice) : Worker σ Unit :=
  enter fun a => { a with notices := a.notices ++ ns }

def makeBus (engine : Engine σ) (bus title : String) (inputs outputs : List String) :
    Worker σ BusIds := do
  let ids ← talk (engine.newBus bus title inputs outputs)
  enter fun a => { a with buses := a.buses + 1 }
  return ids

/-- A notice for each declared name that no port has. -/
def unmatchedNotices (place : BusPath) (node : Int) (d : Direction) (reported : List Port)
    (names : List String) : List Notice :=
  (names.filter fun name => !(reported.any fun p => p.name = name)).map
    (.unmatchedPort place node d)

/-- Makes the module of a node. -/
def makeModule (engine : Engine σ) (place : BusPath) (bus : String) (n : Node) (spec : ModuleSpec) :
    Worker σ ModuleIds := do
  let ids ← talk (engine.newModule bus spec)
  notice (unmatchedNotices place n.id .input ids.ports.inputs n.inputNames)
  notice (unmatchedNotices place n.id .output ids.ports.outputs n.outputNames)
  enter fun a => { a with modules := a.modules + 1 }
  return ids

end Worker

namespace Node

/-- What a node means to the engine: nothing, if it cannot be told. -/
def meaning (n : Node) : NodeKind :=
  match n.classify with
  | .ok kind => kind
  | .error _ => .unsupported n.type

def withProperty (n : Node) (name : String) (value : Json) : Node :=
  { n with properties := Keyed.insert name value n.properties }

def withBusIds (n : Node) (ids : BusIds) : Node :=
  ((n.withProperty "id" (.string ids.id)).withProperty "bus_input_ids"
    (Json.ofStrings ids.inputs)).withProperty "bus_output_ids" (Json.ofStrings ids.outputs)

/-- A node with the ids of its module written into it: the ports belong to its slots by name. -/
def withModuleIds (n : Node) (ids : ModuleIds) : Node :=
  { n.withProperty "id" (.string ids.id) with
    inputs := n.inputs.map (fillSlots · (matchPorts ids.ports.inputs n.inputNames))
    outputs := n.outputs.map (fillSlots · (matchPorts ids.ports.outputs n.outputNames)) }

/-- The physical ports that were written into a node. -/
def mainIds (n : Node) : List String :=
  match Keyed.get? "ids" n.properties with
  | some (.array items) =>
    items.filterMap fun
      | .string id => some id
      | _ => none
  | _ => []

/-- The nodes that are ports of the bus around them in a direction, with the names of these
ports. -/
def passThroughs (d : Direction) (nodes : List Node) : List (Int × String) :=
  nodes.filterMap fun n => (n.meaning.passThrough? d).map (n.id, ·)

end Node

/-! ### Physical ports -/

/-- Refuses a node that stands for more physical ports than there are. -/
def Node.checkMain (mains : MainPorts) (place : BusPath) (n : Node) : Except BuildFailure Unit :=
  match n.meaning.mainSlots? with
  | none => .ok ()
  | some (d, slots) =>
    let available := (mains.ports d).length
    if slots ≤ available then .ok ()
    else .error (.mainOutOfRange place n.id d (slots - 1) available)

mutual

/-- All nodes with their places: those of a level, then those in its buses, bus after bus. -/
def Document.sites (place : BusPath) : Document → List (BusPath × Node)
  | ⟨nodes, _, _, _⟩ => nodes.map (place, ·) ++ Node.sitesList place nodes

def Node.sitesList (place : BusPath) : List Node → List (BusPath × Node)
  | [] => []
  | n :: ns => Node.sitesInside place n ++ Node.sitesList place ns

/-- The nodes in a node, if it is a bus. -/
def Node.sitesInside (place : BusPath) : Node → List (BusPath × Node)
  | ⟨id, type, title, properties, subgraph, inputs, outputs, extra⟩ =>
    match (⟨id, type, title, properties, subgraph, inputs, outputs, extra⟩ : Node).meaning with
    | .busAdd _ => Document.sitesChild (place ++ [id]) subgraph
    | _ => []

def Document.sitesChild (place : BusPath) : Option Document → List (BusPath × Node)
  | none => []
  | some d => Document.sites place d

end

/-- Refuses the first node that stands for more physical ports than there are. -/
def Document.checkMains (mains : MainPorts) (d : Document) : Except BuildFailure Unit :=
  (d.sites []).forM fun (place, n) => n.checkMain mains place

mutual

/-- A document with the physical ports written into it. -/
def Document.withMains (mains : MainPorts) : Document → Document
  | ⟨nodes, links, busId, extra⟩ => ⟨Node.withMainsList mains nodes, links, busId, extra⟩

def Node.withMainsList (mains : MainPorts) : List Node → List Node
  | [] => []
  | n :: ns => Node.withMains mains n :: Node.withMainsList mains ns

/-- A node with the physical ports written into it, or into its subgraph if it is a bus. -/
def Node.withMains (mains : MainPorts) : Node → Node
  | ⟨id, type, title, properties, subgraph, inputs, outputs, extra⟩ =>
    let n : Node := ⟨id, type, title, properties, subgraph, inputs, outputs, extra⟩
    match n.meaning with
    | .mainInputs slots => n.withProperty "ids" (Json.ofStrings (mains.inputs.take slots))
    | .mainOutputs slots => n.withProperty "ids" (Json.ofStrings (mains.outputs.take slots))
    | .busAdd _ =>
      ⟨id, type, title, properties, Document.withMainsChild mains subgraph, inputs, outputs, extra⟩
    | _ => n

def Document.withMainsChild (mains : MainPorts) : Option Document → Option Document
  | none => none
  | some d => some (Document.withMains mains d)

end

/-! ### Links -/

def isLeftOut (anchors : List (Int × Anchor)) (id : Int) : Bool :=
  match anchors.lookup id with
  | some .leftOut => true
  | _ => false

/-- The end of a link that was left out, the origin rather than the target. -/
def Link.leftOut? (l : Link) (anchors : List (Int × Anchor)) : Option Int :=
  [l.originId, l.targetId].find? (isLeftOut anchors)

def Link.address (l : Link) (place : BusPath) (anchors : List (Int × Anchor)) (e : LinkEnd) :
    Except BuildFailure PortAddress :=
  match anchors.lookup (l.node e) with
  | some (.ports address) =>
    match address e (l.slot e) with
    | some a => .ok a
    | none => .error (.unresolvedPort place l.id (l.node e) e.direction (l.slot e))
  | _ => .error (.unresolvedNode place l.id (l.node e))

namespace Worker

variable {σ : Type}

def connect (engine : Engine σ) (place : BusPath) (anchors : List (Int × Anchor)) (l : Link) :
    Worker σ Link :=
  match l.leftOut? anchors with
  | some node => do
    notice [.skippedLink place l.id node]
    return l
  | none => do
    let origin ← proceed (l.address place anchors .origin)
    let target ← proceed (l.address place anchors .target)
    let id : String ← talk (engine.ask (.addConnection origin.text target.text))
    enter fun a => { a with connections := a.connections + 1 }
    return { l with connectionId := .string id }

def connectAll (engine : Engine σ) (place : BusPath) (anchors : List (Int × Anchor)) :
    List Link → Worker σ (List Link)
  | [] => return []
  | l :: ls => do
    let l ← connect engine place anchors l
    let ls ← connectAll engine place anchors ls
    return l :: ls

/-! ### Levels -/

mutual

/-- Builds a level in a bus whose ports belong to some of the level's nodes. -/
def treat (engine : Engine σ) (place : BusPath) (bus : String) (ports : List (Int × String)) :
    Document → Worker σ Document
  | ⟨nodes, links, busId, extra⟩ => do
    enter fun a => { a with maxDepth := max a.maxDepth place.length }
    let (nodes, anchors) ← treatNodes engine place bus ports nodes
    let links ← connectAll engine place anchors links
    return ⟨nodes, links, busId, extra⟩

def treatNodes (engine : Engine σ) (place : BusPath) (bus : String) (ports : List (Int × String)) :
    List Node → Worker σ (List Node × List (Int × Anchor))
  | [] => return ([], [])
  | n :: ns => do
    let (n', anchor) ← treatNode engine place bus ports n
    let (ns', anchors) ← treatNodes engine place bus ports ns
    return (n' :: ns', (n.id, anchor) :: anchors)

/-- Builds a node with everything in it. -/
def treatNode (engine : Engine σ) (place : BusPath) (bus : String) (ports : List (Int × String)) :
    Node → Worker σ (Node × Anchor)
  | ⟨id, type, title, properties, subgraph, inputs, outputs, extra⟩ =>
    let n : Node := ⟨id, type, title, properties, subgraph, inputs, outputs, extra⟩
    match n.meaning with
    | .mainInputs _ | .mainOutputs _ =>
      return (n, .mains n.mainIds)
    | .busInput _ | .busOutput _ =>
      match ports.lookup id with
      | none => return (n, .unbound)
      | some port => return (n.withProperty "id" (.string port), .busPort bus port)
    | .busAdd title' => do
      let nodes := (subgraph.map Document.nodes).getD []
      let ids ← makeBus engine bus title' ((Node.passThroughs .input nodes).map Prod.snd)
        ((Node.passThroughs .output nodes).map Prod.snd)
      let subgraph ← treatChild engine (place ++ [id]) ids subgraph
      return ({ n.withBusIds ids with subgraph := subgraph }, .bus ids)
    | .processing spec => do
      let ids ← makeModule engine place bus n spec
      return (n.withModuleIds ids, .module bus n ids)
    | .unsupported tag => do
      notice [.unsupportedNode place id tag]
      return (n, .leftOut)

/-- Builds a subgraph in its bus. The ports of the bus belong to the pass-throughs by position. -/
def treatChild (engine : Engine σ) (place : BusPath) (ids : BusIds) :
    Option Document → Worker σ (Option Document)
  | none => return none
  | some ⟨nodes, links, busId, extra⟩ => do
    let ports := ((Node.passThroughs .input nodes).map Prod.fst).zip ids.inputs ++
      ((Node.passThroughs .output nodes).map Prod.fst).zip ids.outputs
    let d ← treat engine place ids.id ports ⟨nodes, links, busId, extra⟩
    return some { d with busId := some ids.id }

end

/-- Builds a document: first the physical ports are written into it, then everything is made from
the outermost level on. -/
def build (engine : Engine σ) (d : Document) : Worker σ Document := do
  let mains : MainPorts ← talk (engine.ask .listMain)
  proceed (d.checkMains mains)
  treat engine [] "" [] (d.withMains mains)

end Worker

def Document.buildInPlace {σ : Type} (engine : Engine σ) (d : Document) (state : σ) :
    Except BuildFailure (Document × Account) × σ :=
  let (result, progress) := (Worker.build engine d).run { engine := state }
  (result.map fun d => (d, progress.account), progress.engine)

end Patchbay
