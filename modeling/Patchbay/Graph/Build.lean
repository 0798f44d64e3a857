import Patchbay.Graph.Basic
import Patchbay.Text.Quoted

/-!
# From a document to a graph

The nodes of a level are taken in order. Of each it is asked whether its id is new, what it means,
and whether it names a port of the level's bus as such a port may be named; a bus is followed into
its own level before the next node. Once the nodes of a level are known its links are checked: both
ends have to be nodes of the level that can be such an end, with a slot of that number.

The names of a bus's ports travel to the engine in one list with commas, hence no name may be empty
or hold a comma.
-/

namespace Patchbay

/-- Why a document is no graph. -/
inductive GraphError where
  /-- A node does not mean what its tag says. -/
  | field (level : Nat) (node : Int) (type : String) (error : FieldError)
  | duplicateNode (level : Nat) (node : Int)
  | duplicatePort (bus : NodeKey) (direction : Direction) (name : String)
  | invalidPort (bus : NodeKey) (direction : Direction) (name : String)
  | unknownEnd (level : Nat) (link node : Int)
  | invalidEnd (level : Nat) (link node : Int) (label : String) (role : LinkEnd)
  | slotOutOfRange (level : Nat) (link node : Int) (slot available : Nat)

def GraphError.message : GraphError → String
  | .field level node type (.missing name) =>
    s!"node {node} ({type}) at level {level} is missing required field `{name}`"
  | .field level node _ (.notNumeric property value) =>
    s!"node {node} at level {level}: property `{property}` must be numeric, got {value.compact}"
  | .duplicateNode level node => s!"duplicate node id {node} at level {level}"
  | .duplicatePort bus direction name =>
    s!"bus {bus.text} has two bus {direction.name} ports named {Text.quoted name}"
  | .invalidPort bus direction name =>
    s!"bus {bus.text}: bus {direction.name} port name {Text.quoted name} is empty or contains ','"
  | .unknownEnd level link node => s!"link {link} at level {level} references unknown node {node}"
  | .invalidEnd level link node label role =>
    s!"link {link} at level {level} cannot use {label} node {node} as its {role.name}"
  | .slotOutOfRange level link node slot available =>
    s!"link {link} at level {level}: slot {slot} is out of range for node {node} " ++
      s!"({available} available)"

/-! ### Ports of a bus -/

/-- Whether a port of a bus may have a name. -/
def validPortName (name : String) : Bool := name ≠ "" && !name.toList.contains ','

/-- Refuses a name that a port of the bus may not have, or that an earlier one has. -/
def checkPortName (bus : NodeKey) (d : Direction) (name : String) (earlier : List GraphNode) :
    Except GraphError Unit :=
  if !validPortName name then .error (.invalidPort bus d name)
  else if ((passThroughs d earlier).map Prod.snd).contains name then
    .error (.duplicatePort bus d name)
  else .ok ()

def checkPort (bus : NodeKey) (earlier : List GraphNode) : NodeKind → Except GraphError Unit
  | .busInput name => checkPortName bus .input name earlier
  | .busOutput name => checkPortName bus .output name earlier
  | _ => .ok ()

/-! ### Ends of links -/

/-- What a node offers as an end of links. -/
inductive Slots where
  /-- Slots below a number. -/
  | below (count : Nat)
  /-- A single port: the slot does not matter. -/
  | any
  /-- It cannot be such an end. -/
  | none
deriving DecidableEq, Repr

/-- What a node offers as an end of links. Links of a node that is not supported are left out
later, so its slots do not matter. -/
def GraphNode.slots (v : GraphNode) (e : LinkEnd) : Slots :=
  match v.kind, e with
  | .mainInputs slots, .origin => .below slots
  | .mainOutputs slots, .target => .below slots
  | .busAdd _, e => .below ((v.child.map fun l => (l.portNodes e.direction).length).getD 0)
  | .busInput _, .origin => .any
  | .busOutput _, .target => .any
  | .processing _, .origin => .below v.outputNames.length
  | .processing _, .target => .below v.inputNames.length
  | .unsupported _, _ => .any
  | _, _ => .none

/-- Checks one end of a link against the nodes of its level. -/
def GraphLink.checkEnd (nodes : List GraphNode) (l : GraphLink) (e : LinkEnd) :
    Except GraphError Unit :=
  let key := l.node e
  match nodes.find? fun v => v.key.id = key.id with
  | none => .error (.unknownEnd key.level l.id key.id)
  | some v =>
    match v.slots e with
    | .any => .ok ()
    | .none => .error (.invalidEnd key.level l.id key.id v.kind.label e)
    | .below available =>
      if l.slot e < available then .ok ()
      else .error (.slotOutOfRange key.level l.id key.id (l.slot e) available)

/-- The links of a level from a position on, each with both ends checked. -/
def buildLinks (level : Nat) (nodes : List GraphNode) (index : Nat) :
    List Link → Except GraphError (List GraphLink)
  | [] => .ok []
  | l :: ls => do
    let link : GraphLink :=
      ⟨index, l.id, ⟨level, l.originId⟩, l.originSlot, ⟨level, l.targetId⟩, l.targetSlot⟩
    link.checkEnd nodes .origin
    link.checkEnd nodes .target
    return link :: (← buildLinks level nodes (index + 1) ls)

/-! ### Levels -/

mutual

def Level.build (parent : Option NodeKey) (depth next : Nat) :
    Document → Except GraphError (Level × Nat)
  | ⟨nodes, links, _, _⟩ => do
    let (vs, after) ← Level.buildNodes parent depth next [] (next + 1) nodes
    return (⟨next, parent, depth, vs, ← buildLinks next vs 0 links⟩, after)

def Level.buildNodes (parent : Option NodeKey) (depth id : Nat) (earlier : List GraphNode)
    (next : Nat) : List Node → Except GraphError (List GraphNode × Nat)
  | [] => .ok ([], next)
  | n :: ns => do
    let (v, next) ← Level.buildNode parent depth id earlier next n
    let (vs, next) ← Level.buildNodes parent depth id (earlier ++ [v]) next ns
    return (v :: vs, next)

def Level.buildNode (parent : Option NodeKey) (depth id : Nat) (earlier : List GraphNode)
    (next : Nat) : Node → Except GraphError (GraphNode × Nat)
  | ⟨nodeId, type, title, properties, subgraph, inputs, outputs, extra⟩ => do
    let n : Node := ⟨nodeId, type, title, properties, subgraph, inputs, outputs, extra⟩
    if earlier.any fun v => v.key.id = nodeId then throw (.duplicateNode id nodeId)
    let key : NodeKey := ⟨id, nodeId⟩
    let kind ← n.classify.mapError (.field id nodeId type)
    checkPort (parent.getD key) earlier kind
    let (child, next) ← Level.buildChild key depth next kind subgraph
    return (⟨key, kind, n.inputNames, n.outputNames, child⟩, next)

/-- The level that a node holds, if it is a bus. -/
def Level.buildChild (key : NodeKey) (depth next : Nat) (kind : NodeKind) :
    Option Document → Except GraphError (Option Level × Nat)
  | none => .ok (none, next)
  | some d =>
    match kind with
    | .busAdd _ => do
      let (l, next) ← Level.build (some key) (depth + 1) next d
      return (some l, next)
    | _ => .ok (none, next)

end

/-- The graph that a document describes. -/
def Graph.build (d : Document) : Except GraphError Graph := do
  return ⟨(← Level.build none 0 0 d).1⟩

end Patchbay
