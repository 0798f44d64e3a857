import Patchbay.Graph.Build

/-!
# Arenas

An arena holds the levels of a preset in one list, in the order of their numbers, and a bus names
the level that it holds by its number. A level is put into the list before anything is known of its
nodes, so that the levels that its buses hold come after it. It is filled once they have; what its
links need to know of those levels is then looked up in the list.
-/

namespace Patchbay

/-- A node that names the level it holds. -/
structure ArenaNode where
  key : NodeKey
  kind : NodeKind
  inputNames : List String
  outputNames : List String
  child : Option Nat
deriving DecidableEq, Repr

/-- A level among others in a list. -/
structure ArenaLevel where
  id : Nat
  parent : Option NodeKey
  depth : Nat
  nodes : List ArenaNode := []
  links : List GraphLink := []
  /-- The ids of the nodes that are inputs of the level's bus. -/
  inputs : List Int := []
  outputs : List Int := []
  /-- Where the node with an id stands. -/
  positions : List (Int × Nat) := []
deriving DecidableEq, Repr

/-- The name of the port that a kind gives its level's bus, in whichever direction. -/
def NodeKind.portName? : NodeKind → Option String
  | .busInput name | .busOutput name => some name
  | _ => none

namespace ArenaLevel

def node? (l : ArenaLevel) (id : Int) : Option ArenaNode :=
  (l.positions.lookup id).bind fun i => l.nodes[i]?

def portNodes (l : ArenaLevel) : Direction → List Int
  | .input => l.inputs
  | .output => l.outputs

/-- The names of the ports of the level's bus in a direction. -/
def portNames (l : ArenaLevel) (d : Direction) : List String :=
  (l.portNodes d).filterMap fun id => (l.node? id).bind fun v => v.kind.portName?

end ArenaLevel

/-- The levels of a preset. -/
structure Arena where
  levels : List ArenaLevel
deriving DecidableEq, Repr

namespace Arena

def node? (a : Arena) (k : NodeKey) : Option ArenaNode :=
  (a.levels[k.level]?).bind fun l => l.node? k.id

/-- How deep buses are nested. -/
def maxDepth (a : Arena) : Nat := (a.levels.map ArenaLevel.depth).max?.getD 0

/-! ### Ends of links -/

/-- What a node offers as an end of links. -/
def slots (a : Arena) (v : ArenaNode) (e : LinkEnd) : Slots :=
  match v.kind, e with
  | .mainInputs slots, .origin => .below slots
  | .mainOutputs slots, .target => .below slots
  | .busAdd _, e =>
    let inside := v.child.bind fun c => a.levels[c]?
    .below ((inside.map fun l => (l.portNodes e.direction).length).getD 0)
  | .busInput _, .origin => .any
  | .busOutput _, .target => .any
  | .processing _, .origin => .below v.outputNames.length
  | .processing _, .target => .below v.inputNames.length
  | .unsupported _, _ => .any
  | _, _ => .none

/-- Checks one end of a link against the levels so far. -/
def checkEnd (a : Arena) (l : GraphLink) (e : LinkEnd) : Except GraphError Unit :=
  let key := l.node e
  match a.node? key with
  | none => .error (.unknownEnd key.level l.id key.id)
  | some v =>
    match a.slots v e with
    | .any => .ok ()
    | .none => .error (.invalidEnd key.level l.id key.id v.kind.label e)
    | .below available =>
      if l.slot e < available then .ok ()
      else .error (.slotOutOfRange key.level l.id key.id (l.slot e) available)

/-- The links of a level from a position on. -/
def checkLinks (a : Arena) (level index : Nat) : List Link → Except GraphError (List GraphLink)
  | [] => .ok []
  | l :: ls => do
    let link : GraphLink :=
      ⟨index, l.id, ⟨level, l.originId⟩, l.originSlot, ⟨level, l.targetId⟩, l.targetSlot⟩
    a.checkEnd link .origin
    a.checkEnd link .target
    return link :: (← checkLinks a level (index + 1) ls)

/-! ### Levels -/

/-- What is known of a level while its nodes are taken in order. -/
structure Filling where
  nodes : List ArenaNode := []
  positions : List (Int × Nat) := []
  inputs : List Int := []
  outputs : List Int := []
  /-- The names of the inputs of the level's bus. -/
  inputNames : List String := []
  outputNames : List String := []

namespace Filling

/-- The names of the ports of a bus with one more, unless it may not have that one. -/
def takeName (bus : NodeKey) (d : Direction) (name : String) (earlier : List String) :
    Except GraphError (List String) :=
  if !validPortName name then .error (.invalidPort bus d name)
  else if earlier.contains name then .error (.duplicatePort bus d name)
  else .ok (earlier ++ [name])

def takePort (f : Filling) (bus : NodeKey) (id : Int) : NodeKind → Except GraphError Filling
  | .busInput name => do
    let inputNames ← takeName bus .input name f.inputNames
    return { f with inputNames, inputs := f.inputs ++ [id] }
  | .busOutput name => do
    let outputNames ← takeName bus .output name f.outputNames
    return { f with outputNames, outputs := f.outputs ++ [id] }
  | _ => .ok f

/-- Takes in the id of the next node. -/
def takeId (f : Filling) (id : Int) : Filling :=
  { f with positions := f.positions ++ [(id, f.nodes.length)] }

def takeNode (f : Filling) (v : ArenaNode) : Filling := { f with nodes := f.nodes ++ [v] }

/-- The level with its nodes. -/
def fill (f : Filling) (l : ArenaLevel) : ArenaLevel :=
  { l with nodes := f.nodes, positions := f.positions, inputs := f.inputs, outputs := f.outputs }

end Filling

/-- The levels when all nodes of level `id` are known: they are filled in, and so are the links if
these fit them. -/
def close (id : Nat) (f : Filling) (levels : List ArenaLevel) (links : List Link) :
    Except GraphError (List ArenaLevel) := do
  let levels := levels.modify id f.fill
  let links ← checkLinks ⟨levels⟩ id 0 links
  return levels.modify id fun l => { l with links }

mutual

/-- The arena with the levels of a document, and the number of the first of them. -/
def addLevel (parent : Option NodeKey) (depth : Nat) (levels : List ArenaLevel) :
    Document → Except GraphError (Nat × List ArenaLevel)
  | ⟨nodes, links, _, _⟩ => do
    let id := levels.length
    let (f, levels) ← addNodes parent depth id {} (levels ++ [{ id, parent, depth }]) nodes
    return (id, ← close id f levels links)

/-- Takes in the nodes of level `id`. -/
def addNodes (parent : Option NodeKey) (depth id : Nat) (f : Filling) (levels : List ArenaLevel) :
    List Node → Except GraphError (Filling × List ArenaLevel)
  | [] => .ok (f, levels)
  | n :: ns => do
    let (f, levels) ← addNode parent depth id f levels n
    addNodes parent depth id f levels ns

def addNode (parent : Option NodeKey) (depth id : Nat) (f : Filling) (levels : List ArenaLevel) :
    Node → Except GraphError (Filling × List ArenaLevel)
  | ⟨nodeId, type, title, properties, subgraph, inputs, outputs, extra⟩ => do
    let n : Node := ⟨nodeId, type, title, properties, subgraph, inputs, outputs, extra⟩
    if (f.positions.lookup nodeId).isSome then throw (.duplicateNode id nodeId)
    let key : NodeKey := ⟨id, nodeId⟩
    let kind ← n.classify.mapError (.field id nodeId type)
    let f ← (f.takeId nodeId).takePort (parent.getD key) nodeId kind
    let (child, levels) ← addChild key depth levels kind subgraph
    return (f.takeNode ⟨key, kind, n.inputNames, n.outputNames, child⟩, levels)

/-- Adds the level that a node holds, if it is a bus. -/
def addChild (key : NodeKey) (depth : Nat) (levels : List ArenaLevel) (kind : NodeKind) :
    Option Document → Except GraphError (Option Nat × List ArenaLevel)
  | none => .ok (none, levels)
  | some d =>
    match kind with
    | .busAdd _ => do
      let (c, levels) ← addLevel (some key) (depth + 1) levels d
      return (some c, levels)
    | _ => .ok (none, levels)

end

def build (d : Document) : Except GraphError Arena := do
  let (_, levels) ← addLevel none 0 [] d
  return ⟨levels⟩

end Arena

end Patchbay
