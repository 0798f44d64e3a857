import Patchbay.Kind

/-!
# Graphs

A graph is a preset whose nodes are classified and whose links are known to fit. Its levels are
numbered: the root is level 0, and every bus takes the next number for its own level where it
stands, before the nodes after it. A node's id is unique within its level, so a level and an id are
the key of a node.
-/

namespace Patchbay

/-- The place of a node in a graph. -/
structure NodeKey where
  level : Nat
  id : Int
deriving DecidableEq, Repr

def NodeKey.text (k : NodeKey) : String := s!"node {k.id} at level {k.level}"

/-- The two directions of ports. -/
inductive Direction where
  | input
  | output
deriving DecidableEq, Repr

def Direction.name : Direction → String
  | .input => "input"
  | .output => "output"

inductive LinkEnd where
  | origin
  | target
deriving DecidableEq, Repr

namespace LinkEnd

def name : LinkEnd → String
  | origin => "origin"
  | target => "target"

/-- The direction of the ports at an end: a link leads from an output to an input. -/
def direction : LinkEnd → Direction
  | origin => .output
  | target => .input

end LinkEnd

/-- A link between two nodes of one level. -/
structure GraphLink where
  /-- Position in the level's list of links. -/
  index : Nat
  id : Int
  origin : NodeKey
  originSlot : Nat
  target : NodeKey
  targetSlot : Nat
deriving DecidableEq, Repr

namespace GraphLink

def node (l : GraphLink) : LinkEnd → NodeKey
  | .origin => l.origin
  | .target => l.target

def slot (l : GraphLink) : LinkEnd → Nat
  | .origin => l.originSlot
  | .target => l.targetSlot

end GraphLink

mutual

/-- A node of a graph, with the level that it holds. -/
structure GraphNode where
  key : NodeKey
  kind : NodeKind
  /-- The names of the declared inputs. -/
  inputNames : List String
  /-- The names of the declared outputs. -/
  outputNames : List String
  /-- The level that a bus holds. -/
  child : Option Level

/-- A level of a graph: the nodes and links of a document whose ends are known to fit. -/
structure Level where
  id : Nat
  /-- The bus that the level belongs to. -/
  parent : Option NodeKey
  /-- How many buses the level lies in. -/
  depth : Nat
  nodes : List GraphNode
  links : List GraphLink

end

/-- The name of the port that a kind gives its level's bus in a direction. -/
def NodeKind.passThrough? : Direction → NodeKind → Option String
  | .input, .busInput name => some name
  | .output, .busOutput name => some name
  | _, _ => none

/-- The nodes that are ports of the level's bus in a direction, with the names of these ports. -/
def passThroughs (d : Direction) (nodes : List GraphNode) : List (Int × String) :=
  nodes.filterMap fun v => (v.kind.passThrough? d).map (v.key.id, ·)

namespace Level

def node? (l : Level) (id : Int) : Option GraphNode := l.nodes.find? fun v => v.key.id = id

/-- The ids of the nodes that are ports of the level's bus in a direction. -/
def portNodes (l : Level) (d : Direction) : List Int := (passThroughs d l.nodes).map Prod.fst

/-- The names of the ports of the level's bus in a direction. -/
def portNames (l : Level) (d : Direction) : List String := (passThroughs d l.nodes).map Prod.snd

mutual

/-- A level and all levels in it, in the order of their numbers. -/
def flatten : Level → List Level
  | ⟨id, parent, depth, nodes, links⟩ => ⟨id, parent, depth, nodes, links⟩ :: flattenNodes nodes

def flattenNodes : List GraphNode → List Level
  | [] => []
  | v :: vs => flattenNode v ++ flattenNodes vs

def flattenNode : GraphNode → List Level
  | ⟨_, _, _, _, none⟩ => []
  | ⟨_, _, _, _, some l⟩ => flatten l

end

end Level

/-- A preset that is known to make sense. -/
structure Graph where
  root : Level

namespace Graph

/-- All levels, in the order of their numbers. -/
def levels (g : Graph) : List Level := g.root.flatten

def node? (g : Graph) (k : NodeKey) : Option GraphNode := do (← g.levels[k.level]?).node? k.id

def childLevel? (g : Graph) (k : NodeKey) : Option Nat := do return (← (← g.node? k).child).id

/-- How deep buses are nested. -/
def maxDepth (g : Graph) : Nat := g.levels.foldl (fun d l => max d l.depth) 0

end Graph

end Patchbay
