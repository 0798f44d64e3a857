import Patchbay.Graph.Basic

/-!
# Bindings

The ids that an engine issued, kept beside the graph: what each node became, the connection made
for each link, and the bus of each nested level. A node and a link are bound once; the bus of a
level stays the first one that was recorded.
-/

namespace Patchbay

/-- What a node became in the engine. -/
inductive NodeBinding where
  /-- Physical ports by slot. -/
  | mains (ids : List String)
  /-- A bus and its ports, in the engine's order. -/
  | bus (id : String) (inputs outputs : List String)
  /-- A port of the bus that the level belongs to. -/
  | busPort (bus port : String)
  /-- A module in a bus. Its ports are by declared slot, with none where the engine reported no
  port of that name. -/
  | processing (bus id : String) (inputs outputs : List (Option String))
deriving DecidableEq, Repr

/-- What must not be recorded twice. -/
inductive BindingError where
  | nodeBound (key : NodeKey)
  | linkBound (level : Nat) (link : Int)
deriving DecidableEq, Repr

/-- The ids issued so far. -/
structure Bindings where
  nodes : List (NodeKey × NodeBinding) := []
  connections : List ((Nat × Nat) × String) := []
  levelBuses : List (Nat × String) := []

namespace Bindings

def node? (b : Bindings) (key : NodeKey) : Option NodeBinding := b.nodes.lookup key

/-- The connection made for the link at a position of a level. -/
def connection? (b : Bindings) (level index : Nat) : Option String :=
  b.connections.lookup (level, index)

/-- The bus of a nested level. -/
def levelBus? (b : Bindings) (level : Nat) : Option String := b.levelBuses.lookup level

def nodeCount (b : Bindings) : Nat := b.nodes.length

def bindNode (b : Bindings) (key : NodeKey) (binding : NodeBinding) :
    Except BindingError Bindings :=
  match b.node? key with
  | some _ => .error (.nodeBound key)
  | none => .ok { b with nodes := (key, binding) :: b.nodes }

def bindConnection (b : Bindings) (level index : Nat) (link : Int) (id : String) :
    Except BindingError Bindings :=
  match b.connection? level index with
  | some _ => .error (.linkBound level link)
  | none => .ok { b with connections := ((level, index), id) :: b.connections }

/-- Records the bus of a nested level, if it has none yet. -/
def bindLevelBus (b : Bindings) (level : Nat) (id : String) : Bindings :=
  match b.levelBus? level with
  | some _ => b
  | none => { b with levelBuses := (level, id) :: b.levelBuses }

end Bindings

end Patchbay
