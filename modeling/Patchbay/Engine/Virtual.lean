import Patchbay.Address
import Patchbay.Engine.Basic
import Patchbay.Text.Split

/-!
# The virtual engine

An engine that keeps what it was asked to build, and refuses connections between addresses that it
never gave out. It numbers its ids: `name n` is the text of the id that was issued as the `n`-th.
The ports of a bus can be both ends of a connection, since the one side of them lies in the bus and
the other outside of it.

Each request is recorded before anything else. A request whose operation is set to fail is then
rejected; one that is rejected, for whatever reason, changes nothing and issues no id.
-/

namespace Patchbay

namespace VirtualEngine

structure Bus where
  id : String
  parent : String
  title : String
  ports : PortList
deriving DecidableEq, Repr

structure Module where
  id : String
  bus : String
  spec : ModuleSpec
  ports : PortList
deriving DecidableEq, Repr

structure Connection where
  id : String
  origin : String
  target : String
deriving DecidableEq, Repr

end VirtualEngine

/-- The state of a virtual engine. What was added stands in the order of its adding. -/
structure VirtualEngine where
  mains : MainPorts
  buses : List VirtualEngine.Bus
  modules : List VirtualEngine.Module
  connections : List VirtualEngine.Connection
  /-- The addresses that a connection can start at. -/
  sources : List String
  /-- The addresses that a connection can end at. -/
  sinks : List String
  /-- The requests so far. -/
  calls : List Request
  /-- The operations that are set to fail. -/
  failing : List String
  /-- The number of ids issued so far. -/
  issued : Nat

namespace VirtualEngine

/-- The ids from a number on, one for each item. -/
def idsFrom {α : Type} (name : Nat → String) (start : Nat) (items : List α) : List String :=
  (List.range' start items.length).map name

/-- Ports of the given names with the ids from a number on. -/
def portsFrom (name : Nat → String) (start : Nat) (names : List String) : List Port :=
  (idsFrom name start names).zipWith Port.mk names

/-- A fresh engine with so many physical inputs and outputs. -/
def new (name : Nat → String) (inputs outputs : Nat) (failing : List String) : VirtualEngine :=
  let mains : MainPorts :=
    ⟨(List.range' 0 inputs).map name, (List.range' inputs outputs).map name⟩
  { mains
    buses := []
    modules := []
    connections := []
    sources := mains.inputs.map fun id => (PortAddress.main id).text
    sinks := mains.outputs.map fun id => (PortAddress.main id).text
    calls := []
    failing
    issued := inputs + outputs }

def bus? (s : VirtualEngine) (id : String) : Option Bus := s.buses.find? fun b => b.id = id

def module? (s : VirtualEngine) (id : String) : Option Module := s.modules.find? fun m => m.id = id

/-- Whether something can be put into a bus: an empty id stands for no bus. -/
def canHold (s : VirtualEngine) (bus : String) : Bool := bus = "" || (s.bus? bus).isSome

/-! ### Requests that add something -/

/-- Adds a bus with ports for the names in two lists. -/
def putBus (name : Nat → String) (s : VirtualEngine) (parent title inputs outputs : String) :
    VirtualEngine :=
  let id := name s.issued
  let ins := portsFrom name (s.issued + 1) (Text.splitNames inputs)
  let outs := portsFrom name (s.issued + 1 + ins.length) (Text.splitNames outputs)
  let addresses := (ins ++ outs).map fun p => (PortAddress.bus id p.id).text
  { s with
    buses := s.buses ++ [⟨id, parent, title, ⟨ins, outs⟩⟩]
    sources := s.sources ++ addresses
    sinks := s.sinks ++ addresses
    issued := s.issued + 1 + ins.length + outs.length }

/-- Adds a module with the ports of its type. -/
def putModule (name : Nat → String) (s : VirtualEngine) (bus : String) (spec : ModuleSpec) :
    VirtualEngine :=
  let id := name s.issued
  let ins := portsFrom name (s.issued + 1) spec.type.inputNames
  let outs := portsFrom name (s.issued + 1 + ins.length) spec.type.outputNames
  { s with
    modules := s.modules ++ [⟨id, bus, spec, ⟨ins, outs⟩⟩]
    sources := s.sources ++ outs.map fun p => (PortAddress.moduleOutput bus id p.id).text
    sinks := s.sinks ++ ins.map fun p => (PortAddress.moduleInput bus id p.id).text
    issued := s.issued + 1 + ins.length + outs.length }

def putConnection (name : Nat → String) (s : VirtualEngine) (origin target : String) :
    VirtualEngine :=
  { s with
    connections := s.connections ++ [⟨name s.issued, origin, target⟩]
    issued := s.issued + 1 }

/-! ### Requests -/

/-- The answer to a request that was recorded and is not set to fail. -/
def respond (name : Nat → String) :
    (r : Request) → VirtualEngine → Except EngineError r.Answer × VirtualEngine
  | .listMain, s => (.ok s.mains, s)
  | .addBus parent title inputs outputs, s =>
    if s.canHold parent then (.ok (name s.issued), s.putBus name parent title inputs outputs)
    else (.error (.rejected "add_bus" ("no parent bus " ++ parent)), s)
  | .listBusPorts bus, s =>
    match s.bus? bus with
    | some b => (.ok b.ports, s)
    | none => (.error (.rejected "list_bus_port" ("no bus " ++ bus)), s)
  | .addModule bus spec, s =>
    if s.canHold bus then (.ok (name s.issued), s.putModule name bus spec)
    else (.error (.rejected spec.type.operation ("no bus " ++ bus)), s)
  | .listModulePorts id, s =>
    match s.module? id with
    | some m => (.ok m.ports, s)
    | none => (.error (.rejected "list_module_port" ("no module " ++ id)), s)
  | .addConnection origin target, s =>
    if !s.sources.contains origin then
      (.error (.rejected "add_connection" ("unknown origin port " ++ origin)), s)
    else if !s.sinks.contains target then
      (.error (.rejected "add_connection" ("unknown target port " ++ target)), s)
    else (.ok (name s.issued), s.putConnection name origin target)

/-- The virtual engine whose ids have the given texts. -/
def engine (name : Nat → String) : Engine VirtualEngine := fun r s =>
  let s := { s with calls := s.calls ++ [r] }
  if s.failing.contains r.operation then
    (.error (.rejected r.operation "failure injected"), s)
  else respond name r s

end VirtualEngine

/-- Ids that are their number in braces. -/
def numberedId (n : Nat) : String := "\x7b" ++ toString n ++ "\x7d"

end Patchbay
