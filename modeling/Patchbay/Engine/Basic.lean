import Patchbay.Graph.Basic

/-!
# Engines

An engine answers six kinds of requests, one at a time. The kind of a request fixes the type of its
answer, so an engine is one function: from a request and a state to an answer, or an error, and the
next state.
-/

namespace Patchbay

/-- A port as the engine reports it. -/
structure Port where
  id : String
  name : String
deriving DecidableEq, Repr

structure PortList where
  inputs : List Port
  outputs : List Port
deriving DecidableEq, Repr

/-- The ids of the physical ports, in the engine's order. -/
structure MainPorts where
  inputs : List String
  outputs : List String
deriving DecidableEq, Repr

namespace PortList

def ports (p : PortList) : Direction → List Port
  | .input => p.inputs
  | .output => p.outputs

end PortList

namespace MainPorts

def ports (m : MainPorts) : Direction → List String
  | .input => m.inputs
  | .output => m.outputs

end MainPorts

/-- What an engine can be asked to do. -/
inductive Request where
  | listMain
  /-- A bus in another one, or in none if the parent is empty, with ports for two lists of names
  with commas. -/
  | addBus (parent title inputs outputs : String)
  | listBusPorts (bus : String)
  | addModule (bus : String) (spec : ModuleSpec)
  | listModulePorts (id : String)
  | addConnection (origin target : String)
deriving DecidableEq, Repr

namespace Request

/-- What a request is answered with. -/
@[reducible] def Answer : Request → Type
  | listMain => MainPorts
  | addBus .. => String
  | listBusPorts _ => PortList
  | addModule .. => String
  | listModulePorts _ => PortList
  | addConnection .. => String

def operation : Request → String
  | listMain => "list_main"
  | addBus .. => "add_bus"
  | listBusPorts _ => "list_bus_port"
  | addModule _ spec => spec.type.operation
  | listModulePorts _ => "list_module_port"
  | addConnection .. => "add_connection"

end Request

/-- Why a request failed, or its answer is of no use. -/
inductive EngineError where
  | rejected (operation reason : String)
  /-- An id holds a separator of addresses. -/
  | malformedId (operation id : String)
  | portCountMismatch (operation bus : String) (direction : Direction) (expected returned : Nat)
deriving DecidableEq, Repr

/-- An engine with states of a type. -/
abbrev Engine (σ : Type) := (r : Request) → σ → Except EngineError r.Answer × σ

end Patchbay
