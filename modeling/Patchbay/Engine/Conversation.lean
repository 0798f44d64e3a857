import Patchbay.Address
import Patchbay.Engine.Basic
import Patchbay.Text.Split

/-!
# Conversations with an engine

What is asked of an engine to get a bus or a module: first to make it, then for its ports. A
conversation ends at the first request that fails, and at the first answer that would be of no use
later: an id with a separator of addresses, or another number of ports than a bus was asked for.
-/

namespace Patchbay

/-- Requests to an engine one after the other. -/
abbrev Conversation (σ : Type) := ExceptT EngineError (StateM σ)

/-- Goes on with a result, or fails with its error. -/
def proceed {ε σ α : Type} (x : Except ε α) : ExceptT ε (StateM σ) α := ExceptT.mk fun s => (x, s)

/-- Refuses an id that could not be a part of an address. -/
def checkOpaque (operation id : String) : Except EngineError Unit :=
  if isOpaque id then .ok () else .error (.malformedId operation id)

/-- The ids of the ports of a bus. There have to be as many as were asked for. -/
def busPortIds (bus : String) (d : Direction) (ports : List Port) (expected : Nat) :
    Except EngineError (List String) := do
  if ports.length ≠ expected then
    throw (.portCountMismatch "list_bus_port" bus d expected ports.length)
  ports.mapM fun p => do
    checkOpaque "list_bus_port" p.id
    return p.id

structure BusIds where
  id : String
  inputs : List String
  outputs : List String
deriving DecidableEq, Repr

structure ModuleIds where
  id : String
  ports : PortList
deriving DecidableEq, Repr

namespace Engine

variable {σ : Type}

def ask (engine : Engine σ) (r : Request) : Conversation σ r.Answer := ExceptT.mk (engine r)

/-- Makes a bus with ports of the given names. -/
def newBus (engine : Engine σ) (parent title : String) (inputs outputs : List String) :
    Conversation σ BusIds := do
  let id : String ← engine.ask
    (.addBus parent title (Text.joinCommas inputs) (Text.joinCommas outputs))
  proceed (checkOpaque "add_bus" id)
  let ports : PortList ← engine.ask (.listBusPorts id)
  let ins ← proceed (busPortIds id .input ports.inputs inputs.length)
  let outs ← proceed (busPortIds id .output ports.outputs outputs.length)
  return ⟨id, ins, outs⟩

/-- Makes a module. -/
def newModule (engine : Engine σ) (bus : String) (spec : ModuleSpec) :
    Conversation σ ModuleIds := do
  let id : String ← engine.ask (.addModule bus spec)
  proceed (checkOpaque spec.type.operation id)
  let ports : PortList ← engine.ask (.listModulePorts id)
  proceed ((ports.inputs ++ ports.outputs).forM fun p => checkOpaque "list_module_port" p.id)
  return ⟨id, ports⟩

end Engine

end Patchbay
