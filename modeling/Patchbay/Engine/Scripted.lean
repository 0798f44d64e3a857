import Patchbay.Engine.Basic
import Patchbay.Text.Split

/-!
# The scripted engine

An engine that answers from a script: the `n`-th request gets the `n`-th reply, if there is one and
it fits the request. Otherwise it invents ids from the number of the request, and reports the ports
that were asked for or that belong to the module. With it an engine can be shown to answer anything
at all.
-/

namespace Patchbay

inductive Reply where
  | id (text : String)
  /-- Two lists, as far as they can be taken for ports or for physical ports. Empty lists can be
  taken for both. -/
  | lists (ports : Option PortList) (mains : Option MainPorts)
  | reject (reason : String)
deriving DecidableEq, Repr

/-- The state of a scripted engine. -/
structure ScriptedEngine where
  mains : MainPorts
  script : List (Option Reply)
  /-- The requests so far. -/
  calls : List Request := []
  /-- The port names of the latest bus. -/
  busPorts : List String × List String := ([], [])
  /-- The port names of the latest module. -/
  modulePorts : List String × List String := ([], [])

namespace ScriptedEngine

def invented (letter : String) (n : Nat) (names : List String) : List Port :=
  names.zipIdx.map fun (name, k) => ⟨s!"{letter}{n}_{k}", name⟩

/-- The ports invented for two lists of names. -/
def inventedPorts (n : Nat) (names : List String × List String) : PortList :=
  ⟨invented "i" n names.1, invented "o" n names.2⟩

/-- The reply if it is an id, else an invented one. -/
def idOr (reply : Option Reply) (letter : String) (n : Nat) : String :=
  match reply with
  | some (.id text) => text
  | _ => s!"{letter}{n}"

/-- The reply if it is lists of ports, else the given ones. -/
def portsOr (reply : Option Reply) (default : PortList) : PortList :=
  match reply with
  | some (.lists (some ports) _) => ports
  | _ => default

/-- The answer to the `n`-th request by a reply that does not reject it. -/
def respond (n : Nat) (reply : Option Reply) (s : ScriptedEngine) : (r : Request) → r.Answer
  | .listMain =>
    match reply with
    | some (.lists _ (some mains)) => mains
    | _ => s.mains
  | .addBus .. => idOr reply "b" n
  | .listBusPorts _ => portsOr reply (inventedPorts n s.busPorts)
  | .addModule .. => idOr reply "m" n
  | .listModulePorts _ => portsOr reply (inventedPorts n s.modulePorts)
  | .addConnection .. => idOr reply "c" n

/-- Keeps the names of the ports that a request asks for. -/
def note (s : ScriptedEngine) : Request → ScriptedEngine
  | .addBus _ _ inputs outputs =>
    { s with busPorts := (Text.splitNames inputs, Text.splitNames outputs) }
  | .addModule _ spec =>
    { s with modulePorts := (spec.type.inputNames, spec.type.outputNames) }
  | _ => s

def engine : Engine ScriptedEngine := fun r s =>
  let n := s.calls.length
  let reply := (s.script[n]?).join
  let s := { s.note r with calls := s.calls ++ [r] }
  match reply with
  | some (.reject reason) => (.error (.rejected r.operation reason), s)
  | _ => (.ok (s.respond n reply r), s)

end ScriptedEngine

end Patchbay
