import Patchbay.Compile.Basic

/-!
# Compiling: nodes

The physical ports are bound first, by position. A bus is created with a port for each pass-through
node of its level; the engine has to report just these ports, and they belong to the pass-throughs
by position. The ports of a module belong to its declared slots by name, since the engine may
report them in any order.
-/

namespace Patchbay

/-! ### Physical ports -/

/-- The direction and number of the physical ports that a kind stands for. -/
def NodeKind.mainSlots? : NodeKind → Option (Direction × Nat)
  | .mainInputs slots => some (.input, slots)
  | .mainOutputs slots => some (.output, slots)
  | _ => none

/-- Binds a node for physical ports to the first ones of its direction. -/
def bindMain (mains : MainPorts) (b : Bindings) (v : GraphNode) : Except CompileError Bindings :=
  match v.kind.mainSlots? with
  | none => .ok b
  | some (d, slots) =>
    let available := mains.ports d
    if slots ≤ available.length then
      (b.bindNode v.key (.mains (available.take slots))).mapError .binding
    else .error (.mainOutOfRange v.key d (slots - 1) available.length)

def bindMains (mains : MainPorts) (b : Bindings) (nodes : List GraphNode) :
    Except CompileError Bindings :=
  nodes.foldlM (bindMain mains) b

/-! ### Ports of buses and modules -/

/-- The id of the first port of each name. -/
def matchPorts (reported : List Port) (names : List String) : List (Option String) :=
  names.map fun name => (reported.find? fun p => p.name = name).map Port.id

/-- A warning for each name that no port has. -/
def unmatched (key : NodeKey) (d : Direction) (reported : List Port) (names : List String) :
    List Warning :=
  (names.filter fun name => !(reported.any fun p => p.name = name)).map (.unmatchedPort key d)

/-- Binds the pass-throughs of a level to ports of its bus, by position. -/
def bindPassThroughs (level : Nat) (bus : String) (pairs : List (Int × String)) (b : Bindings) :
    Except BindingError Bindings :=
  pairs.foldlM (fun b (node, port) => b.bindNode ⟨level, node⟩ (.busPort bus port)) b

/-- Binds the pass-throughs of the level that a bus holds, and the level to the bus. -/
def bindInside (child : Option Level) (ids : BusIds) (b : Bindings) :
    Except BindingError Bindings :=
  match child with
  | none => .ok b
  | some l => do
    let b ← bindPassThroughs l.id ids.id ((l.portNodes .input).zip ids.inputs) b
    let b ← bindPassThroughs l.id ids.id ((l.portNodes .output).zip ids.outputs) b
    return b.bindLevelBus l.id ids.id

/-- The names of the ports of the bus that holds a level. -/
def childPortNames (child : Option Level) (d : Direction) : List String :=
  (child.map fun l => l.portNames d).getD []

namespace Compiler

variable {σ : Type}

def createBus (engine : Engine σ) (parent : String) (key : NodeKey) (title : String)
    (child : Option Level) : Compiler σ String := do
  let ids ← converse
    (engine.newBus parent title (childPortNames child .input) (childPortNames child .output))
  bind? (bindInside child ids)
  bindNode key (.bus ids.id ids.inputs ids.outputs)
  report fun r => { r with buses := r.buses + 1 }
  return ids.id

def createModule (engine : Engine σ) (bus : String) (key : NodeKey)
    (inputNames outputNames : List String) (spec : ModuleSpec) : Compiler σ Unit := do
  let ids ← converse (engine.newModule bus spec)
  warn (unmatched key .input ids.ports.inputs inputNames)
  warn (unmatched key .output ids.ports.outputs outputNames)
  bindNode key
    (.processing bus ids.id (matchPorts ids.ports.inputs inputNames)
      (matchPorts ids.ports.outputs outputNames))
  report fun r => { r with modules := r.modules + 1 }

/-- Leaves out a node that the engine has nothing for. -/
def skipNode (key : NodeKey) (tag : String) : Compiler σ Unit := do
  modify fun s => { s with skipped := key :: s.skipped }
  warn [.unsupportedNode key tag]

end Compiler

end Patchbay
