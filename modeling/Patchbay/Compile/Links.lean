import Patchbay.Compile.Basic

/-!
# Compiling: links

Both ends of a link are looked up in the bindings, which turns them into addresses; then the engine
is asked to connect the two. A link that touches a node that was left out is left out too, with a
warning that names this node, the origin rather than the target.
-/

namespace Patchbay

/-- The address of one end of a link, from what its node became. -/
def resolveEnd (level : Level) (b : Bindings) (l : GraphLink) (e : LinkEnd) :
    Except CompileError PortAddress :=
  let key := l.node e
  let slot := l.slot e
  let orUnresolved : Option PortAddress → Except CompileError PortAddress
    | some a => .ok a
    | none => .error (.unresolvedPort level.id l.id key e.direction slot)
  match level.node? key.id, b.node? key with
  | some v, some binding =>
    match v.kind, binding, e with
    | .mainInputs _, .mains ids, .origin => orUnresolved (ids[slot]?.map .main)
    | .mainOutputs _, .mains ids, .target => orUnresolved (ids[slot]?.map .main)
    | .busAdd _, .bus id _ outputs, .origin => orUnresolved (outputs[slot]?.map (.bus id))
    | .busAdd _, .bus id inputs _, .target => orUnresolved (inputs[slot]?.map (.bus id))
    | .busInput _, .busPort bus port, .origin => .ok (.bus bus port)
    | .busOutput _, .busPort bus port, .target => .ok (.bus bus port)
    | .processing _, .processing bus id _ outputs, .origin =>
      orUnresolved (outputs[slot]?.join.map (.moduleOutput bus id))
    | .processing _, .processing bus id inputs _, .target =>
      orUnresolved (inputs[slot]?.join.map (.moduleInput bus id))
    | _, _, _ => .error (.unaddressable level.id l.id key)
  | _, _ => .error (.unresolvedNode level.id l.id key)

/-- The end of a link that was left out, the origin rather than the target. -/
def GraphLink.skippedEnd? (l : GraphLink) (skipped : List NodeKey) : Option NodeKey :=
  [l.origin, l.target].find? fun key => skipped.contains key

namespace Compiler

variable {σ : Type}

def connectLink (engine : Engine σ) (level : Level) (l : GraphLink) : Compiler σ Unit := do
  let s ← get
  match l.skippedEnd? s.skipped with
  | some node => warn [.skippedLink level.id l.id node]
  | none => do
    let origin ← proceed (resolveEnd level s.bindings l .origin)
    let target ← proceed (resolveEnd level s.bindings l .target)
    let id : String ← converse (engine.ask (.addConnection origin.text target.text))
    bind? fun b => b.bindConnection level.id l.index l.id id
    report fun r => { r with connections := r.connections + 1 }

def connectLinks (engine : Engine σ) (level : Level) : List GraphLink → Compiler σ Unit
  | [] => pure ()
  | l :: ls => do
    connectLink engine level l
    connectLinks engine level ls

end Compiler

end Patchbay
