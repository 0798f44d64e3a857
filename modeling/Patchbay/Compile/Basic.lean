import Patchbay.Bindings
import Patchbay.Compile.Report
import Patchbay.Engine.Conversation

/-!
# Compiling: errors, state and requests

A compilation asks an engine step by step to build a graph. Its session holds the state of the
engine and what was recorded so far; a failure ends the session and leaves the engine with
whatever it had built by then.
-/

namespace Patchbay

/-- Why a compilation failed. -/
inductive CompileError where
  /-- A node has more slots than the engine has physical ports; `index` is its last slot. -/
  | mainOutOfRange (node : NodeKey) (direction : Direction) (index available : Nat)
  | engine (error : EngineError)
  | unresolvedNode (level : Nat) (link : Int) (node : NodeKey)
  | unresolvedPort (level : Nat) (link : Int) (node : NodeKey) (direction : Direction) (slot : Nat)
  | unaddressable (level : Nat) (link : Int) (node : NodeKey)
  | binding (error : BindingError)
deriving DecidableEq, Repr

def EngineError.message : EngineError → String
  | .rejected operation reason => s!"{operation} rejected: {reason}"
  | .malformedId operation id =>
    s!"{operation} returned id {Text.quoted id} containing a reserved address separator"
  | .portCountMismatch operation bus direction expected returned =>
    s!"{operation} returned {returned} {direction.name} ports for bus {bus}, expected {expected}"

def BindingError.message : BindingError → String
  | .nodeBound key => s!"{key.text} was assigned an engine id twice"
  | .linkBound level link => s!"link {link} at level {level} was connected twice"

def CompileError.message : CompileError → String
  | .mainOutOfRange node direction index available =>
    s!"{node.text} references main {direction.name} {index} but the engine exposes {available}"
  | .engine error => error.message
  | .unresolvedNode level link node =>
    s!"link {link} at level {level} references {node.text}, which has no engine id"
  | .unresolvedPort level link node direction slot =>
    s!"link {link} at level {level}: {direction.name} slot {slot} of {node.text} " ++
      "has no engine port"
  | .unaddressable level link node =>
    s!"link {link} at level {level} cannot be addressed through {node.text}"
  | .binding error => error.message

/-- A compilation under way. -/
structure Session (σ : Type) where
  /-- The state of the engine. -/
  engine : σ
  bindings : Bindings := {}
  report : Report := {}
  /-- The nodes that were left out. -/
  skipped : List NodeKey := []

/-- A step of a compilation. -/
abbrev Compiler (σ : Type) := ExceptT CompileError (StateM (Session σ))

namespace Compiler

variable {σ : Type}

def converse {α : Type} (talk : Conversation σ α) : Compiler σ α :=
  ExceptT.mk fun s =>
    let (answer, next) := talk.run s.engine
    (answer.mapError .engine, { s with engine := next })

/-- Changes the bindings, unless something would be recorded twice. -/
def bind? (record : Bindings → Except BindingError Bindings) : Compiler σ Unit := do
  let s ← get
  let b ← proceed ((record s.bindings).mapError .binding)
  set { s with bindings := b }

def bindNode (key : NodeKey) (binding : NodeBinding) : Compiler σ Unit :=
  bind? fun b => b.bindNode key binding

def report (change : Report → Report) : Compiler σ Unit :=
  modify fun s => { s with report := change s.report }

def warn (ws : List Warning) : Compiler σ Unit :=
  report fun r => { r with warnings := r.warnings ++ ws }

end Compiler

end Patchbay
