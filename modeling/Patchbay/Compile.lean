import Patchbay.Compile.Links
import Patchbay.Compile.Nodes

/-!
# Compiling a graph

A graph is compiled in an order that lets every request use ids that are known by then: first the
physical ports of all levels, then the nodes of the root one after the other, each bus with
everything in it before the next node, and the links of a level once all its nodes exist.
-/

namespace Patchbay

namespace Compiler

variable {σ : Type}

mutual

/-- Creates the nodes of a level in a bus, then connects its links. -/
def expandLevel (engine : Engine σ) (bus : String) : Level → Compiler σ Unit
  | ⟨id, parent, depth, nodes, links⟩ => do
    report fun r => { r with maxDepth := max r.maxDepth depth }
    expandNodes engine bus nodes
    connectLinks engine ⟨id, parent, depth, nodes, links⟩ links

def expandNodes (engine : Engine σ) (bus : String) : List GraphNode → Compiler σ Unit
  | [] => pure ()
  | v :: vs => do
    expandNode engine bus v
    expandNodes engine bus vs

/-- Creates a node with everything in it. -/
def expandNode (engine : Engine σ) (bus : String) : GraphNode → Compiler σ Unit
  | ⟨key, kind, inputNames, outputNames, child⟩ =>
    match kind with
    | .busAdd title => do
      let id ← createBus engine bus key title child
      expandChild engine id child
    | .processing spec => createModule engine bus key inputNames outputNames spec
    | .unsupported tag => skipNode key tag
    | .mainInputs _ | .mainOutputs _ | .busInput _ | .busOutput _ => pure ()

/-- Expands the level that a node holds. -/
def expandChild (engine : Engine σ) (bus : String) : Option Level → Compiler σ Unit
  | none => pure ()
  | some l => expandLevel engine bus l

end

/-- All steps of a compilation. -/
def buildGraph (engine : Engine σ) (g : Graph) : Compiler σ Unit := do
  let mains : MainPorts ← converse (engine.ask .listMain)
  let s ← get
  let b ← proceed (bindMains mains s.bindings (g.levels.flatMap Level.nodes))
  set { s with bindings := b }
  expandLevel engine "" g.root

end Compiler

structure Compilation where
  bindings : Bindings
  report : Report

/-- Builds a graph in an engine. -/
def compile {σ : Type} (engine : Engine σ) (g : Graph) (state : σ) :
    Except CompileError Compilation × σ :=
  let (result, session) := (Compiler.buildGraph engine g).run { engine := state }
  (result.map fun _ => ⟨session.bindings, session.report⟩, session.engine)

end Patchbay
