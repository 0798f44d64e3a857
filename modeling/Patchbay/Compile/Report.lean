import Patchbay.Graph.Basic
import Patchbay.Json.Basic
import Patchbay.Text.Quoted

/-!
# Reports

What a successful compilation did, and what it had to leave out.
-/

namespace Patchbay

/-- A problem that does not stop a compilation. -/
inductive Warning where
  /-- The engine knows nothing like the node; it was not created. -/
  | unsupportedNode (node : NodeKey) (tag : String)
  /-- The link touches a node that was not created; it was not connected. -/
  | skippedLink (level : Nat) (link : Int) (node : NodeKey)
  /-- The engine reported no port of a name that a module declares. -/
  | unmatchedPort (node : NodeKey) (direction : Direction) (name : String)
deriving DecidableEq, Repr

def Warning.text : Warning → String
  | .unsupportedNode node tag => s!"unsupported node type {Text.quoted tag} ({node.text}), skipped"
  | .skippedLink level link node => s!"link {link} at level {level} touches skipped {node.text}"
  | .unmatchedPort node direction name =>
    s!"{node.text} declares {direction.name} port {Text.quoted name} the engine did not report"

/-- What a compilation did. -/
structure Report where
  buses : Nat := 0
  modules : Nat := 0
  connections : Nat := 0
  /-- How deep the buses are nested. -/
  maxDepth : Nat := 0
  warnings : List Warning := []
deriving DecidableEq, Repr

namespace Report

/-- Whether nothing had to be left out. -/
def isClean (r : Report) : Bool := r.warnings.isEmpty

/-- A report in one line. -/
def summary (r : Report) : String :=
  s!"{r.buses} buses, {r.modules} modules, {r.connections} connections (depth {r.maxDepth}), " ++
    s!"{r.warnings.length} warnings"

end Report

/-! ### Reports as values -/

def NodeKey.toJson (k : NodeKey) : Json :=
  .object [("level", .ofNat k.level), ("local_id", .ofInt k.id)]

def Warning.toJson : Warning → Json
  | .unsupportedNode node tag =>
    .object [("kind", .string "unsupported_node"), ("node", node.toJson), ("tag", .string tag)]
  | .skippedLink level link node =>
    .object
      [("kind", .string "skipped_link"), ("level", .ofNat level), ("link", .ofInt link),
        ("node", node.toJson)]
  | .unmatchedPort node direction name =>
    .object
      [("kind", .string "unmatched_port"), ("node", node.toJson),
        ("direction", .string direction.name), ("name", .string name)]

def Report.toJson (r : Report) : Json :=
  .object
    [("buses", .ofNat r.buses), ("modules", .ofNat r.modules),
      ("connections", .ofNat r.connections), ("max_depth", .ofNat r.maxDepth),
      ("warnings", .array (r.warnings.map Warning.toJson))]

end Patchbay
