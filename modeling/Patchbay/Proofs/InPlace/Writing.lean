import Patchbay.Proofs.Annotate.Nodes
import Patchbay.Proofs.Compile.Recorded
import Patchbay.Proofs.InPlace.Mains

/-!
# What is written into a document

Annotating a node by the bindings of a compilation writes just what the recursion over the document
writes into it. For this the bindings have to be those of a whole compilation, which say of each
node and link whether it is bound at all.
-/

namespace Patchbay

section Annotated

variable {g : Graph} {b : Bindings} {level : Nat} {n : Node} {v : GraphNode}

/-- The subgraph of a node that holds no level stays as it was. -/
lemma Node.annotateChild_self (hchild : g.childLevel? v.key = none) :
    Document.annotateChild g b (g.childLevel? v.key) n.subgraph = n.subgraph := by
  rw [hchild]
  cases n.subgraph <;> rfl

/-- A node that nothing is bound to stays as it is. -/
lemma Node.annotate_unbound (hv : v.Stems level n) (hchild : g.childLevel? v.key = none)
    (hb : b.node? v.key = none) : n.annotate g b level = n := by
  rw [annotate_eq_with, ← hv.key, annotateChild_self hchild]
  cases n
  simp [Bindings.properties, Bindings.slotIds, hb]

lemma Node.annotate_mains (hv : v.Stems level n) (hchild : g.childLevel? v.key = none)
    {ids : List String} (hb : b.node? v.key = some (.mains ids)) :
    n.annotate g b level = n.withProperty "ids" (Json.ofStrings ids) := by
  rw [annotate_eq_with, ← hv.key, annotateChild_self hchild]
  simp [Bindings.properties, Bindings.slotIds, hb, NodeBinding.slotIds,
    NodeBinding.overlayProperties, withProperty]

lemma Node.annotate_busPort (hv : v.Stems level n) (hchild : g.childLevel? v.key = none)
    {bus port : String} (hb : b.node? v.key = some (.busPort bus port)) :
    n.annotate g b level = n.withProperty "id" (.string port) := by
  rw [annotate_eq_with, ← hv.key, annotateChild_self hchild]
  simp [Bindings.properties, Bindings.slotIds, hb, NodeBinding.slotIds,
    NodeBinding.overlayProperties, withProperty]

lemma Node.annotate_module (hv : v.Stems level n) (hchild : g.childLevel? v.key = none)
    {bus : String} {ids : ModuleIds} (hb : b.node? v.key = some (v.moduleBinding bus ids)) :
    n.annotate g b level = n.withModuleIds ids := by
  rw [annotate_eq_with, ← hv.key, annotateChild_self hchild]
  simp only [Bindings.properties, Bindings.slotIds, hb, GraphNode.moduleBinding,
    NodeBinding.slotIds, NodeBinding.overlayProperties, hv.inputNames, hv.outputNames]
  rfl

/-- A node that is bound to a bus has its ids, and the level in it is annotated too. -/
lemma Node.annotate_bus (hv : v.Stems level n) {ids : BusIds}
    (hb : b.node? v.key = some (.bus ids.id ids.inputs ids.outputs)) :
    n.annotate g b level = { n.withBusIds ids with
      subgraph := Document.annotateChild g b (g.childLevel? v.key) n.subgraph } := by
  rw [annotate_eq_with, ← hv.key]
  simp [Bindings.properties, Bindings.slotIds, hb, NodeBinding.slotIds,
    NodeBinding.overlayProperties, withBusIds, withProperty]

end Annotated

/-! ### Bindings of a whole compilation -/

/-- However a compilation goes on from a session, its bindings will be such in the end. -/
def Settled {σ : Type} (g : Graph) (mains : MainPorts) (s : Session σ) (p : Bindings → Prop) :
    Prop :=
  ∀ z : Session σ, Recorded g mains g.steps z → s.bindings.Extends z.bindings → p z.bindings

namespace Settled

variable {σ : Type} {g : Graph} {mains : MainPorts} {s s' : Session σ} {p q : Bindings → Prop}

/-- What is settled stays so while the compilation goes on. -/
lemma mono (h : Settled g mains s p) (hb : s.bindings.Extends s'.bindings) :
    Settled g mains s' p := fun z hz hsz => h z hz (hb.trans hsz)

lemma imp (h : Settled g mains s p) (hpq : ∀ b, p b → q b) : Settled g mains s q :=
  fun z hz hsz => hpq _ (h z hz hsz)

lemma and (h : Settled g mains s p) (h' : Settled g mains s q) :
    Settled g mains s fun b => p b ∧ q b := fun z hz hsz => ⟨h z hz hsz, h' z hz hsz⟩

end Settled

end Patchbay
