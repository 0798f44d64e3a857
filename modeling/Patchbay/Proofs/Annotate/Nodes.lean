import Patchbay.Annotate
import Patchbay.Proofs.Text.Keyed

/-!
# What is written into a node

Ids are written into four fields of a node and leave the others as they are. A slot keeps its name,
and ids that are written later take the place of earlier ones wherever there is a later id.
-/

namespace Patchbay

/-! ### Slots -/

@[simp] lemma fillSlots_nil (slots : List PortSlot) : fillSlots slots [] = slots := by
  cases slots <;> rfl

/-- Slots keep their names and their order. -/
lemma map_name_fillSlots (slots : List PortSlot) (ids : List (Option String)) :
    (fillSlots slots ids).map PortSlot.name = slots.map PortSlot.name := by
  fun_induction fillSlots slots ids <;> simp_all

lemma slotNames_map_fillSlots (slots : Option (List PortSlot)) (ids : List (Option String)) :
    slotNames (slots.map (fillSlots · ids)) = slotNames slots := by
  cases slots with
  | none => rfl
  | some slots => exact map_name_fillSlots slots ids

/-- Later ids take the place of earlier ones, if a slot that has no later id had none before. -/
lemma fillSlots_fillSlots {ids ids' : List (Option String)}
    (h : List.Forall₂ (fun a a' => a' = none → a = none) ids ids') (slots : List PortSlot) :
    fillSlots (fillSlots slots ids) ids' = fillSlots slots ids' := by
  induction h generalizing slots with
  | nil => simp
  | @cons a a' ids ids' ha _ ih =>
    cases slots with
    | nil => cases a' <;> cases a <;> rfl
    | cons slot slots =>
      cases a' with
      | some id => cases a <;> simp [fillSlots, ih]
      | none =>
        obtain rfl := ha rfl
        simp [fillSlots, ih]

/-! ### Fields -/

/-- The properties of a node with what is bound under its key. -/
def Bindings.properties (b : Bindings) (key : NodeKey) (properties : Json.Members) :
    Json.Members :=
  match b.node? key with
  | none => properties
  | some x => x.overlayProperties properties

def Bindings.slotIds (b : Bindings) (key : NodeKey) (d : Direction) : List (Option String) :=
  match b.node? key with
  | none => []
  | some x => x.slotIds d

variable (g : Graph) (b : Bindings) (level : Nat)

/-- A node changes in four fields only. -/
lemma Node.annotate_eq_with (n : Node) : n.annotate g b level =
    { n with
      properties := b.properties ⟨level, n.id⟩ n.properties
      subgraph := Document.annotateChild g b (g.childLevel? ⟨level, n.id⟩) n.subgraph
      inputs := n.inputs.map (fillSlots · (b.slotIds ⟨level, n.id⟩ .input))
      outputs := n.outputs.map (fillSlots · (b.slotIds ⟨level, n.id⟩ .output)) } := by
  obtain ⟨id, type, title, properties, subgraph, inputs, outputs, extra⟩ := n
  rw [annotate]
  unfold Bindings.properties Bindings.slotIds
  cases b.node? ⟨level, id⟩ <;> simp

lemma Node.annotateList_eq_map (ns : List Node) :
    annotateList g b level ns = ns.map (annotate g b level) := by
  induction ns with
  | nil => rw [annotateList, List.map_nil]
  | cons n ns ih => rw [annotateList, ih, List.map_cons]

lemma Document.isSome_annotateChild (number : Option Nat) (sub : Option Document) :
    (annotateChild g b number sub).isSome = sub.isSome := by
  cases sub with
  | none => simp [annotateChild]
  | some d => cases number <;> simp [annotateChild]

end Patchbay
