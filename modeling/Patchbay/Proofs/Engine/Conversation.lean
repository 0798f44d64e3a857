import Patchbay.Proofs.Runs

/-!
# What conversations end with

Whatever an engine answers, a bus that was made has as many ports as were asked for, and no id of a
bus, a module or a port holds a separator of addresses.
-/

namespace Patchbay

lemma checkOpaque_ok_iff {operation id : String} :
    checkOpaque operation id = .ok () ↔ isOpaque id = true := by
  unfold checkOpaque
  split_ifs with h <;> simp [h]

lemma checkOpaque_error {operation id : String} {err : EngineError}
    (h : checkOpaque operation id = .error err) : isOpaque id = false := by
  unfold checkOpaque at h
  split_ifs at h with hid
  exact Bool.not_eq_true _ ▸ hid

/-- Ports pass the check if all their ids can be a part of an address. -/
lemma forM_checkOpaque_ok_iff {operation : String} {ports : List Port} :
    (ports.forM fun p => checkOpaque operation p.id) = .ok () ↔
      ∀ p ∈ ports, isOpaque p.id = true := by
  induction ports with
  | nil => simp [pure, Except.pure]
  | cons p ports ih =>
    rw [List.forM, bind_eq_ok_iff, List.forall_mem_cons, ← ih]
    constructor
    · rintro ⟨⟨⟩, hp, hports⟩
      exact ⟨checkOpaque_ok_iff.mp hp, hports⟩
    · rintro ⟨hp, hports⟩
      exact ⟨(), checkOpaque_ok_iff.mpr hp, hports⟩

lemma mapM_checkOpaque_ok_iff {operation : String} {ports : List Port} {ids : List String} :
    (ports.mapM fun p => do
      checkOpaque operation p.id
      return p.id) = .ok ids ↔ (∀ p ∈ ports, isOpaque p.id = true) ∧ ports.map Port.id = ids := by
  have hone : ∀ (p : Port) id, (do checkOpaque operation p.id; return p.id) = Except.ok id ↔
      isOpaque p.id = true ∧ p.id = id := by
    intro p id
    rw [bind_eq_ok_iff]
    constructor
    · rintro ⟨⟨⟩, hcheck, hid⟩
      cases hid
      exact ⟨checkOpaque_ok_iff.mp hcheck, rfl⟩
    · rintro ⟨hclean, rfl⟩
      exact ⟨(), checkOpaque_ok_iff.mpr hclean, rfl⟩
  simp only [mapM_eq_ok_iff, hone, List.forall₂_and_left, ← List.forall₂_map_left_iff,
    List.forall₂_eq_eq_eq]

/-- The ports of a bus are of use if there are as many as were asked for and all their ids can be a
part of an address. -/
lemma busPortIds_ok_iff {bus : String} {d : Direction} {ports : List Port} {n : Nat}
    {ids : List String} :
    busPortIds bus d ports n = .ok ids ↔
      ports.length = n ∧ (∀ p ∈ ports, isOpaque p.id = true) ∧ ports.map Port.id = ids := by
  unfold busPortIds
  by_cases hn : ports.length = n
  · simp only [hn, ne_eq, not_true_eq_false, if_false, true_and]
    exact mapM_checkOpaque_ok_iff
  · simp only [ne_eq, hn, not_false_eq_true, if_true, false_and, iff_false]
    rintro ⟨⟩

namespace Engine

variable {σ : Type}

/-- A bus has the ports that it was asked for. -/
lemma newBus_ends (engine : Engine σ) (parent title : String) (inputs outputs : List String)
    (e : σ) :
    Ends (engine.newBus parent title inputs outputs) e
      (fun ids _ => ids.inputs.length = inputs.length ∧ ids.outputs.length = outputs.length)
      (fun _ _ => True) := by
  rw [newBus, Ends.bind_iff]
  refine Ends.of_ok fun id e₁ => ?_
  simp only [Ends.bind_iff, Ends.proceed_iff, Ends.pure_iff]
  refine ⟨fun _ _ => Ends.of_ok fun ports e₂ => ?_, fun _ _ => trivial⟩
  refine ⟨fun ins hins => ⟨fun outs houts => ?_, fun _ _ => trivial⟩, fun _ _ => trivial⟩
  obtain ⟨hi, -, rfl⟩ := busPortIds_ok_iff.mp hins
  obtain ⟨ho, -, rfl⟩ := busPortIds_ok_iff.mp houts
  simp only [List.length_map]
  exact ⟨hi, ho⟩

end Engine

end Patchbay
