import Patchbay.Proofs.Engine.Agreement

/-!
# Histories

An engine that also keeps what it was asked and what it answered. A compilation cannot tell it from
the engine itself, so every compilation has a history.
-/

namespace Patchbay

variable {σ : Type}

structure Exchange where
  request : Request
  answer : Except EngineError request.Answer

namespace Engine

/-- The engine, with all exchanges so far kept beside its state. -/
def logged (engine : Engine σ) : Engine (σ × List Exchange) := fun r s =>
  let (answer, e) := engine r s.1
  (answer, e, s.2 ++ [⟨r, answer⟩])

/-- Asking adds one exchange to the history. -/
lemma ask_logged (engine : Engine σ) (r : Request) (e : σ × List Exchange) :
    Ends (engine.logged.ask r) e (fun answer e' => e'.2 = e.2 ++ [⟨r, .ok answer⟩])
      (fun err e' => e'.2 = e.2 ++ [⟨r, .error err⟩]) := by
  simp only [Ends, ask, logged, ExceptT.run_mk]
  rcases engine r e.1 with ⟨_ | _, e'⟩ <;> rfl

/-- What was written down before plays no part in an answer. -/
lemma logged_tracks (engine : Engine σ) :
    engine.logged.Tracks (fun s t => s.1 = t) (fun _ _ _ => False) engine := by
  intro r
  refine ⟨?_, fun _ _ _ => False.elim⟩
  rintro s _ rfl
  simp only [ask, logged, ExceptT.run_mk]
  rcases engine r s.1 with ⟨_ | _, e'⟩
  · exact .inl ⟨rfl, rfl⟩
  · exact ⟨rfl, rfl⟩

end Engine

/-- The state of an engine after some requests, whatever it answered. -/
def Engine.replay (engine : Engine σ) (requests : List Request) (state : σ) : σ :=
  requests.foldl (fun s r => (engine r s).2) state

@[simp] lemma Engine.replay_concat (engine : Engine σ) (requests : List Request) (r : Request)
    (state : σ) :
    engine.replay (requests ++ [r]) state = (engine r (engine.replay requests state)).2 := by
  simp [replay]

/-- All exchanges with the engine while it builds a graph. -/
def history (engine : Engine σ) (g : Graph) (state : σ) : List Exchange :=
  (compile engine.logged g (state, [])).2.2

/-- Keeping the history changes nothing. -/
theorem compile_logged (engine : Engine σ) (g : Graph) (state : σ) :
    compile engine.logged g (state, []) =
      ((compile engine g state).1, (compile engine g state).2, history engine g state) := by
  obtain ⟨hresult, hstate⟩ | ⟨-, -, hcut⟩ :=
    compile_agree engine.logged_tracks g (s := (state, [])) rfl
  · exact Prod.ext hresult (Prod.ext hstate rfl)
  · exact hcut.elim

end Patchbay
