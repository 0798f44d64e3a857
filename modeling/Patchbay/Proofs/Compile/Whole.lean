import Patchbay.Proofs.Compile.Recorded

/-!
# Whole compilations

To know how a compilation ends it is enough to know what holds once the physical ports are bound,
and that every step preserves it.
-/

namespace Patchbay

variable {σ : Type}

/-- A compilation ends with a result as in `ok` or with an error as in `fail`. -/
def Compiles (engine : Engine σ) (g : Graph) (state : σ) (ok : Compilation → σ → Prop)
    (fail : CompileError → σ → Prop) : Prop :=
  match compile engine g state with
  | (.ok c, e) => ok c e
  | (.error err, e) => fail err e

variable {engine : Engine σ} {g : Graph} {state : σ}

lemma compiles_iff {ok : Compilation → σ → Prop} {fail : CompileError → σ → Prop} :
    Compiles engine g state ok fail ↔
      Ends (Compiler.buildGraph engine g) { engine := state }
        (fun _ s => ok ⟨s.bindings, s.report⟩ s.engine) (fun err s => fail err s.engine) := by
  unfold Compiles compile Ends
  rcases (Compiler.buildGraph engine g).run { engine := state } with ⟨_ | _, s⟩ <;> rfl

/-- What is known of errors holds of the one that comes out. -/
lemma Compiles.fail_of_error {ok : Compilation → σ → Prop} {fail : CompileError → σ → Prop}
    (h : Compiles engine g state ok fail) {err : CompileError}
    (herr : (compile engine g state).1 = .error err) : fail err (compile engine g state).2 := by
  unfold Compiles at h
  rcases hc : compile engine g state with ⟨_ | _, e⟩ <;> rw [hc] at h herr
  · cases herr
    exact h
  · cases herr

/-- What is known of results holds of the one that comes out. -/
lemma Compiles.ok_of_ok {ok : Compilation → σ → Prop} {fail : CompileError → σ → Prop}
    (h : Compiles engine g state ok fail) {c : Compilation}
    (hok : (compile engine g state).1 = .ok c) : ok c (compile engine g state).2 := by
  unfold Compiles at h
  rcases hc : compile engine g state with ⟨_ | _, e⟩ <;> rw [hc] at h hok
  · cases hok
  · cases hok
    exact h

lemma Compiles.imp {ok ok' : Compilation → σ → Prop} {fail fail' : CompileError → σ → Prop}
    (h : Compiles engine g state ok fail) (hok : ∀ c e, ok c e → ok' c e)
    (hfail : ∀ err e, fail err e → fail' err e) : Compiles engine g state ok' fail' :=
  compiles_iff.mpr ((compiles_iff.mp h).imp (fun _ _ => hok _ _) fun _ _ => hfail _ _)

lemma Compiles.of_both {ok : σ → Prop} (h : Compiles engine g state (fun _ => ok) (fun _ => ok)) :
    ok (compile engine g state).2 := by
  unfold Compiles at h
  rcases hc : compile engine g state with ⟨_ | _, e⟩ <;> rw [hc] at h <;> exact h

/-- The recursion from the root follows the steps of the graph. -/
lemma expandLevel_root_run (hg : g.WellFormed) (s : Session σ) :
    (Compiler.expandLevel engine "" g.root).run s = (Compiler.performAll engine g.steps).run s := by
  apply Compiler.expandLevel_run engine hg.fits
  simp [Bindings.Owned, hg.root_parent]

/-- How a compilation ends, from what holds once the physical ports are bound and what each step
preserves. -/
theorem compiles (hg : g.WellFormed) {P : MainPorts → List BuildStep → Session σ → Prop}
    {ok : Compilation → σ → Prop} {fail : CompileError → σ → Prop}
    (hmains : Ends (engine.ask .listMain) state
      (fun mains e =>
        (∀ b, MainsBound mains (g.levels.flatMap Level.nodes) b →
          P mains [] { engine := e, bindings := b }) ∧
        ∀ l ∈ g.levels, ∀ v ∈ l.nodes, ∀ err, MainExcess mains v err → fail err e)
      (fun err e => fail (.engine err) e))
    (hstep : ∀ mains before t s, g.Next before t → Recorded g mains before s →
      P mains before s → Ends (Compiler.perform engine t) s
        (fun _ s' => P mains (before ++ [t]) s') (fun err s' => fail err s'.engine))
    (hlast : ∀ mains s, Recorded g mains g.steps s → P mains g.steps s →
      ok ⟨s.bindings, s.report⟩ s.engine) :
    Compiles engine g state ok fail := by
  rw [compiles_iff, Compiler.buildGraph, Ends.bind_iff, Compiler.converse_iff]
  refine hmains.imp ?_ fun _ _ => id
  rintro mains e ⟨hfirst, hexcess⟩
  simp only [Ends.bind_iff, Ends.get_iff, Ends.set_iff, Ends.proceed_iff]
  have hspec := bindMains_spec mains (Graph.WellFormed.keys_nodup hg)
  constructor
  · intro b hb
    change bindMains mains {} (g.levels.flatMap Level.nodes) = .ok b at hb
    rw [hb] at hspec
    unfold Ends
    rw [expandLevel_root_run hg]
    change Ends (Compiler.performAll engine g.steps) _ _ _
    have hkeep : ∀ before t s, g.Next before t → Recorded g mains before s ∧ P mains before s →
        Ends (Compiler.perform engine t) s
          (fun _ s' => Recorded g mains (before ++ [t]) s' ∧ P mains (before ++ [t]) s')
          (fun err s' => fail err s'.engine) := by
      rintro before t s hn ⟨hs, hp⟩
      exact ((hs.step engine hg hn).and (hstep mains before t s hn hs hp)).imp (fun _ _ => id)
        fun _ _ h => h.2
    have hsteps : g.steps = [] ++ g.steps ++ [] := by simp
    refine (Compiler.performAll_ends engine hkeep hsteps ⟨Recorded.first e hspec hg,
      hfirst b hspec⟩).imp ?_ fun _ _ => id
    rintro ⟨⟩ s ⟨hs, hp⟩
    exact hlast mains s hs hp
  · intro err herr
    change bindMains mains {} (g.levels.flatMap Level.nodes) = .error err at herr
    rw [herr] at hspec
    obtain ⟨v, hv, hexc⟩ := hspec
    obtain ⟨l, hl, hv⟩ := List.mem_flatMap.mp hv
    exact hexcess l hl v hv err hexc

end Patchbay
