import Patchbay.Proofs.Compile.Virtual

/-!
# When a graph can be built in a virtual engine

There have to be enough physical ports, no link may be at a pass-through of the root, and a slot of
a module that a link is at has to be named as a port of such modules. Nothing else can fail.
-/

namespace Patchbay

/-- What a virtual engine with so many physical inputs and outputs asks of a graph. -/
structure Graph.Connectable (g : Graph) (inputs outputs : Nat) : Prop where
  mainInputs : ∀ l ∈ g.levels, ∀ v ∈ l.nodes, ∀ n, v.kind = .mainInputs n → n ≤ inputs
  mainOutputs : ∀ l ∈ g.levels, ∀ v ∈ l.nodes, ∀ n, v.kind = .mainOutputs n → n ≤ outputs
  inside : ∀ k ∈ g.root.links, ¬ g.root.LeavesOut k → ∀ e, ∀ v ∈ g.root.nodes, v.key = k.node e →
    (∀ name, v.kind ≠ .busInput name) ∧ ∀ name, v.kind ≠ .busOutput name
  named : ∀ l ∈ g.levels, ∀ k ∈ l.links, ¬ l.LeavesOut k → ∀ e, ∀ v ∈ l.nodes, v.key = k.node e →
    ∀ spec, v.kind = .processing spec → ∃ name, (v.names e.direction)[k.slot e]? = some name ∧
      name ∈ spec.type.portNames e.direction

def CompileError.IsGraphError : CompileError → Prop
  | .mainOutOfRange .. | .unresolvedNode .. | .unresolvedPort .. => True
  | .engine _ | .unaddressable .. | .binding _ => False

/-- A graph can be connected if there are enough physical ports and all its steps fit. -/
lemma Graph.connectable_iff {g : Graph} {inputs outputs : Nat} :
    g.Connectable inputs outputs ↔
      (∀ l ∈ g.levels, ∀ v ∈ l.nodes, ∀ d n, v.kind.mainSlots? = some (d, n) →
        n ≤ match d with
          | .input => inputs
          | .output => outputs) ∧
      ∀ t ∈ g.steps, g.StepFits t := by
  constructor
  · intro h
    refine ⟨?_, ?_⟩
    · intro l hl v hv d n hn
      obtain ⟨rfl, hk⟩ | ⟨rfl, hk⟩ := NodeKind.mainSlots?_cases hn
      · exact h.mainInputs l hl v hv n hk
      · exact h.mainOutputs l hl v hv n hk
    · rintro (l | ⟨l, v⟩ | ⟨l, k⟩) ht
      · trivial
      · trivial
      · obtain ⟨hl, hk⟩ := Graph.connect_mem_steps.mp ht
        intro hkeep e v hv hkey
        refine ⟨?_, h.named l hl k hk hkeep e v hv hkey⟩
        -- a node of the root that stands for a port in some direction is a pass-through
        rintro rfl d
        obtain ⟨hin, hout⟩ := h.inside k hk hkeep e v hv hkey
        by_contra hpass
        obtain ⟨-, name, hkind⟩ | ⟨-, name, hkind⟩ :=
          NodeKind.passThrough?_cases (Option.isSome_iff_ne_none.mpr hpass)
        · exact hin name hkind
        · exact hout name hkind
  · rintro ⟨hmains, hsteps⟩
    have hfits : ∀ l ∈ g.levels, ∀ k ∈ l.links, g.LinkFits l k :=
      fun l hl k hk => hsteps _ (Graph.connect_mem_steps.mpr ⟨hl, hk⟩)
    refine ⟨?_, ?_, ?_, ?_⟩
    · exact fun l hl v hv n hn => hmains l hl v hv .input n (by rw [hn]; rfl)
    · exact fun l hl v hv n hn => hmains l hl v hv .output n (by rw [hn]; rfl)
    · intro k hk hkeep e v hv hkey
      have hfit := hfits g.root (Graph.WellFormed.root_mem g) k hk hkeep e v hv hkey
      refine ⟨fun name hn => ?_, fun name hn => ?_⟩
      · simpa [hn, NodeKind.passThrough?] using hfit.inside rfl .input
      · simpa [hn, NodeKind.passThrough?] using hfit.inside rfl .output
    · exact fun l hl k hk hkeep e v hv hkey => (hfits l hl k hk hkeep e v hv hkey).named

/-- How a compilation for a fresh virtual engine ends. -/
lemma compiles_virtual {g : Graph} (hg : g.WellFormed) {name : Nat → String}
    (hname : VirtualEngine.Distinct name) (inputs outputs : Nat) :
    Compiles (VirtualEngine.engine name) g (VirtualEngine.new name inputs outputs [])
      (fun c e => g.Connectable inputs outputs ∧ ∃ s, Recorded g e.mains g.steps s ∧
        Mirrors name (VirtualEngine.new name inputs outputs []).mains g.steps s ∧
        s.engine = e ∧ s.bindings = c.bindings)
      (fun err _ => err.IsGraphError ∧ ¬ g.Connectable inputs outputs) := by
  have hlen : ∀ d, ((VirtualEngine.new name inputs outputs []).mains.ports d).length =
      match d with
      | .input => inputs
      | .output => outputs := by
    rintro (_ | _) <;> simp [VirtualEngine.new, MainPorts.ports]
  refine compiles hg (P := fun mains done s =>
    mains = (VirtualEngine.new name inputs outputs []).mains ∧ Mirrors name mains done s ∧
      ∀ t ∈ done, g.StepFits t) ?_ ?_ ?_
  · -- at first the engine is empty, as is what is done
    refine (VirtualEngine.listMain_iff (VirtualEngine.new_sound name inputs outputs)).mpr ⟨?_, ?_⟩
    · intro b hb
      refine ⟨rfl, ⟨(VirtualEngine.new_sound name inputs outputs).noted _, rfl, .nil, .nil, .nil⟩,
        by simp⟩
    · rintro l hl v hv _ ⟨d, n, hn, hlt, rfl⟩
      refine ⟨trivial, fun hc => ?_⟩
      have hle := (Graph.connectable_iff.mp hc).1 l hl v hv d n hn
      rw [← hlen d] at hle
      exact absurd hlt (Nat.not_lt.mpr hle)
  · -- a step fails exactly if it does not fit
    rintro mains before t s hn hs ⟨rfl, hmirrors, hfits⟩
    refine (hmirrors.step hname hg hn hs).imp ?_ ?_
    · rintro ⟨⟩ s' ⟨hmirrors', hfit⟩
      exact ⟨rfl, hmirrors', forall_mem_concat hfits hfit⟩
    · rintro err s' ⟨herr, hfit⟩
      refine ⟨?_, fun hc => hfit ((Graph.connectable_iff.mp hc).2 t hn.mem)⟩
      cases err <;> simp_all [CompileError.IsUnresolved, CompileError.IsGraphError]
  · rintro mains s hs ⟨rfl, hmirrors, hfits⟩
    refine ⟨Graph.connectable_iff.mpr ⟨?_, hfits⟩, s, ?_, hmirrors, rfl, rfl⟩
    · intro l hl v hv d n hn
      rw [← hlen d]
      exact hs.slots_le l hl v hv d n hn
    · exact hmirrors.mains_eq ▸ hs

/-- A graph is built in a fresh virtual engine exactly if it asks for no more physical ports than
there are, links no pass-through of the root and names the ports of modules that it links. -/
theorem compile_virtual_succeeds_iff {d : Document} {g : Graph} (hd : Graph.build d = .ok g)
    {name : Nat → String} (hname : VirtualEngine.Distinct name) (inputs outputs : Nat) :
    ((∃ c, (compile (VirtualEngine.engine name) g
        (VirtualEngine.new name inputs outputs [])).1 = .ok c) ↔ g.Connectable inputs outputs) ∧
      ∀ err, (compile (VirtualEngine.engine name) g
        (VirtualEngine.new name inputs outputs [])).1 = .error err → err.IsGraphError := by
  have h := compiles_virtual (Graph.build_wellFormed hd) hname inputs outputs
  refine ⟨⟨fun ⟨c, hc⟩ => (h.ok_of_ok hc).1, fun hc => ?_⟩,
    fun err herr => (h.fail_of_error herr).1⟩
  cases hresult : (compile (VirtualEngine.engine name) g
      (VirtualEngine.new name inputs outputs [])).1 with
  | ok c => exact ⟨c, rfl⟩
  | error err => exact ((h.fail_of_error hresult).2 hc).elim

theorem wire_succeeds_iff : ∃ g, Graph.build wire = .ok g ∧
    (((∃ c, (compile (VirtualEngine.engine numberedId) g
        (VirtualEngine.new numberedId 1 1 [])).1 = .ok c) ↔ g.Connectable 1 1) ∧
      ∀ err, (compile (VirtualEngine.engine numberedId) g
        (VirtualEngine.new numberedId 1 1 [])).1 = .error err → err.IsGraphError) := by
  have hwire : Graph.build wire = .ok _ := rfl
  exact ⟨_, hwire, compile_virtual_succeeds_iff hwire VirtualEngine.numberedId_distinct 1 1⟩

end Patchbay
