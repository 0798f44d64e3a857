import Patchbay.Proofs.Engine.Growth
import Patchbay.Proofs.Graph.WellFormed

/-!
# Engines that are set to fail

An engine that is set to fail on some operations goes the same way as one that is not, up to the
first request of such an operation. This one it records, and a compilation ends with it: nothing
that was built before is undone, and nothing more is sent.
-/

namespace Patchbay

namespace VirtualEngine

variable {name : Nat → String}

def withFailing (e : VirtualEngine) (failing : List String) : VirtualEngine :=
  { e with failing := failing }

section WithFailing

variable (e : VirtualEngine) (failing : List String)

@[simp] lemma withFailing_calls : (e.withFailing failing).calls = e.calls := rfl

@[simp] lemma withFailing_failing : (e.withFailing failing).failing = failing := rfl

@[simp] lemma withFailing_sources : (e.withFailing failing).sources = e.sources := rfl

@[simp] lemma withFailing_sinks : (e.withFailing failing).sinks = e.sinks := rfl

@[simp] lemma withFailing_bus? (id : String) : (e.withFailing failing).bus? id = e.bus? id := rfl

@[simp] lemma withFailing_module? (id : String) :
    (e.withFailing failing).module? id = e.module? id := rfl

@[simp] lemma withFailing_canHold (bus : String) :
    (e.withFailing failing).canHold bus = e.canHold bus := rfl

@[simp] lemma withFailing_issued : (e.withFailing failing).issued = e.issued := rfl

@[simp] lemma withFailing_putBus (parent title inputs outputs : String) :
    (e.withFailing failing).putBus name parent title inputs outputs =
      (e.putBus name parent title inputs outputs).withFailing failing := rfl

@[simp] lemma withFailing_putModule (bus : String) (spec : ModuleSpec) :
    (e.withFailing failing).putModule name bus spec =
      (e.putModule name bus spec).withFailing failing := rfl

@[simp] lemma withFailing_putConnection (origin target : String) :
    (e.withFailing failing).putConnection name origin target =
      (e.putConnection name origin target).withFailing failing := rfl

@[simp] lemma withFailing_noted (r : Request) :
    (e.withFailing failing).noted r = (e.noted r).withFailing failing := rfl

end WithFailing

/-! ### Single requests -/

/-- What is set to fail plays no role in an answer, and stays as it is. -/
lemma respond_withFailing (r : Request) (e : VirtualEngine) (failing : List String) :
    respond name r (e.withFailing failing) =
      ((respond name r e).1, (respond name r e).2.withFailing failing) := by
  cases r with
  | listMain => rfl
  | addBus parent => by_cases h : e.canHold parent = true <;> simp [respond, h]
  | listBusPorts bus => cases h : e.bus? bus <;> simp [respond, h]
  | addModule bus => by_cases h : e.canHold bus = true <;> simp [respond, h]
  | listModulePorts id => cases h : e.module? id <;> simp [respond, h]
  | addConnection origin target =>
    by_cases ho : origin ∈ e.sources <;> by_cases ht : target ∈ e.sinks <;>
      simp [respond, ho, ht]

/-! ### Two engines in step -/

/-- What the one engine was asked so far it granted, and the other one, which is set to fail, did
the same. -/
structure InStep (name : Nat → String) (first : VirtualEngine) (failing : List String)
    (s e : VirtualEngine) : Prop where
  reached : e = (engine name).replay e.calls first
  never_failing : e.failing = []
  granted : ∀ r ∈ e.calls, r.operation ∉ failing
  same : s = e.withFailing failing

/-- The one engine broke off at the first request that it is set to fail on; the other one did
not. -/
structure BrokeOff (name : Nat → String) (first : VirtualEngine) (failing : List String)
    (before : List Request) (r : Request) (err : EngineError) (s e : VirtualEngine) : Prop where
  sent : ∃ after, e.calls = before ++ r :: after
  granted : ∀ q ∈ before, q.operation ∉ failing
  hit : r.operation ∈ failing
  error : err = .rejected r.operation "failure injected"
  stopped : s = (((engine name).replay before first).noted r).withFailing failing

/-- The next request is answered by both engines alike, or it is the first that one fails on. -/
lemma engine_inStep (first : VirtualEngine) (failing : List String) :
    (engine name).Tracks (InStep name first failing)
      (fun err s e => ∃ before q, BrokeOff name first failing before q err s e) (engine name) := by
  refine fun r => ⟨?_, ?_⟩
  · rintro _ e ⟨hreached, hnever, hgranted, rfl⟩
    simp only [Engine.ask, ExceptT.run_mk]
    obtain ⟨hcalls, hnever'⟩ := engine_calls name r e
    -- the request is refused here and granted there, or it is the same to both
    by_cases hfail : r.operation ∈ failing
    · rw [engine_of_failing (e := e.withFailing failing) hfail]
      exact .inr ⟨e.calls, r, ⟨[], hcalls⟩, hgranted, hfail, rfl, by rw [← hreached]; rfl⟩
    · have hgrant : engine name r e = respond name r (e.noted r) :=
        engine_of_not_failing (by simp [hnever])
      have hsame : engine name r (e.withFailing failing) =
          ((engine name r e).1, (engine name r e).2.withFailing failing) := by
        rw [engine_of_not_failing hfail, withFailing_noted, respond_withFailing, hgrant]
      have hnext : InStep name first failing ((engine name r e).2.withFailing failing)
          (engine name r e).2 := by
        refine ⟨?_, hnever'.trans hnever, ?_, rfl⟩
        · rw [hcalls, Engine.replay_concat, ← hreached]
        · rw [hcalls]
          exact forall_mem_concat hgranted hfail
      rw [hsame]
      revert hnext
      rcases engine name r e with ⟨_ | _, e'⟩
      · exact fun hnext => .inl ⟨rfl, hnext⟩
      · exact fun hnext => ⟨rfl, hnext⟩
  · -- the free run goes on alone, and only its log grows
    rintro err s e ⟨before, q, ⟨after, hsent⟩, hgranted, hhit, herror, hstopped⟩
    have hcalls := (engine_calls name r e).1
    have hkept : BrokeOff name first failing before q err s (engine name r e).2 :=
      ⟨⟨after ++ [r], by rw [hcalls, hsent]; simp⟩, hgranted, hhit, herror, hstopped⟩
    unfold Ends
    simp only [Engine.ask, ExceptT.run_mk]
    revert hkept
    rcases engine name r e with ⟨_ | _, e'⟩ <;> exact fun hkept => ⟨before, q, hkept⟩

end VirtualEngine

open VirtualEngine in
/-- A compilation for an engine that is set to fail is the one for an engine that is not, if that
one is asked for nothing that fails. Otherwise it ends with the first such request: this one was
recorded, and the engine holds what the requests before it made. -/
theorem compile_failing (g : Graph) (name : Nat → String) (inputs outputs : Nat)
    (failing : List String) :
    let fresh := VirtualEngine.new name inputs outputs []
    let free := compile (engine name) g fresh
    let run := compile (engine name) g (VirtualEngine.new name inputs outputs failing)
    free.2 = (engine name).replay free.2.calls fresh ∧
      ((∀ r ∈ free.2.calls, r.operation ∉ failing) →
        run.1 = free.1 ∧ run.2 = free.2.withFailing failing) ∧
      ∀ before r after, free.2.calls = before ++ r :: after →
        (∀ q ∈ before, q.operation ∉ failing) → r.operation ∈ failing →
          run.1 = .error (.engine (.rejected r.operation "failure injected")) ∧
            run.2.calls = before ++ [r] ∧
            run.2 = (((engine name).replay before fresh).noted r).withFailing failing := by
  intro fresh free run
  have hstart : InStep name fresh failing (VirtualEngine.new name inputs outputs failing) fresh :=
    ⟨rfl, rfl, by simp [fresh, VirtualEngine.new], rfl⟩
  have hreplayed : free.2 = (engine name).replay free.2.calls fresh := by
    refine compile_keeps (P := fun e => e = (engine name).replay e.calls fresh) ?_ g rfl
    intro r e he
    rw [(engine_calls name r e).1, Engine.replay_concat, ← he]
  refine ⟨hreplayed, ?_⟩
  -- the runs end alike, or one has broken off at a request that fails
  obtain ⟨hresult, hstep⟩ | ⟨err, hresult, before, r, hbroke⟩ :=
    compile_agree (engine_inStep fresh failing) g hstart
  · refine ⟨fun _ => ⟨hresult, hstep.same⟩, fun before r after hcalls _ hhit => ?_⟩
    have hasked : r ∈ free.2.calls := hcalls ▸ List.mem_append_right _ List.mem_cons_self
    exact (hstep.granted r hasked hhit).elim
  · obtain ⟨after, hsent⟩ := hbroke.sent
    refine ⟨fun hgranted => ?_, fun before' r' after' hcalls hgranted hhit => ?_⟩
    · have hasked : r ∈ free.2.calls := hsent ▸ List.mem_append_right _ List.mem_cons_self
      exact (hgranted r hasked hbroke.hit).elim
    · obtain ⟨rfl, rfl⟩ : before = before' ∧ r = r' :=
        split_first_unique (hsent.symm.trans hcalls) hbroke.granted hbroke.hit hgranted hhit
      have hreached : ((engine name).replay before fresh).calls = before := replay_calls before rfl
      refine ⟨hresult.trans (by rw [hbroke.error]), ?_, hbroke.stopped⟩
      rw [hbroke.stopped, withFailing_calls, noted_calls, hreached]

open VirtualEngine in
/-- The engine makes the bus and then fails to connect anything. -/
theorem wire_compile_failing : ∃ g, Graph.build wire = .ok g ∧
    let run := compile (engine numberedId) g (new numberedId 1 1 ["add_connection"])
    run.1 = .error (.engine (.rejected "add_connection" "failure injected")) ∧
      run.2.calls = [.listMain, .addBus "" "wire" "in" "out", .listBusPorts "\x7b2\x7d"] ++
        [.addConnection "/\x7b2\x7d:\x7b3\x7d" "/\x7b2\x7d:\x7b4\x7d"] := by
  have hwire : Graph.build wire = .ok _ := rfl
  refine ⟨_, hwire, And.imp_right And.left
    ((compile_failing _ numberedId 1 1 ["add_connection"]).2.2
      [.listMain, .addBus "" "wire" "in" "out", .listBusPorts "\x7b2\x7d"]
      (.addConnection "/\x7b2\x7d:\x7b3\x7d" "/\x7b2\x7d:\x7b4\x7d")
      [.addConnection "\x7b0\x7d" "/\x7b2\x7d:\x7b3\x7d",
        .addConnection "/\x7b2\x7d:\x7b4\x7d" "\x7b1\x7d"] ?_ (by decide) (by decide))⟩
  decide +kernel

end Patchbay
