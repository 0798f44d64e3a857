import Patchbay.Compile
import Patchbay.Proofs.Bindings
import Patchbay.Proofs.Runs

/-!
# Steps of a compilation

A step talks to the engine and then records what it was answered. Where the keys that it records
under are free, recording does not fail, and all that a step does after talking is to change the
session.
-/

namespace Patchbay

variable {σ : Type}

/-- What a module with these ids is bound to. -/
def GraphNode.moduleBinding (v : GraphNode) (bus : String) (ids : ModuleIds) : NodeBinding :=
  .processing bus ids.id (matchPorts ids.ports.inputs v.inputNames)
    (matchPorts ids.ports.outputs v.outputNames)

namespace Session

def withEngine (s : Session σ) (e : σ) : Session σ := { s with engine := e }

def withWarnings (s : Session σ) (ws : List Warning) : Session σ :=
  { s with report := { s.report with warnings := s.report.warnings ++ ws } }

def withBus (s : Session σ) (v : GraphNode) (ids : BusIds) : Session σ :=
  { s with
    bindings := s.bindings.withBus v.key v.child ids
    report := { s.report with buses := s.report.buses + 1 } }

def withModule (s : Session σ) (v : GraphNode) (bus : String) (ids : ModuleIds) : Session σ :=
  { s with
    bindings := { s.bindings with
      nodes := (v.key, v.moduleBinding bus ids) :: s.bindings.nodes }
    report := { s.report with
      modules := s.report.modules + 1
      warnings := s.report.warnings ++ unmatched v.key .input ids.ports.inputs v.inputNames ++
        unmatched v.key .output ids.ports.outputs v.outputNames } }

def withSkipped (s : Session σ) (key : NodeKey) (tag : String) : Session σ :=
  { s.withWarnings [.unsupportedNode key tag] with skipped := key :: s.skipped }

def withConnection (s : Session σ) (l : Level) (k : GraphLink) (id : String) : Session σ :=
  { s with
    bindings := { s.bindings with
      connections := ((l.id, k.index), id) :: s.bindings.connections }
    report := { s.report with connections := s.report.connections + 1 } }

end Session

namespace Compiler

variable {α : Type} {ok : α → Session σ → Prop} {fail : CompileError → Session σ → Prop}
  {s : Session σ}

/-- How a conversation ends in a session is how it ends with the engine alone. -/
lemma converse_iff (talk : Conversation σ α) :
    Ends (converse talk) s ok fail ↔
      Ends talk s.engine (fun a e => ok a (s.withEngine e))
        (fun err e => fail (.engine err) (s.withEngine e)) := by
  rcases h : talk.run s.engine with ⟨_ | _, e⟩ <;>
    simp [Ends, converse, h, Except.mapError, Session.withEngine]

/-- Recording that does not fail just changes the bindings. -/
lemma bind?_iff {ok : Unit → Session σ → Prop} {record : Bindings → Except BindingError Bindings}
    {b : Bindings} (h : record s.bindings = .ok b) :
    Ends (bind? record) s ok fail ↔ ok () { s with bindings := b } := by
  simp only [bind?, Ends.bind_iff, Ends.get_iff, h, Except.mapError, Ends.proceed_ok, Ends.set_iff]

@[simp] lemma report_iff {ok : Unit → Session σ → Prop} (change : Report → Report) :
    Ends (report change) s ok fail ↔ ok () { s with report := change s.report } := Iff.rfl

@[simp] lemma warn_iff {ok : Unit → Session σ → Prop} (ws : List Warning) :
    Ends (warn ws) s ok fail ↔ ok () (s.withWarnings ws) := Iff.rfl

lemma skipNode_iff {ok : Unit → Session σ → Prop} (key : NodeKey) (tag : String) :
    Ends (skipNode key tag) s ok fail ↔ ok () (s.withSkipped key tag) := Iff.rfl

/-- Making a bus under free keys is asking for it and recording its ids. -/
lemma createBus_iff {ok : String → Session σ → Prop} (engine : Engine σ) (bus title : String)
    {v : GraphNode} (hfit : ∀ c, v.child = some c → c.Fits)
    (hlevel : ∀ c, v.child = some c → v.key.level ≠ c.id)
    (hfree : s.bindings.FreeFor v.key v.child) :
    Ends (createBus engine bus v.key title v.child) s ok fail ↔
      Ends (engine.newBus bus title (childPortNames v.child .input)
          (childPortNames v.child .output)) s.engine
        (fun ids e => ok ids.id ((s.withBus v ids).withEngine e))
        (fun err e => fail (.engine err) (s.withEngine e)) := by
  rw [createBus, Ends.bind_iff, converse_iff]
  refine iff_of_eq (congrArg (Ends _ _ · _) ?_)
  funext ids e
  have hinside : bindInside v.child ids s.bindings = .ok (s.bindings.withInside ids v.child) :=
    bindInside_of_free ids hfit hfree.port
  have hown : (s.bindings.withInside ids v.child).node? v.key = none := by
    rw [Bindings.node?_withInside_of_ne]
    · exact hfree.own
    · intro c hc hkey
      exact (hlevel c hc hkey).elim
  rw [Ends.bind_iff, bind?_iff (s := s.withEngine e) hinside, bindNode, Ends.bind_iff,
    bind?_iff (Bindings.bindNode_of_none hown _)]
  rfl

/-- Making a module under a free key is asking for it and recording its ids. -/
lemma createModule_iff {ok : Unit → Session σ → Prop} (engine : Engine σ) (bus : String)
    (spec : ModuleSpec) {v : GraphNode} (hfree : s.bindings.node? v.key = none) :
    Ends (createModule engine bus v.key v.inputNames v.outputNames spec) s ok fail ↔
      Ends (engine.newModule bus spec) s.engine
        (fun ids e => ok () ((s.withModule v bus ids).withEngine e))
        (fun err e => fail (.engine err) (s.withEngine e)) := by
  rw [createModule, Ends.bind_iff, converse_iff]
  refine iff_of_eq (congrArg (Ends _ _ · _) ?_)
  funext ids e
  simp only [Ends.bind_iff, warn_iff, bindNode]
  rw [bind?_iff (Bindings.bindNode_of_none hfree _)]
  simp [Session.withModule, Session.withEngine, Session.withWarnings, GraphNode.moduleBinding]

def linkAddresses (l : Level) (b : Bindings) (k : GraphLink) :
    Except CompileError (PortAddress × PortAddress) := do
  return (← resolveEnd l b k .origin, ← resolveEnd l b k .target)

/-- Connecting a free link is asking for the connection of its addresses and recording its id. -/
lemma connectLink_iff {ok : Unit → Session σ → Prop} (engine : Engine σ) {l : Level}
    {k : GraphLink} (hfree : s.bindings.connection? l.id k.index = none) :
    Ends (connectLink engine l k) s ok fail ↔
      match k.skippedEnd? s.skipped with
      | some node => ok () (s.withWarnings [.skippedLink l.id k.id node])
      | none =>
        match linkAddresses l s.bindings k with
        | .error err => fail err s
        | .ok (origin, target) =>
          Ends (engine.ask (.addConnection origin.text target.text)) s.engine
            (fun id e => ok () ((s.withConnection l k id).withEngine e))
            (fun err e => fail (.engine err) (s.withEngine e)) := by
  rw [connectLink, Ends.bind_iff, Ends.get_iff]
  cases k.skippedEnd? s.skipped with
  | some node => exact warn_iff _
  | none =>
    unfold linkAddresses
    cases horigin : resolveEnd l s.bindings k .origin with
    | error err => rfl
    | ok origin =>
      cases htarget : resolveEnd l s.bindings k .target with
      | error err => rfl
      | ok target =>
        simp only [Ends.bind_iff, Ends.proceed_ok]
        refine (converse_iff _).trans (iff_of_eq (congrArg (Ends _ _ · _) ?_))
        funext id e
        rw [bind?_iff (s := s.withEngine e) (Bindings.bindConnection_of_none hfree k.id id)]
        rfl

end Compiler

end Patchbay
