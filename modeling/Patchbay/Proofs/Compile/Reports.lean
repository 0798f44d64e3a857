import Mathlib.Data.List.Find
import Patchbay.Proofs.Compile.Counts
import Patchbay.Proofs.Compile.Requests

/-!
# What a report says

A report counts what was made, and it warns of everything that was left out and of nothing else: in
the order of the nodes of a level, with all that lies in a bus in its place, and then of the links
of the level.
-/

namespace Patchbay

/-! ### The warnings of a graph -/

/-- A warning for each name that no reported port has. -/
def unreported (key : NodeKey) (d : Direction) (reported : List Port) (names : List String) :
    List Warning :=
  (names.filter fun name => name ∉ reported.map Port.name).map (.unmatchedPort key d)

/-- The end of a link that is a node the engine knows nothing like, the origin rather than the
target. -/
def Level.leftOutEnd? (l : Level) (k : GraphLink) : Option NodeKey :=
  [k.origin, k.target].find? fun key =>
    ∃ v ∈ l.nodes, v.key = key ∧ ∃ tag, v.kind = .unsupported tag

def Level.linkWarnings (l : Level) (k : GraphLink) : List Warning :=
  ((l.leftOutEnd? k).map (.skippedLink l.id k.id)).toList

section Warnings

variable (reported : NodeKey → PortList)

/-- The warnings of a node, without those of what lies in it. -/
def GraphNode.ownWarnings (v : GraphNode) : List Warning :=
  match v.kind with
  | .unsupported tag => [.unsupportedNode v.key tag]
  | .processing _ =>
    unreported v.key .input (reported v.key).inputs v.inputNames ++
      unreported v.key .output (reported v.key).outputs v.outputNames
  | .mainInputs _ | .mainOutputs _ | .busAdd _ | .busInput _ | .busOutput _ => []

lemma GraphNode.ownWarnings_congr {reported reported' : NodeKey → PortList} {v : GraphNode}
    (h : reported v.key = reported' v.key) : v.ownWarnings reported = v.ownWarnings reported' := by
  unfold ownWarnings
  rw [h]

def BuildStep.warnings : BuildStep → List Warning
  | .enter _ => []
  | .visit _ v => v.ownWarnings reported
  | .connect l k => l.linkWarnings k

namespace Level

mutual

/-- The warnings of a level: of its nodes, and then of its links. -/
def warnings : Level → List Warning
  | ⟨id, parent, depth, nodes, links⟩ =>
    nodesWarnings nodes ++ links.flatMap (linkWarnings ⟨id, parent, depth, nodes, links⟩)

def nodesWarnings : List GraphNode → List Warning
  | [] => []
  | v :: vs => v.ownWarnings reported ++ (childWarnings v ++ nodesWarnings vs)

def childWarnings : GraphNode → List Warning
  | ⟨_, _, _, _, none⟩ => []
  | ⟨_, _, _, _, some l⟩ => warnings l

end

mutual

/-- The warnings of all steps are those of the level, by recursion on it. -/
theorem warnings_steps : ∀ l : Level, l.steps.flatMap (BuildStep.warnings reported) =
    l.warnings reported
  | ⟨id, parent, depth, nodes, links⟩ => by
    rw [steps, warnings, List.flatMap_cons, List.flatMap_append, warnings_nodesSteps,
      List.flatMap_map]
    rfl

theorem warnings_nodesSteps (l : Level) : ∀ vs : List GraphNode,
    (l.nodesSteps vs).flatMap (BuildStep.warnings reported) = nodesWarnings reported vs
  | [] => by rw [nodesSteps_nil, nodesWarnings, List.flatMap_nil]
  | v :: vs => by
    rw [nodesSteps_cons, nodesWarnings, List.flatMap_cons, List.flatMap_append,
      warnings_childSteps, warnings_nodesSteps]
    rfl

theorem warnings_childSteps : ∀ v : GraphNode,
    (childSteps v).flatMap (BuildStep.warnings reported) = childWarnings reported v
  | ⟨_, _, _, _, none⟩ => by rw [childSteps, childWarnings, List.flatMap_nil]
  | ⟨_, _, _, _, some l⟩ => by rw [childSteps, childWarnings, warnings_steps]

end

end Level

end Warnings

/-- A warning is given for each declared name that no port was reported with. -/
lemma unmatched_eq_unreported (key : NodeKey) (d : Direction) (ports : List Port)
    (names : List String) : unmatched key d ports names = unreported key d ports names := by
  unfold unmatched unreported
  refine congrArg (List.map _) (List.filter_congr fun name _ => ?_)
  rw [Bool.eq_iff_iff, Bool.not_eq_true', ← Bool.not_eq_true, List.any_eq_true, decide_eq_true_iff,
    List.mem_map]
  simp only [decide_eq_true_iff]

/-- A link is left out because of one of its ends. -/
lemma Level.isSome_leftOutEnd?_iff {l : Level} {k : GraphLink} :
    (l.leftOutEnd? k).isSome ↔ l.LeavesOut k := by
  rw [leftOutEnd?, List.isSome_find?, List.any_eq_true]
  constructor
  · rintro ⟨key, hkey, h⟩
    obtain ⟨v, hv, hvkey, htag⟩ := of_decide_eq_true h
    rcases List.mem_pair.mp hkey with rfl | rfl
    · exact ⟨.origin, v, hv, hvkey, htag⟩
    · exact ⟨.target, v, hv, hvkey, htag⟩
  · rintro ⟨e, v, hv, hkey, htag⟩
    refine ⟨k.node e, ?_, decide_eq_true ⟨v, hv, hkey, htag⟩⟩
    cases e <;> simp [GraphLink.node]

/-- What was skipped so far says which end of a link is left out. -/
lemma Recorded.skippedEnd?_eq {σ : Type} {g : Graph} {mains : MainPorts} {before : List BuildStep}
    {s : Session σ} {l : Level} {k : GraphLink} (hs : Recorded g mains before s)
    (hg : g.WellFormed) (hn : g.Next before (.connect l k)) :
    k.skippedEnd? s.skipped = l.leftOutEnd? k := by
  obtain ⟨hl, hk⟩ := Graph.connect_mem_steps.mp hn.mem
  obtain ⟨-, hvisited⟩ := hn.ready hg
  have hkey : ∀ e, s.skipped.contains (k.node e) =
      decide (∃ v ∈ l.nodes, v.key = k.node e ∧ ∃ tag, v.kind = .unsupported tag) := by
    intro e
    obtain ⟨v, hv, hv', -⟩ := hg.exists_end hl hk e
    rw [Bool.eq_iff_iff, List.contains_iff_mem, decide_eq_true_iff]
    constructor
    · intro hskip
      exact ⟨v, hv, hv', ((hs.skipped l hl v hv).mp (hv' ▸ hskip)).2⟩
    · rintro ⟨w, hw, hw', htag⟩
      exact hw' ▸ (hs.skipped l hl w hw).mpr ⟨hvisited w hw, htag⟩
  refine List.find?_congr fun key hmem => ?_
  rcases List.mem_pair.mp hmem with rfl | rfl
  · exact hkey .origin
  · exact hkey .target

/-! ### What a report says after some steps -/

/-- What an engine made, if it granted a request to make something. -/
def Exchange.thing? : Exchange → Option Thing
  | ⟨.addBus .., .ok _⟩ => some .bus
  | ⟨.addModule .., .ok _⟩ => some .module
  | ⟨.addConnection .., .ok _⟩ => some .connection
  | _ => none

def Report.count (r : Report) : Thing → Nat
  | .bus => r.buses
  | .module => r.modules
  | .connection => r.connections

variable {σ : Type} {g : Graph} {mains : MainPorts} {before done : List BuildStep}
  {s s' : Session (σ × List Exchange)} {t : BuildStep} {l : Level} {v : GraphNode} {k : GraphLink}

/-- The ports of the modules that were visited are those that the engine reported. -/
def ReportedPorts (g : Graph) (done : List BuildStep) (s : Session (σ × List Exchange))
    (reported : NodeKey → PortList) : Prop :=
  ∀ l v spec, .visit l v ∈ done → v.kind = .processing spec → ∃ bus id,
    s.bindings.node? v.key = some (v.moduleBinding bus ⟨id, reported v.key⟩) ∧
      g.ModuleMade s.engine.2 l v ⟨id, reported v.key⟩

/-- The report tells of what was done so far. -/
structure Reported (g : Graph) (done : List BuildStep) (s : Session (σ × List Exchange)) :
    Prop where
  count : ∀ x, s.report.count x = done.countP fun t => t.thing? = some x
  granted : ∀ x, s.engine.2.countP (fun y => y.thing? = some x) = s.report.count x
  maxDepth : s.report.maxDepth = maxDepthFrom 0 (done.filterMap BuildStep.entered?)
  warnings : ∃ reported, ReportedPorts g done s reported ∧
    s.report.warnings = done.flatMap (BuildStep.warnings reported)

/-- What the engine reported of modules stays so while there are more exchanges. -/
lemma ReportedPorts.mono {reported : NodeKey → PortList} (h : ReportedPorts g done s reported)
    {xs : List Exchange} (hxs : s'.engine.2 = s.engine.2 ++ xs)
    (hb : s.bindings.Extends s'.bindings) : ReportedPorts g done s' reported := by
  intro l v spec hvisit hv
  obtain ⟨bus, id, hbound, hmade⟩ := h l v spec hvisit hv
  exact ⟨bus, id, hb.node hbound, hxs ▸ hmade.append xs⟩

/-- Where no module is made no more ports are reported. -/
lemma ReportedPorts.concat_other {reported : NodeKey → PortList}
    (h : ReportedPorts g before s reported) (ht : t.thing? ≠ some .module) :
    ReportedPorts g (before ++ [t]) s reported := by
  intro l v spec hvisit hv
  rcases List.mem_append.mp hvisit with hvisit | hvisit
  · exact h l v spec hvisit hv
  · obtain rfl := List.mem_singleton.mp hvisit
    simp [BuildStep.thing?, NodeKind.thing?, hv] at ht

namespace Reported

/-- The warnings of steps go by the ports of the modules among them. -/
lemma flatMap_warnings_congr {ts : List BuildStep} {reported reported' : NodeKey → PortList}
    (h : ∀ l v spec, .visit l v ∈ ts → v.kind = .processing spec →
      v.ownWarnings reported = v.ownWarnings reported') :
    ts.flatMap (BuildStep.warnings reported) = ts.flatMap (BuildStep.warnings reported') := by
  refine List.flatMap_congr fun t ht => ?_
  cases t with
  | enter | connect => rfl
  | visit l v =>
    cases hv : v.kind with
    | processing spec => exact h l v spec ht hv
    | mainInputs | mainOutputs | busAdd | busInput | busOutput | unsupported =>
      simp [BuildStep.warnings, GraphNode.ownWarnings, hv]

/-- What the report tells goes on after a step that it tells of too. -/
lemma concat (h : Reported g before s) {xs : List Exchange} (hxs : s'.engine.2 = s.engine.2 ++ xs)
    (hb : s.bindings.Extends s'.bindings)
    (hcount : ∀ x, s'.report.count x = s.report.count x + if t.thing? = some x then 1 else 0)
    (hgranted : ∀ x, xs.countP (fun y => y.thing? = some x) =
      if t.thing? = some x then 1 else 0)
    (hdepth : s'.report.maxDepth = maxDepthFrom s.report.maxDepth t.entered?.toList)
    (hwarnings : ∀ reported, ReportedPorts g before s' reported → ∃ reported',
      ReportedPorts g (before ++ [t]) s' reported' ∧
      (∀ l v spec, .visit l v ∈ before → v.kind = .processing spec →
        reported v.key = reported' v.key) ∧
      s'.report.warnings = s.report.warnings ++ t.warnings reported') :
    Reported g (before ++ [t]) s' where
  count x := by
    rw [hcount, h.count, List.countP_append, List.countP_singleton]
    simp
  granted x := by rw [hxs, List.countP_append, h.granted, hgranted, hcount]
  maxDepth := by
    rw [hdepth, h.maxDepth, List.filterMap_append, maxDepthFrom_append]
    cases t <;> rfl
  warnings := by
    obtain ⟨reported, hports, hgiven⟩ := h.warnings
    obtain ⟨reported', hports', hsame, hnew⟩ := hwarnings reported (hports.mono hxs hb)
    refine ⟨reported', hports', ?_⟩
    have hbefore := flatMap_warnings_congr fun l v spec hvisit hv =>
      GraphNode.ownWarnings_congr (hsame l v spec hvisit hv)
    rw [hnew, hgiven, hbefore, List.flatMap_append, List.flatMap_singleton]

/-- A step that is about no module. -/
lemma concat_other (h : Reported g before s) {xs : List Exchange}
    (hxs : s'.engine.2 = s.engine.2 ++ xs) (hb : s.bindings.Extends s'.bindings)
    (ht : t.thing? ≠ some .module)
    (hcount : ∀ x, s'.report.count x = s.report.count x + if t.thing? = some x then 1 else 0)
    (hgranted : ∀ x, xs.countP (fun y => y.thing? = some x) =
      if t.thing? = some x then 1 else 0)
    (hdepth : s'.report.maxDepth = maxDepthFrom s.report.maxDepth t.entered?.toList)
    (hwarnings : ∀ reported, s'.report.warnings = s.report.warnings ++ t.warnings reported) :
    Reported g (before ++ [t]) s' :=
  h.concat hxs hb hcount hgranted hdepth fun reported hports =>
    ⟨reported, hports.concat_other ht, fun _ _ _ _ _ => rfl, hwarnings reported⟩

variable (engine : Engine σ)

/-- A bus counts once, and nothing is warned of. -/
lemma step_bus (hg : g.WellFormed) (hs : Recorded g mains before s) (h : Reported g before s)
    (hn : g.Next before (.visit l v)) {title : String} (hv : v.kind = .busAdd title) :
    Ends (Compiler.perform engine.logged (.visit l v)) s
      (fun _ s' => Reported g (before ++ [.visit l v]) s') (fun _ _ => True) := by
  have hthing : (BuildStep.visit l v).thing? = some .bus := by
    simp [BuildStep.thing?, NodeKind.thing?, hv]
  rw [hs.perform_bus_iff _ hg hn hv]
  refine (engine.newBus_asked _ _ _ _ _).imp ?_ fun _ _ _ => trivial
  rintro ids e ⟨-, ports, he, -⟩
  rw [List.append_assoc] at he
  refine h.concat_other he (hs.freeFor hg hn hv).extends (by simp [hthing]) ?_ ?_ rfl ?_
  · rw [hthing]
    rintro (_ | _ | _) <;> rfl
  · rw [hthing]
    rintro (_ | _ | _) <;> rfl
  · intro reported
    simp [BuildStep.warnings, GraphNode.ownWarnings, hv, Session.withBus, Session.withEngine]

/-- A module counts once, and there is a warning for each slot that no port was reported for. -/
lemma step_module (hg : g.WellFormed) (hs : Recorded g mains before s)
    (ha : Attested g mains before s) (h : Reported g before s) (hn : g.Next before (.visit l v))
    {spec : ModuleSpec} (hv : v.kind = .processing spec) :
    Ends (Compiler.perform engine.logged (.visit l v)) s
      (fun _ s' => Reported g (before ++ [.visit l v]) s') (fun _ _ => True) := by
  obtain ⟨hl, hvl⟩ := Graph.visit_mem_steps.mp hn.mem
  have hthing : (BuildStep.visit l v).thing? = some .module := by
    simp [BuildStep.thing?, NodeKind.thing?, hv]
  have hturn := ha.turn hn (by simp [BuildStep.makes, hv, NodeKind.isModule])
  have hbind := Bindings.bindNode_of_none (hs.free_module hg hn hv)
  rw [hs.perform_module_iff _ hg hn hv]
  refine (engine.newModule_asked _ _ _).imp ?_ fun _ _ _ => trivial
  rintro ⟨id, ports⟩ e ⟨hid, he, hports⟩
  rw [List.append_assoc] at he
  refine h.concat he (Bindings.bindNode_extends (hbind _)) ?_ ?_ rfl fun reported hreported => ?_
  · rw [hthing]
    rintro (_ | _ | _) <;> rfl
  · rw [hthing]
    rintro (_ | _ | _) <;> rfl
  -- no module that was visited before has the key of this one
  have hother : ∀ m w spec', .visit m w ∈ before → w.kind = .processing spec' →
      reported w.key = Function.update reported v.key ports w.key := by
    intro m w spec' hvisit hw
    refine (Function.update_of_ne ?_ ports reported).symm
    intro hkey
    obtain ⟨hm, hwm⟩ := Graph.visit_mem_steps.mp (hn.subset hvisit)
    obtain ⟨rfl, rfl⟩ := hg.node_unique hm hl hwm hvl hkey
    exact hn.fresh hg hvisit
  refine ⟨Function.update reported v.key ports, ?_, hother, ?_⟩
  · intro m w spec' hvisit hw
    rcases List.mem_append.mp hvisit with hvisit | hvisit
    · rw [← hother m w spec' hvisit hw]
      exact hreported m w spec' hvisit hw
    · cases List.mem_singleton.mp hvisit
      rw [Function.update_self]
      refine ⟨s.bindings.busOf l, id, (Bindings.node?_cons _ _ _).trans (if_pos rfl), ?_⟩
      exact ⟨⟨_, _, .of_turn hturn he⟩, hid, hports⟩
  · simp [BuildStep.warnings, GraphNode.ownWarnings, hv, Session.withModule, Session.withEngine,
      unmatched_eq_unreported]

/-- A link counts once if it is connected, and there is one warning if it is left out. -/
lemma step_link (hg : g.WellFormed) (hs : Recorded g mains before s) (h : Reported g before s)
    (hn : g.Next before (.connect l k)) :
    Ends (Compiler.perform engine.logged (.connect l k)) s
      (fun _ s' => Reported g (before ++ [.connect l k]) s') (fun _ _ => True) := by
  have hmodule : (BuildStep.connect l k).thing? ≠ some .module := by
    simp only [BuildStep.thing?]
    split_ifs <;> simp
  rw [hs.perform_link_iff _ hg hn]
  have hend := hs.skippedEnd?_eq hg hn
  split
  · rename_i node hskip
    rw [hskip] at hend
    -- a skipped link is one of those that the graph leaves out
    have hleft : l.LeavesOut k := Level.isSome_leftOutEnd?_iff.mp (hend ▸ rfl)
    refine h.concat_other (List.append_nil _).symm (.refl _) hmodule ?_ ?_ rfl ?_
    · rintro (_ | _ | _) <;> simp [BuildStep.thing?, hleft] <;> rfl
    · rintro (_ | _ | _) <;> simp [BuildStep.thing?, hleft]
    · intro reported
      simp [BuildStep.warnings, Level.linkWarnings, ← hend, Session.withWarnings]
  · rename_i hskip
    have hkeep := (hs.skippedEnd?_eq_none hg hn).mp hskip
    have hthing : (BuildStep.connect l k).thing? = some .connection := if_neg hkeep
    rw [hskip] at hend
    split
    · trivial
    · refine (engine.ask_logged _ _).imp (fun id e he => ?_) fun _ _ _ => trivial
      have hbind := Bindings.bindConnection_of_none (hs.free_link hg hn) k.id id
      refine h.concat_other he (Bindings.bindConnection_extends hbind) hmodule ?_ ?_ rfl ?_
      · rw [hthing]
        rintro (_ | _ | _) <;> rfl
      · rw [hthing]
        rintro (_ | _ | _) <;> rfl
      · intro reported
        simp [BuildStep.warnings, Level.linkWarnings, ← hend, Session.withConnection,
          Session.withEngine]

/-- Every step goes on with a report that tells of it. -/
lemma step (hg : g.WellFormed) (hn : g.Next before t) (hs : Recorded g mains before s)
    (ha : Attested g mains before s) (h : Reported g before s) :
    Ends (Compiler.perform engine.logged t) s (fun _ s' => Reported g (before ++ [t]) s')
      (fun _ _ => True) := by
  cases t with
  | enter l =>
    refine h.concat_other (List.append_nil _).symm (.refl _) (by simp [BuildStep.thing?]) ?_ ?_ rfl
      fun reported => (List.append_nil _).symm
    · rintro (_ | _ | _) <;> rfl
    · rintro (_ | _ | _) <;> rfl
  | visit l v =>
    cases hv : v.kind with
    | busAdd title => exact h.step_bus engine hg hs hn hv
    | processing spec => exact h.step_module engine hg hs ha hn hv
    | unsupported tag =>
      rw [Recorded.perform_unsupported_iff _ hv]
      have hthing : (BuildStep.visit l v).thing? = none := by
        simp [BuildStep.thing?, NodeKind.thing?, hv]
      refine h.concat_other (List.append_nil _).symm (.refl _) (by simp [hthing]) ?_ ?_ rfl
        fun reported => ?_
      · rw [hthing]
        rintro (_ | _ | _) <;> rfl
      · rw [hthing]
        rintro (_ | _ | _) <;> rfl
      · simp [BuildStep.warnings, GraphNode.ownWarnings, hv, Session.withSkipped,
          Session.withWarnings]
    | mainInputs | mainOutputs | busInput | busOutput =>
      rw [Recorded.perform_idle_iff _ (by simp [hv]) (by simp [hv]) (by simp [hv])]
      have hthing : (BuildStep.visit l v).thing? = none := by
        simp [BuildStep.thing?, NodeKind.thing?, hv]
      refine h.concat_other (List.append_nil _).symm (.refl _) (by simp [hthing]) ?_ ?_ rfl
        fun reported => ?_
      · simp [hthing]
      · simp [hthing]
      · simp [BuildStep.warnings, GraphNode.ownWarnings, hv]
  | connect l k => exact h.step_link engine hg hs hn

end Reported

/-- What is known of the session that a compilation succeeds in. -/
lemma compile_session (hg : g.WellFormed) (engine : Engine σ) (state : σ) {c : Compilation}
    (hc : (compile engine g state).1 = .ok c) :
    ∃ (mains : MainPorts) (s : Session (σ × List Exchange)), Recorded g mains g.steps s ∧
      Attested g mains g.steps s ∧ Reported g g.steps s ∧ s.engine.2 = history engine g state ∧
      c = ⟨s.bindings, s.report⟩ := by
  have hcompiles : Compiles engine.logged g (state, [])
      (fun c e => ∃ (mains : MainPorts) (s : Session (σ × List Exchange)),
        Recorded g mains g.steps s ∧ Attested g mains g.steps s ∧ Reported g g.steps s ∧
        s.engine = e ∧ c = ⟨s.bindings, s.report⟩) (fun _ _ => True) := by
    refine compiles hg (P := fun mains done s => Attested g mains done s ∧ Reported g done s) ?_ ?_
      fun mains s hs h => ⟨mains, s, hs, h.1, h.2, rfl, rfl⟩
    · refine (engine.ask_logged _ _).imp (fun mains e he => ?_) fun _ _ _ => trivial
      rw [List.nil_append] at he
      refine ⟨fun b _ => ⟨?_, ?_⟩, fun _ _ _ _ _ _ => trivial⟩
      · exact ⟨he ▸ .listMain _, ⟨[], he⟩, by simp [he, Request.makes], by simp, by simp, by simp⟩
      · refine ⟨?_, ?_, rfl, fun _ => ⟨[], []⟩, by simp [ReportedPorts], rfl⟩
        · rintro (_ | _ | _) <;> rfl
        · rw [he]
          rintro (_ | _ | _) <;> rfl
    · rintro mains before t s hn hs ⟨ha, h⟩
      exact ((ha.step engine hg hn hs).and (h.step engine hg hn hs ha)).imp (fun _ _ => id)
        fun _ _ _ => trivial
  have hlogged : (compile engine.logged g (state, [])).1 = .ok c := by rw [compile_logged, hc]
  obtain ⟨mains, s, hs, ha, h, he, hcs⟩ := hcompiles.ok_of_ok hlogged
  exact ⟨mains, s, hs, ha, h, congrArg Prod.snd he, hcs⟩

/-! ### What a report says at the end -/

def Warning.isSkippedLink : Warning → Bool
  | .skippedLink .. => true
  | .unsupportedNode .. | .unmatchedPort .. => false

/-- A report is about all of a document and about what an engine was asked. -/
structure Report.Exact (r : Report) (d : Document) (g : Graph) (h : List Exchange) : Prop where
  total : ∀ x, r.count x = d.total x
  granted : ∀ x, h.countP (fun y => y.thing? = some x) = r.count x
  maxDepth : r.maxDepth = d.nesting
  warnings : ∃ reported : NodeKey → PortList,
    (∀ l ∈ g.levels, ∀ v ∈ l.nodes, ∀ spec, v.kind = .processing spec →
      ∃ id, g.ModuleMade h l v ⟨id, reported v.key⟩) ∧ r.warnings = g.root.warnings reported
  links : r.connections + r.warnings.countP Warning.isSkippedLink = d.linkCount

lemma unreported_countP_isSkippedLink (key : NodeKey) (d : Direction) (ports : List Port)
    (names : List String) : (unreported key d ports names).countP Warning.isSkippedLink = 0 := by
  simp [unreported, List.countP_eq_zero, Warning.isSkippedLink]

/-- A link is connected or there is a warning of it, and nothing else gives such a warning. -/
lemma BuildStep.warnings_countP_isSkippedLink (reported : NodeKey → PortList) (t : BuildStep) :
    (if t.thing? = some .connection then 1 else 0) +
        (t.warnings reported).countP Warning.isSkippedLink = if t.isLink then 1 else 0 := by
  cases t with
  | enter l => rfl
  | visit l v =>
    cases hv : v.kind <;> simp [thing?, NodeKind.thing?, warnings, GraphNode.ownWarnings, isLink,
      Warning.isSkippedLink, unreported_countP_isSkippedLink, hv]
  | connect l k =>
    have hend := l.isSome_leftOutEnd?_iff (k := k)
    cases hleft : l.leftOutEnd? k with
    | none =>
      rw [hleft] at hend
      simp [thing?, warnings, Level.linkWarnings, isLink, hleft, mt hend.mpr]
    | some key =>
      rw [hleft] at hend
      simp [thing?, warnings, Level.linkWarnings, isLink, hleft, hend.mp,
        Warning.isSkippedLink]

/-- Each link is connected or warned of. -/
lemma connections_add_countP_isSkippedLink (reported : NodeKey → PortList)
    (ts : List BuildStep) :
    ts.countP (fun t => t.thing? = some .connection) +
        (ts.flatMap (BuildStep.warnings reported)).countP Warning.isSkippedLink =
      ts.countP BuildStep.isLink := by
  induction ts with
  | nil => rfl
  | cons t ts ih =>
    have hstep := t.warnings_countP_isSkippedLink reported
    rw [List.flatMap_cons, List.countP_append, List.countP_cons, List.countP_cons, ← ih]
    simp only [decide_eq_true_iff]
    omega

/-- Whatever an engine answers, the report of a compilation that succeeds counts exactly what the
document asks for and the engine made, and it warns of everything else in the order of the levels:
no warning is lost, and none is given twice. -/
theorem compile_reports {d : Document} (hd : Graph.build d = .ok g) (engine : Engine σ) (state : σ)
    {c : Compilation} (hc : (compile engine g state).1 = .ok c) :
    c.report.Exact d g (history engine g state) := by
  obtain ⟨mains, s, -, -, h, hhistory, rfl⟩ :=
    compile_session (Graph.build_wellFormed hd) engine state hc
  have htotal : ∀ x, s.report.count x = d.total x := fun x =>
    (h.count x).trans (Graph.countP_steps hd x)
  obtain ⟨reported, hports, hwarnings⟩ := h.warnings
  refine ⟨htotal, fun x => hhistory ▸ h.granted x, ?_, ⟨reported, ?_, ?_⟩, ?_⟩
  · rw [h.maxDepth, Graph.steps, Level.entered_steps, ← Graph.maxDepth_eq hd]
    rfl
  · intro l hl v hv spec hspec
    obtain ⟨-, id, -, hmade⟩ := hports l v spec (Graph.visit_mem_steps.mpr ⟨hl, hv⟩) hspec
    exact ⟨id, hhistory ▸ hmade⟩
  · rw [hwarnings, Graph.steps, Level.warnings_steps]
  · have hconnections : s.report.connections =
        g.steps.countP fun t => t.thing? = some .connection := h.count .connection
    rw [hconnections, hwarnings, connections_add_countP_isSkippedLink, Graph.countP_isLink hd]

/-- A bus, a module and a node that the engine knows nothing like, which is linked to both sides.
There is another such node in the bus. -/
def stranger : Document where
  nodes :=
    [⟨1, "main/inputs", none, [("ids", .array [.null])], none, none, none, []⟩,
      ⟨2, "studio/reverb", none, [], none, none, none, []⟩,
      ⟨3, "bus/add", some "strange", [], some ⟨[⟨1, "bus/input", none, [("name", .string "in")],
        none, none, none, []⟩, ⟨4, "bus/output", none, [("name", .string "out")], none, none,
        none, []⟩, ⟨2, "studio/echo", none, [], none, none, none, []⟩], [], none, []⟩, none, none,
        []⟩,
      ⟨4, "utils/float", none, [("value", .string "1")], none, none, some [⟨"out", none, []⟩], []⟩]
  links :=
    [⟨5, 1, 0, 2, 0, .null, .null, []⟩, ⟨6, 1, 0, 3, 0, .null, .null, []⟩,
      ⟨7, 2, 0, 3, 0, .null, .null, []⟩]
  busId := none
  extra := []

def report? (engine : Engine σ) (d : Document) (state : σ) : Option Report :=
  (Graph.build d).toOption.bind fun g =>
    (compile engine g state).1.toOption.map Compilation.report

/-- A report that is computed is that of a compilation. -/
lemma report?_eq_some {engine : Engine σ} {d : Document} {state : σ} {r : Report}
    (h : report? engine d state = some r) : ∃ g c, Graph.build d = .ok g ∧
      (compile engine g state).1 = .ok c ∧ c.report = r := by
  unfold report? at h
  cases hd : Graph.build d with
  | error err => simp [hd, Except.toOption] at h
  | ok g =>
    cases hc : (compile engine g state).1 with
    | error err => simp [hd, hc, Except.toOption] at h
    | ok c => exact ⟨g, c, rfl, hc, by simpa [hd, hc, Except.toOption] using h⟩

theorem stranger_reports : ∃ g c, Graph.build stranger = .ok g ∧
    (compile narrowEngine g ()).1 = .ok c ∧
    c.report.Exact stranger g (history narrowEngine g ()) ∧
    c.report = ⟨1, 1, 1, 1, [.unsupportedNode ⟨0, 2⟩ "studio/reverb",
      .unsupportedNode ⟨1, 2⟩ "studio/echo", .unmatchedPort ⟨0, 4⟩ .output "out",
      .skippedLink 0 5 ⟨0, 2⟩, .skippedLink 0 7 ⟨0, 2⟩]⟩ := by
  have hreport : report? narrowEngine stranger () = some ⟨1, 1, 1, 1,
      [.unsupportedNode ⟨0, 2⟩ "studio/reverb", .unsupportedNode ⟨1, 2⟩ "studio/echo",
        .unmatchedPort ⟨0, 4⟩ .output "out", .skippedLink 0 5 ⟨0, 2⟩,
        .skippedLink 0 7 ⟨0, 2⟩]⟩ := by decide +kernel
  obtain ⟨g, c, hdoc, hc, hr⟩ := report?_eq_some hreport
  exact ⟨g, c, hdoc, hc, compile_reports hdoc narrowEngine () hc, hr⟩

end Patchbay
