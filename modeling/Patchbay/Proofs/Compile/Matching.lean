import Patchbay.Proofs.Compile.Links
import Patchbay.Proofs.Document.Validity
import Patchbay.Proofs.Engine.Exchanges
import Patchbay.Proofs.Graph.Flattening
import Patchbay.Proofs.Orders

/-!
# Ports of modules go by their names

A module's declared slots get their ports by name. So it makes no difference in which order an
engine reports the ports of a module, nor that it reports more of them than are declared.
-/

namespace Patchbay

variable {σ τ : Type} {names : Direction → String → Prop}

/-- The ports of a direction in another order, with ports among them that none of the names is the
name of. In the first list no two ports have one name. -/
structure RearrangedPorts (names : String → Prop) (ps qs : List Port) : Prop where
  distinct : (ps.map Port.name).Nodup
  order : ∃ others, (∀ p ∈ others, ¬ names p.name) ∧ qs.Perm (ps ++ others)
  isOpaque : ∀ q ∈ qs, isOpaque q.id = true

/-- The ports of a module in another order, with further ones among them. -/
def PortList.Rearranged (names : Direction → String → Prop) (ps qs : PortList) : Prop :=
  ∀ d, RearrangedPorts (names d) (ps.ports d) (qs.ports d)

/-- The second engine answers as the first one does, but for the ports of modules: these it reports
in another order, with further ones among them that have none of the names. -/
structure Engine.Rearranges (names : Direction → String → Prop) (R : σ → τ → Prop)
    (engine : Engine σ) (engine' : Engine τ) : Prop where
  modulePorts : ∀ id s t, R s t →
    Echoes (PortList.Rearranged names) (engine (.listModulePorts id) s).1
      (engine' (.listModulePorts id) t).1
  other : ∀ r, (∀ id, r ≠ .listModulePorts id) → ∀ s t, R s t →
    (engine r s).1 = (engine' r t).1
  state : ∀ r s t, R s t → R (engine r s).2 (engine' r t).2

/-- A module of the document declares a port of a direction by a name. -/
def Document.Declares (m : Document) (d : Direction) (name : String) : Prop :=
  ∃ l ∈ m.levels, ∃ n ∈ l.nodes, (∃ spec, n.Means (.processing spec)) ∧ name ∈ n.names d

/-! ### Ports of a name -/

namespace RearrangedPorts

variable {names : String → Prop} {ps qs : List Port} {name : String}

/-- There is one port of a declared name at most, and it is the same one. -/
lemma find?_eq (h : RearrangedPorts names ps qs) (hname : names name) :
    (qs.find? fun p => p.name = name) = ps.find? fun p => p.name = name := by
  obtain ⟨others, hothers, hperm⟩ := h.order
  have hnone : (others.filter fun p => p.name = name) = [] := by
    rw [List.filter_eq_nil_iff]
    intro p hp
    have hne : p.name ≠ name := fun heq => hothers p hp (heq ▸ hname)
    simpa using hne
  rw [find?_eq_of_perm hperm, List.find?_append, ← List.head?_filter (l := others), hnone,
    List.head?_nil, Option.or_none]
  rw [List.filter_append, hnone, List.append_nil]
  exact length_filter_le_one_of_nodup_map h.distinct name

lemma any_eq (h : RearrangedPorts names ps qs) (hname : names name) :
    (qs.any fun p => p.name = name) = ps.any fun p => p.name = name := by
  rw [← List.isSome_find?, ← List.isSome_find?, h.find?_eq hname]

end RearrangedPorts

/-- Declared slots get the same ports. -/
lemma matchPorts_eq {names : String → Prop} {ps qs : List Port} {declared : List String}
    (h : RearrangedPorts names ps qs) (hnames : ∀ name ∈ declared, names name) :
    matchPorts qs declared = matchPorts ps declared :=
  List.map_congr_left fun name hname => by rw [h.find?_eq (hnames name hname)]

lemma unmatched_eq {names : String → Prop} {ps qs : List Port} {declared : List String}
    (h : RearrangedPorts names ps qs) (hnames : ∀ name ∈ declared, names name) (key : NodeKey)
    (d : Direction) : unmatched key d qs declared = unmatched key d ps declared := by
  unfold unmatched
  rw [List.filter_congr fun name hname => by rw [h.any_eq (hnames name hname)]]

/-- The ports that there were before can be parts of addresses too. -/
lemma PortList.Rearranged.isOpaque {ps qs : PortList} (h : ps.Rearranged names qs) :
    (∀ p ∈ ps.inputs ++ ps.outputs, isOpaque p.id = true) ∧
      ∀ p ∈ qs.inputs ++ qs.outputs, isOpaque p.id = true := by
  have hbefore : ∀ d, ∀ p ∈ ps.ports d, Patchbay.isOpaque p.id = true := by
    intro d p hp
    obtain ⟨others, -, hperm⟩ := (h d).order
    exact (h d).isOpaque p (hperm.mem_iff.mpr (List.mem_append_left _ hp))
  rw [List.forall_mem_append, List.forall_mem_append]
  exact ⟨⟨hbefore .input, hbefore .output⟩, (h .input).isOpaque, (h .output).isOpaque⟩

/-! ### Steps -/

variable {R : σ → τ → Prop} {engine : Engine σ} {engine' : Engine τ}

namespace Engine.Rearranges

/-- Of all requests only the ports of modules are answered in another order. -/
lemma ask_agree (h : engine.Rearranges names R engine') {r : Request}
    (hr : ∀ id, r ≠ .listModulePorts id) :
    Agree R (fun _ _ _ => False) (engine.ask r) (engine'.ask r) where
  together s t hst := by
    have hanswer := h.other r hr s t hst
    have hstate := h.state r s t hst
    simp only [ask, ExceptT.run_mk]
    revert hanswer hstate
    rcases engine r s with ⟨_ | _, s'⟩ <;> rcases engine' r t with ⟨_ | _, t'⟩ <;> rintro ⟨⟩ hstate
    · exact .inl ⟨rfl, hstate⟩
    · exact ⟨rfl, hstate⟩
  alone _ _ _ := False.elim

/-- The ports of a module come in another order, and the compilation goes on with both answers. -/
lemma listModulePorts_follows (h : engine.Rearranges names R engine') (id : String) :
    Follows R (fun _ => False) (PortList.Rearranged names) (engine.ask (.listModulePorts id))
      (engine'.ask (.listModulePorts id)) := by
  intro s t hst
  have hanswer := h.modulePorts id s t hst
  have hstate := h.state (.listModulePorts id) s t hst
  simp only [ask, ExceptT.run_mk]
  revert hanswer hstate
  rcases engine (.listModulePorts id) s with ⟨_ | _, s'⟩ <;>
    rcases engine' (.listModulePorts id) t with ⟨_ | _, t'⟩ <;> rintro ⟨⟩ hstate
  · exact .inl ⟨rfl, hstate⟩
  · exact ⟨⟨_, rfl, ‹_›⟩, hstate⟩

/-- A module gets the same id, and its ports in another order. -/
lemma newModule_follows (h : engine.Rearranges names R engine') (bus : String)
    (spec : ModuleSpec) :
    Follows R (fun _ => False) (fun ids ids' => ids.id = ids'.id ∧
        ids.ports.Rearranged names ids'.ports)
      (engine.newModule bus spec) (engine'.newModule bus spec) := by
  have hadd := (h.ask_agree (r := .addModule bus spec) nofun).follows fun _ _ _ => id
  refine hadd.bind fun id id' (hid : id = id') => ?_
  subst hid
  refine (Follows.proceed (Echoes.refl _)).bind fun _ _ _ => ?_
  refine (h.listModulePorts_follows id).bind fun ports ports' (hports : ports.Rearranged names _) =>
    ?_
  obtain ⟨hbefore, hafter⟩ := hports.isOpaque
  rw [forM_checkOpaque_ok_iff.mpr hbefore, forM_checkOpaque_ok_iff.mpr hafter]
  refine (Follows.proceed (Echoes.refl _)).bind fun _ _ _ => ?_
  exact .pure ⟨rfl, hports⟩

end Engine.Rearranges

namespace Compiler

/-- A talk whose answers are related is related as a step of the compilation. -/
lemma converse_follows_agrees {α β : Type} {V : α → β → Prop} {talk : Conversation σ α}
    {talk' : Conversation τ β} (h : Follows R (fun _ => False) V talk talk') :
    Follows (Session.Agrees R) (fun _ => False) V (converse talk) (converse talk') := by
  intro s t hst
  have hs := h s.engine t.engine hst.engine
  revert hs
  simp only [converse, ExceptT.run_mk]
  rcases talk.run s.engine with ⟨e | a, s'⟩ <;> rcases talk'.run t.engine with ⟨_ | _, t'⟩
  · rintro (⟨⟨⟩, hs'⟩ | ⟨⟨⟩⟩)
    exact .inl ⟨rfl, hs', hst.bindings, hst.report, hst.skipped⟩
  · rintro (⟨⟨⟩, -⟩ | ⟨⟨⟩⟩)
  · rintro ⟨⟨_, ⟨⟩, -⟩, -⟩
  · rintro ⟨⟨_, ⟨⟩, hab⟩, hs'⟩
    exact ⟨⟨_, rfl, hab⟩, hs', hst.bindings, hst.report, hst.skipped⟩

/-- What is kept of a module is the same. -/
lemma createModule_rearranged (h : engine.Rearranges names R engine') (bus : String)
    {v : GraphNode} (hv : ∀ d, ∀ name ∈ v.names d, names d name) (spec : ModuleSpec) :
    Agree (Session.Agrees R) (CompileError.Cuts fun _ _ _ => False)
      (createModule engine bus v.key v.inputNames v.outputNames spec)
      (createModule engine' bus v.key v.inputNames v.outputNames spec) := by
  have hcut : ∀ (e : CompileError) (s : Session σ) (t : Session τ),
      ¬ e.Cuts (fun _ _ _ => False) s t := fun _ _ _ ⟨_, _, h⟩ => h
  refine Follows.agree (Follows.bind (converse_follows_agrees (h.newModule_follows bus spec)) ?_)
    hcut
  rintro ⟨id, ports⟩ ⟨_, ports'⟩ ⟨rfl, hports⟩
  have hin : RearrangedPorts (names .input) ports.inputs ports'.inputs := hports .input
  have hout : RearrangedPorts (names .output) ports.outputs ports'.outputs := hports .output
  have hins : ∀ name ∈ v.inputNames, names .input name := hv .input
  have houts : ∀ name ∈ v.outputNames, names .output name := hv .output
  dsimp only
  rw [unmatched_eq hin hins, unmatched_eq hout houts, matchPorts_eq hin hins,
    matchPorts_eq hout houts]
  exact Agree.follows ((report_agree _).bind fun _ => (report_agree _).bind fun _ =>
    (bind?_agree _).bind fun _ => report_agree _) hcut

end Compiler

def GraphNode.Declared (names : Direction → String → Prop) (v : GraphNode) : Prop :=
  ∀ spec, v.kind = .processing spec → ∀ d, ∀ name ∈ v.names d, names d name

lemma Engine.Rearranges.steps (h : engine.Rearranges names R engine') :
    Compiler.StepsAgree R (fun _ _ _ => False) (GraphNode.Declared names) engine engine' where
  ask r hr := h.ask_agree fun id hid => by rw [hid] at hr; cases hr
  module bus v spec hv hkind := Compiler.createModule_rearranged h bus (hv spec hkind) spec

/-- Engines that keep what they were asked are asked the same. -/
lemma Engine.Rearranges.logged (h : engine.Rearranges names R engine') :
    engine.logged.Rearranges names
      (fun s t => R s.1 t.1 ∧ s.2.map Exchange.request = t.2.map Exchange.request)
      engine'.logged where
  modulePorts id s t hst := h.modulePorts id s.1 t.1 hst.1
  other r hr s t hst := h.other r hr s.1 t.1 hst.1
  state r s t hst := ⟨h.state r s.1 t.1 hst.1, by simp [Engine.logged, hst.2]⟩

/-- A node of a graph has the names that the document declares. -/
lemma GraphNode.Shows.names_eq {level : Nat} {n : Node} {v : GraphNode} (h : v.Shows level n)
    (d : Direction) : v.names d = n.names d := by
  cases d
  · exact h.inputNames
  · exact h.outputNames

/-- The modules of a graph declare what the modules of its document do. -/
lemma Graph.declared {d : Document} {g : Graph} (hd : Graph.build d = .ok g) :
    ∀ l ∈ g.levels, ∀ v ∈ l.nodes, v.Declared d.Declares := by
  intro l hl v hv spec hkind dir name hname
  obtain ⟨m, hm, hunfolds⟩ := forall₂_exists_right (Graph.levels_unfold hd).flip hl
  obtain ⟨n, hn, hshows⟩ := forall₂_exists_right hunfolds.nodes.flip hv
  exact ⟨m, hm, n, hn, ⟨spec, hkind ▸ Node.classify_eq_ok_iff.mp hshows.kind⟩,
    hshows.names_eq dir ▸ hname⟩

/-- Engines that report the ports of modules in other orders, and with ports that no module of the
document declares, are asked the same. Compilations with them end with the same error or with the
same bindings and report. -/
theorem compile_rearranged {d : Document} {g : Graph} (hd : Graph.build d = .ok g)
    (h : engine.Rearranges d.Declares R engine') {s : σ} {t : τ} (hst : R s t) :
    (compile engine g s).1 = (compile engine' g t).1 ∧
      (history engine g s).map Exchange.request = (history engine' g t).map Exchange.request ∧
      R (compile engine g s).2 (compile engine' g t).2 := by
  have hrun := compile_agree_of_steps h.logged.steps (Graph.declared hd) (s := (s, []))
    (t := (t, [])) ⟨hst, rfl⟩
  rw [compile_logged, compile_logged] at hrun
  obtain ⟨hresult, hstate, hrequests⟩ | ⟨-, -, hcut⟩ := hrun
  · exact ⟨hresult, hrequests, hstate⟩
  · exact hcut.elim

/-- A module that declares an input and an output of one name, and another input. -/
def twoInputs : Document where
  nodes :=
    [⟨1, "main/inputs", none, [("ids", .array [.null, .null])], none, none, none, []⟩,
      ⟨2, "utils/float", none, [("value", .string "1")], none,
        some [⟨"a", none, []⟩, ⟨"b", none, []⟩], some [⟨"a", none, []⟩], []⟩]
  links := [⟨5, 1, 0, 2, 0, .null, .null, []⟩, ⟨6, 1, 1, 2, 1, .null, .null, []⟩]
  busId := none
  extra := []

def reportingEngine (ports : PortList) : Engine Unit
  | .listMain, s => (.ok ⟨["l", "r"], []⟩, s)
  | .addBus .., s => (.ok "bus", s)
  | .listBusPorts _, s => (.ok ⟨[], []⟩, s)
  | .addModule .., s => (.ok "module", s)
  | .listModulePorts _, s => (.ok ports, s)
  | .addConnection .., s => (.ok "connection", s)

def declaredPorts : PortList := ⟨[⟨"1", "a"⟩, ⟨"2", "b"⟩], [⟨"3", "a"⟩]⟩

/-- The inputs the other way round, and before them, as after the output, a port that is not
declared in its direction. -/
def morePorts : PortList := ⟨[⟨"9", "c"⟩, ⟨"2", "b"⟩, ⟨"1", "a"⟩], [⟨"3", "a"⟩, ⟨"2", "b"⟩]⟩

lemma reportingEngine_rearranges {ps qs : PortList} (h : ps.Rearranged names qs) :
    (reportingEngine ps).Rearranges names Eq (reportingEngine qs) where
  modulePorts _ _ _ _ := .ok h
  other r hr _ _ _ := by
    cases r with
    | listModulePorts id => exact (hr id rfl).elim
    | listMain | addBus | listBusPorts | addModule | addConnection => rfl
  state _ _ _ _ := rfl

lemma twoInputs_declares {d : Direction} {name : String} (h : twoInputs.Declares d name) :
    name ∈ match d with
      | .input => ["a", "b"]
      | .output => ["a"] := by
  obtain ⟨l, hl, n, hn, -, hname⟩ := h
  have hlevels : twoInputs.levels = [twoInputs] := rfl
  obtain rfl : l = twoInputs := List.mem_singleton.mp (hlevels ▸ hl)
  rcases List.mem_cons.mp hn with rfl | hn
  · cases d <;> cases hname
  · cases List.mem_singleton.mp hn
    cases d <;> exact hname

lemma declaredPorts_rearranged : declaredPorts.Rearranged twoInputs.Declares morePorts := by
  rintro (_ | _)
  · refine ⟨by decide, ⟨[⟨"9", "c"⟩], fun p hp h => ?_, by decide⟩, by decide⟩
    cases List.mem_singleton.mp hp
    exact absurd (twoInputs_declares h) (by decide)
  · refine ⟨by decide, ⟨[⟨"2", "b"⟩], fun p hp h => ?_, by decide⟩, by decide⟩
    cases List.mem_singleton.mp hp
    exact absurd (twoInputs_declares h) (by decide)

theorem twoInputs_rearranged : ∃ g c, Graph.build twoInputs = .ok g ∧
    (compile (reportingEngine declaredPorts) g ()).1 = .ok c ∧
    (compile (reportingEngine morePorts) g ()).1 = .ok c ∧
    (history (reportingEngine declaredPorts) g ()).map Exchange.request =
      (history (reportingEngine morePorts) g ()).map Exchange.request := by
  obtain ⟨g, hdoc, c, hc⟩ : ∃ g, Graph.build twoInputs = .ok g ∧
      ∃ c, (compile (reportingEngine declaredPorts) g ()).1 = .ok c := ⟨_, rfl, _, rfl⟩
  obtain ⟨hresult, hrequests, -⟩ :=
    compile_rearranged hdoc (reportingEngine_rearranges declaredPorts_rearranged) (rfl : () = ())
  exact ⟨g, c, hdoc, hc, hresult ▸ hc, hrequests⟩

end Patchbay
