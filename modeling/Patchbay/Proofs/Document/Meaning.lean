import Mathlib.Data.List.Forall2
import Patchbay.Graph.Basic
import Patchbay.Proofs.Lists
import Patchbay.Proofs.Results

/-!
# What nodes mean

A node means something to the engine if it has what its tag asks for. Here this is said of the tag
and the fields themselves; classification finds just this meaning, and if there is none it names a
field that the tag asks for and that the node lacks.
-/

namespace Patchbay

def Direction.mainTag : Direction → String
  | .input => "main/inputs"
  | .output => "main/outputs"

def Direction.portTag : Direction → String
  | .input => "bus/input"
  | .output => "bus/output"

/-- The nodes of a document that are ports of the bus around it in a direction. -/
def Document.ports (d : Direction) (m : Document) : List Node :=
  m.nodes.filter fun n => n.bareTag = d.portTag

def Link.node (l : Link) : LinkEnd → Int
  | .origin => l.originId
  | .target => l.targetId

def Link.slot (l : Link) : LinkEnd → Nat
  | .origin => l.originSlot
  | .target => l.targetSlot

namespace Node

/-- A node has what its tag asks for in order to mean a kind of thing. -/
inductive Means (n : Node) : NodeKind → Prop
  | mainInputs (items : List Json) (tag : n.bareTag = "main/inputs")
      (ids : Keyed.get? "ids" n.properties = some (.array items)) :
      Means n (.mainInputs items.length)
  | mainOutputs (items : List Json) (tag : n.bareTag = "main/outputs")
      (ids : Keyed.get? "ids" n.properties = some (.array items)) :
      Means n (.mainOutputs items.length)
  | busAdd (title : String) (inside : Document) (tag : n.bareTag = "bus/add")
      (subgraph : n.subgraph = some inside) (titled : n.title = some title) :
      Means n (.busAdd title)
  | busInput (name : String) (tag : n.bareTag = "bus/input")
      (named : Keyed.get? "name" n.properties = some (.string name)) : Means n (.busInput name)
  | busOutput (name : String) (tag : n.bareTag = "bus/output")
      (named : Keyed.get? "name" n.properties = some (.string name)) : Means n (.busOutput name)
  | processing (type : ModuleType) (values : List Single)
      (tag : ModuleType.ofTag? n.bareTag = some type)
      (parameters : List.Forall₂
        (fun p x => ∃ v, Keyed.get? p n.properties = some v ∧ numberOf? v = some x)
        type.parameters values) : Means n (.processing ⟨type, values⟩)
  | unsupported (main : ∀ d : Direction, n.bareTag ≠ d.mainTag)
      (port : ∀ d : Direction, n.bareTag ≠ d.portTag) (bus : n.bareTag ≠ "bus/add")
      (module : ModuleType.ofTag? n.bareTag = none) : Means n (.unsupported n.type)

/-- A node lacks what its tag asks for, in the way that an error says. -/
inductive Lacks (n : Node) : FieldError → Prop
  | ids (d : Direction) (tag : n.bareTag = d.mainTag)
      (absent : ∀ items, Keyed.get? "ids" n.properties ≠ some (.array items)) :
      Lacks n (.missing "ids")
  | subgraph (tag : n.bareTag = "bus/add") (absent : n.subgraph = none) :
      Lacks n (.missing "subgraph")
  | title (tag : n.bareTag = "bus/add") (absent : n.title = none) : Lacks n (.missing "title")
  | name (d : Direction) (tag : n.bareTag = d.portTag)
      (absent : ∀ name, Keyed.get? "name" n.properties ≠ some (.string name)) :
      Lacks n (.missing "name")
  | parameter (type : ModuleType) (p : String) (tag : ModuleType.ofTag? n.bareTag = some type)
      (asked : p ∈ type.parameters)
      (absent : ∀ v, Keyed.get? p n.properties = some v → v = .null) : Lacks n (.missing p)
  | number (type : ModuleType) (p : String) (v : Json)
      (tag : ModuleType.ofTag? n.bareTag = some type) (asked : p ∈ type.parameters)
      (value : Keyed.get? p n.properties = some v) (null : v ≠ .null)
      (text : numberOf? v = none) : Lacks n (.notNumeric p v)

/-! ### Properties -/

section Properties

variable (n : Node) (name : String)

/-- A property is there and is not `null`, or it counts as missing. -/
lemma property_cases :
    (∃ v, Keyed.get? name n.properties = some v ∧ v ≠ .null ∧ n.property name = .ok v) ∨
      (∀ v, Keyed.get? name n.properties = some v → v = .null) ∧
        n.property name = .error (.missing name) := by
  unfold property
  cases h : Keyed.get? name n.properties with
  | none => exact .inr ⟨by simp, rfl⟩
  | some v =>
    cases v with
    | null => exact .inr ⟨by simp, rfl⟩
    | bool | number | string | array | object => exact .inl ⟨_, rfl, by simp, rfl⟩

/-- Anything but an array counts as missing. -/
lemma itemCount_cases :
    (∃ items, Keyed.get? name n.properties = some (.array items) ∧
        n.itemCount name = .ok items.length) ∨
      (∀ items, Keyed.get? name n.properties ≠ some (.array items)) ∧
        n.itemCount name = .error (.missing name) := by
  unfold itemCount
  rcases n.property_cases name with ⟨v, hv, hnull, h⟩ | ⟨hnull, h⟩
  · rw [h, hv]
    cases v with
    | null => exact (hnull rfl).elim
    | array items => exact .inl ⟨items, rfl, rfl⟩
    | bool | number | string | object => exact .inr ⟨by simp, rfl⟩
  · rw [h]
    refine .inr ⟨fun items hitems => ?_, rfl⟩
    cases hnull _ hitems

/-- Anything but a text counts as missing. -/
lemma textProperty_cases :
    (∃ s, Keyed.get? name n.properties = some (.string s) ∧ n.textProperty name = .ok s) ∨
      (∀ s, Keyed.get? name n.properties ≠ some (.string s)) ∧
        n.textProperty name = .error (.missing name) := by
  unfold textProperty
  rcases n.property_cases name with ⟨v, hv, hnull, h⟩ | ⟨hnull, h⟩
  · rw [h, hv]
    cases v with
    | null => exact (hnull rfl).elim
    | string s => exact .inl ⟨s, rfl, rfl⟩
    | bool | number | array | object => exact .inr ⟨by simp, rfl⟩
  · rw [h]
    refine .inr ⟨fun s hs => ?_, rfl⟩
    cases hnull _ hs

/-- A property for a number is missing, or stands for a number or for none. -/
lemma numberProperty_cases :
    (∃ v x, Keyed.get? name n.properties = some v ∧ numberOf? v = some x ∧
        n.numberProperty name = .ok x) ∨
      (∀ v, Keyed.get? name n.properties = some v → v = .null) ∧
        n.numberProperty name = .error (.missing name) ∨
      ∃ v, Keyed.get? name n.properties = some v ∧ v ≠ .null ∧ numberOf? v = none ∧
        n.numberProperty name = .error (.notNumeric name v) := by
  unfold numberProperty
  rcases n.property_cases name with ⟨v, hv, hnull, h⟩ | ⟨hnull, h⟩
  · rw [h, hv]
    cases hx : numberOf? v with
    | some x => exact .inl ⟨v, x, rfl, hx, by simp [bind, Except.bind, hx]; rfl⟩
    | none => exact .inr (.inr ⟨v, rfl, hnull, hx, by simp [bind, Except.bind, hx]; rfl⟩)
  · rw [h]
    exact .inr (.inl ⟨hnull, rfl⟩)

lemma numberProperty_eq_ok_iff {n : Node} {name : String} {x : Single} :
    n.numberProperty name = .ok x ↔
      ∃ v, Keyed.get? name n.properties = some v ∧ numberOf? v = some x := by
  rcases n.numberProperty_cases name with ⟨v, y, hv, hy, h⟩ | ⟨hnull, h⟩ | ⟨v, hv, -, hnone, h⟩
  · simp [h, hv, hy]
  · rw [h]
    constructor
    · rintro ⟨⟩
    · rintro ⟨v, hv, hx⟩
      rw [hnull v hv] at hx
      cases hx
  · simp [h, hv, hnone]

end Properties

/-! ### Classification finds the meaning -/

section Classify

variable {n : Node} {kind : NodeKind} {err : FieldError}

/-- Tags of modules have no other meaning. -/
lemma bareTag_of_module {type : ModuleType} (h : ModuleType.ofTag? n.bareTag = some type) :
    (∀ d : Direction, n.bareTag ≠ d.mainTag) ∧ (∀ d : Direction, n.bareTag ≠ d.portTag) ∧
      n.bareTag ≠ "bus/add" := by
  have hne : ∀ tag, ModuleType.ofTag? tag = none → n.bareTag ≠ tag := by
    rintro tag hnone rfl
    rw [h] at hnone
    cases hnone
  exact ⟨fun d => hne _ (by cases d <;> rfl), fun d => hne _ (by cases d <;> rfl), hne _ rfl⟩

/-- The parameters of a module, or the first one that is lacking. -/
lemma moduleSpec_cases {type : ModuleType} (tag : ModuleType.ofTag? n.bareTag = some type) :
    (∃ values, n.Means (.processing ⟨type, values⟩) ∧ n.moduleSpec type = .ok ⟨type, values⟩) ∨
      ∃ err, n.Lacks err ∧ n.moduleSpec type = .error err := by
  cases hvalues : type.parameters.mapM n.numberProperty with
  | ok values =>
    have hparameters := (mapM_eq_ok_iff.mp hvalues).imp fun p x => numberProperty_eq_ok_iff.mp
    exact .inl ⟨values, .processing type values tag hparameters, by
      simp only [moduleSpec, hvalues]; rfl⟩
  | error err =>
    refine .inr ⟨err, ?_, by simp only [moduleSpec, hvalues]; rfl⟩
    obtain ⟨p, hp, h⟩ := exists_of_mapM_eq_error hvalues
    rcases n.numberProperty_cases p with ⟨v, x, -, -, h'⟩ | ⟨hnull, h'⟩ | ⟨v, hv, hv', hx, h'⟩
    · rw [h] at h'
      cases h'
    · rw [h] at h'
      cases h'
      exact .parameter type p tag hp hnull
    · rw [h] at h'
      cases h'
      exact .number type p v tag hp hv hv' hx

/-- What classification finds, and what it finds lacking. -/
lemma classify_cases (n : Node) :
    (∃ kind, n.Means kind ∧ n.classify = .ok kind) ∨
      ∃ err, n.Lacks err ∧ n.classify = .error err := by
  unfold classify
  split
  case h_1 tag =>
    rcases n.itemCount_cases "ids" with ⟨items, hitems, h⟩ | ⟨habsent, h⟩ <;> rw [h]
    · exact .inl ⟨_, .mainInputs items tag hitems, rfl⟩
    · exact .inr ⟨_, .ids .input tag habsent, rfl⟩
  case h_2 tag =>
    rcases n.itemCount_cases "ids" with ⟨items, hitems, h⟩ | ⟨habsent, h⟩ <;> rw [h]
    · exact .inl ⟨_, .mainOutputs items tag hitems, rfl⟩
    · exact .inr ⟨_, .ids .output tag habsent, rfl⟩
  case h_3 tag =>
    split
    · exact .inr ⟨_, .subgraph tag ‹_›, rfl⟩
    · exact .inr ⟨_, .title tag ‹_›, rfl⟩
    · exact .inl ⟨_, .busAdd _ _ tag ‹_› ‹_›, rfl⟩
  case h_4 tag =>
    rcases n.textProperty_cases "name" with ⟨name, hname, h⟩ | ⟨habsent, h⟩ <;> rw [h]
    · exact .inl ⟨_, .busInput name tag hname, rfl⟩
    · exact .inr ⟨_, .name .input tag habsent, rfl⟩
  case h_5 tag =>
    rcases n.textProperty_cases "name" with ⟨name, hname, h⟩ | ⟨habsent, h⟩ <;> rw [h]
    · exact .inl ⟨_, .busOutput name tag hname, rfl⟩
    · exact .inr ⟨_, .name .output tag habsent, rfl⟩
  -- no tag of the editor's own: a module, or a node that the engine has nothing for
  case h_6 hmi hmo hba hbi hbo =>
    cases htype : ModuleType.ofTag? n.bareTag with
    | none =>
      refine .inl ⟨_, .unsupported ?_ ?_ hba htype, rfl⟩
      · rintro (_ | _)
        · exact hmi
        · exact hmo
      · rintro (_ | _)
        · exact hbi
        · exact hbo
    | some type =>
      rcases moduleSpec_cases htype with ⟨values, hmeans, h⟩ | ⟨err, hlacks, h⟩
      · exact .inl ⟨_, hmeans, by simp only [h]; rfl⟩
      · exact .inr ⟨err, hlacks, by simp only [h]; rfl⟩

/-- Classification finds what a node means. -/
lemma Means.classify (h : n.Means kind) : n.classify = .ok kind := by
  unfold Node.classify
  cases h with
  | mainInputs items tag ids | mainOutputs items tag ids =>
    rcases n.itemCount_cases "ids" with ⟨items', hitems, h⟩ | ⟨habsent, -⟩
    · rw [ids] at hitems
      cases hitems
      simp only [tag, h]
      rfl
    · exact (habsent items ids).elim
  | busAdd title inside tag subgraph titled => simp only [tag, subgraph, titled]
  | busInput name tag named | busOutput name tag named =>
    rcases n.textProperty_cases "name" with ⟨name', hname, h⟩ | ⟨habsent, -⟩
    · rw [named] at hname
      cases hname
      simp only [tag, h]
      rfl
    · exact (habsent name named).elim
  | processing type values tag parameters =>
    -- the tag of a module is none of the others, so the last branch is taken
    obtain ⟨hmain, hport, hbus⟩ := bareTag_of_module tag
    have hvalues : type.parameters.mapM n.numberProperty = .ok values :=
      mapM_eq_ok_iff.mpr (parameters.imp fun p x => numberProperty_eq_ok_iff.mpr)
    split
    case h_6 =>
      simp only [tag, moduleSpec, hvalues]
      rfl
    case h_1 h => exact (hmain .input h).elim
    case h_2 h => exact (hmain .output h).elim
    case h_3 h => exact (hbus h).elim
    case h_4 h => exact (hport .input h).elim
    case h_5 h => exact (hport .output h).elim
  | unsupported main port bus module =>
    split
    case h_6 => simp only [module]
    case h_1 h => exact (main .input h).elim
    case h_2 h => exact (main .output h).elim
    case h_3 h => exact (bus h).elim
    case h_4 h => exact (port .input h).elim
    case h_5 h => exact (port .output h).elim

/-- A node is classified as what it means, and as nothing else. -/
theorem classify_eq_ok_iff : n.classify = .ok kind ↔ n.Means kind := by
  refine ⟨fun hc => ?_, Means.classify⟩
  rcases n.classify_cases with ⟨kind', h, hc'⟩ | ⟨err, -, hc'⟩
  · rw [hc] at hc'
    cases hc'
    exact h
  · rw [hc] at hc'
    cases hc'

lemma Means.unique {kind' : NodeKind} (h : n.Means kind) (h' : n.Means kind') : kind = kind' :=
  Except.ok.inj (h.classify.symm.trans h'.classify)

/-- The error of a node that is not classified names what the node lacks. -/
theorem lacks_of_classify (hc : n.classify = .error err) : n.Lacks err := by
  rcases n.classify_cases with ⟨kind, -, hc'⟩ | ⟨err', h, hc'⟩
  · rw [hc] at hc'
    cases hc'
  · rw [hc] at hc'
    cases hc'
    exact h

/-! ### Meanings by their tags -/

namespace Means

/-- A node is a port of a bus by its tag, and has its name among the properties. -/
lemma passThrough?_eq_some_iff (h : n.Means kind) {d : Direction} {name : String} :
    kind.passThrough? d = some name ↔
      n.bareTag = d.portTag ∧ Keyed.get? "name" n.properties = some (.string name) := by
  cases h with
  | mainInputs _ tag | mainOutputs _ tag | busAdd _ _ tag =>
    cases d <;> simp [NodeKind.passThrough?, Direction.portTag, tag]
  | busInput name' tag named | busOutput name' tag named =>
    cases d <;> simp [NodeKind.passThrough?, Direction.portTag, tag, named]
  | processing _ _ tag => simp [NodeKind.passThrough?, (bareTag_of_module tag).2.1 d]
  | unsupported _ port => simp [NodeKind.passThrough?, port d]

lemma isSome_passThrough?_iff (h : n.Means kind) {d : Direction} :
    (kind.passThrough? d).isSome ↔ n.bareTag = d.portTag := by
  cases h with
  | mainInputs _ tag | mainOutputs _ tag | busAdd _ _ tag | busInput _ tag | busOutput _ tag =>
    cases d <;> simp [NodeKind.passThrough?, Direction.portTag, tag]
  | processing _ _ tag => simp [NodeKind.passThrough?, (bareTag_of_module tag).2.1 d]
  | unsupported _ port => simp [NodeKind.passThrough?, port d]

lemma exists_busAdd_iff (h : n.Means kind) :
    (∃ title, kind = .busAdd title) ↔ n.bareTag = "bus/add" := by
  cases h with
  | mainInputs _ tag | mainOutputs _ tag | busAdd _ _ tag | busInput _ tag | busOutput _ tag =>
    simp [tag]
  | processing _ _ tag => simp [(bareTag_of_module tag).2.2]
  | unsupported _ _ bus => simp [bus]

end Means

/-- A node has the fields that its tag asks for. -/
structure Complete (n : Node) : Prop where
  ids : ∀ d : Direction, n.bareTag = d.mainTag →
    ∃ items, Keyed.get? "ids" n.properties = some (.array items)
  bus : n.bareTag = "bus/add" → n.subgraph.isSome ∧ n.title.isSome
  name : ∀ d : Direction, n.bareTag = d.portTag →
    ∃ name, Keyed.get? "name" n.properties = some (.string name)
  parameters : ∀ type, ModuleType.ofTag? n.bareTag = some type → ∀ p ∈ type.parameters,
    ∃ v, Keyed.get? p n.properties = some v ∧
      ((∃ x, v = .number x) ∨ ∃ s, v = .string s ∧ (Binary.ofText? s : Option Single).isSome)

/-- A value stands for a number if it is one, or a text that can be read as one. -/
lemma isSome_numberOf?_iff {v : Json} : (numberOf? v).isSome ↔
    (∃ x, v = .number x) ∨ ∃ s, v = .string s ∧ (Binary.ofText? s : Option Single).isSome := by
  cases v <;> simp [numberOf?]

/-- What means something has all that its tag asks for. -/
lemma Means.complete (h : n.Means kind) : n.Complete := by
  cases h with
  | mainInputs items tag ids | mainOutputs items tag ids =>
    refine ⟨fun _ _ => ⟨items, ids⟩, by simp [tag], ?_, ?_⟩
    · rintro (_ | _) <;> simp [tag, Direction.portTag]
    · intro type htype
      rw [tag] at htype
      cases htype
  | busAdd title inside tag subgraph titled =>
    refine ⟨?_, fun _ => by simp [subgraph, titled], ?_, ?_⟩
    · rintro (_ | _) <;> simp [tag, Direction.mainTag]
    · rintro (_ | _) <;> simp [tag, Direction.portTag]
    · intro type htype
      rw [tag] at htype
      cases htype
  | busInput name tag named | busOutput name tag named =>
    refine ⟨?_, by simp [tag], fun _ _ => ⟨name, named⟩, ?_⟩
    · rintro (_ | _) <;> simp [tag, Direction.mainTag]
    · intro type htype
      rw [tag] at htype
      cases htype
  | processing type values tag parameters =>
    obtain ⟨hmain, hport, hbus⟩ := bareTag_of_module tag
    refine ⟨fun d h => (hmain d h).elim, fun h => (hbus h).elim, fun d h => (hport d h).elim, ?_⟩
    intro type' htype p hp
    -- a tag names one type of module
    obtain rfl : type = type' := Option.some.inj (tag.symm.trans htype)
    obtain ⟨x, -, v, hv, hx⟩ := forall₂_exists_right parameters hp
    exact ⟨v, hv, isSome_numberOf?_iff.mp (by simp [hx])⟩
  | unsupported main port bus module =>
    refine ⟨fun d h => (main d h).elim, fun h => (bus h).elim, fun d h => (port d h).elim, ?_⟩
    intro type htype
    rw [module] at htype
    cases htype

/-- Nothing that a node lacks can be had from it, so it does not have all that its tag asks for. -/
lemma Lacks.not_complete (h : n.Lacks err) : ¬ n.Complete := by
  intro hn
  cases h with
  | ids d tag absent =>
    obtain ⟨items, hitems⟩ := hn.ids d tag
    exact absent items hitems
  | subgraph tag absent => simpa [absent] using (hn.bus tag).1
  | title tag absent => simpa [absent] using (hn.bus tag).2
  | name d tag absent =>
    obtain ⟨name, hname⟩ := hn.name d tag
    exact absent name hname
  | parameter type p tag asked absent =>
    obtain ⟨v, hv, hvalue⟩ := hn.parameters type tag p asked
    rw [absent v hv] at hvalue
    simp at hvalue
  | number type p v tag asked value null text =>
    obtain ⟨v', hv, hvalue⟩ := hn.parameters type tag p asked
    obtain rfl : v = v' := Option.some.inj (value.symm.trans hv)
    simpa [text] using isSome_numberOf?_iff.mpr hvalue

/-- The nodes that mean something are those that have what their tag asks for. -/
theorem exists_means_iff : (∃ kind, n.Means kind) ↔ n.Complete := by
  constructor
  · rintro ⟨kind, h⟩
    exact h.complete
  · intro hn
    rcases n.classify_cases with ⟨kind, h, -⟩ | ⟨err, h, -⟩
    · exact ⟨kind, h⟩
    · exact (h.not_complete hn).elim

end Classify

end Node

/-- A link of a document touches a node that the engine knows nothing like. -/
def Document.LeavesOut (m : Document) (l : Link) : Prop :=
  ∃ n ∈ m.nodes, (n.id = l.originId ∨ n.id = l.targetId) ∧ ∃ tag, n.Means (.unsupported tag)

instance (n : Node) : Decidable (∃ tag, n.Means (.unsupported tag)) :=
  match h : n.classify with
  | .ok (.unsupported tag) => isTrue ⟨tag, Node.classify_eq_ok_iff.mp h⟩
  | .ok (.mainInputs _) | .ok (.mainOutputs _) | .ok (.busAdd _) | .ok (.busInput _)
  | .ok (.busOutput _) | .ok (.processing _) | .error _ =>
    isFalse fun ⟨_, hmeans⟩ => nomatch h.symm.trans hmeans.classify

instance (m : Document) (l : Link) : Decidable (m.LeavesOut l) :=
  inferInstanceAs (Decidable (∃ n ∈ m.nodes, _))

end Patchbay
