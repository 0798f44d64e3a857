import Mathlib
import Patchbay.Proofs.Annotate.Again
import Patchbay.Proofs.Document.Written
import Patchbay.Proofs.Graph.Flattening

/-!
# Written documents and their ids

Ids are strings, and there is room for them: an array of ids takes the place of an array that the
node has to have, or stands no deeper than the nodes of the subgraph that a bus has to have. So a
document is read again from its text with the ids of a compilation or without them.
-/

namespace Patchbay

open Json (Number Members)

variable {N : Number → Prop} {k : Nat}

/-! ### Slots and links -/

/-- An id is a text, for which there is always room. -/
lemma fillSlots_stored {slots : List PortSlot} (h : ∀ s ∈ slots, s.Stored N k)
    (ids : List (Option String)) : ∀ s ∈ fillSlots slots ids, s.Stored N k := by
  fun_induction fillSlots slots ids with
  | case1 slot slots id ids ih =>
    obtain ⟨hslot, hslots⟩ := List.forall_mem_cons.mp h
    refine List.forall_mem_cons.mpr ⟨?_, ih hslots⟩
    cases hslot with | intro _ extra
    refine .intro ?_ extra
    rintro v ⟨⟩
    exact ⟨by rintro ⟨⟩, .string id⟩
  | case2 slot slots ids ih =>
    obtain ⟨hslot, hslots⟩ := List.forall_mem_cons.mp h
    exact List.forall_mem_cons.mpr ⟨hslot, ih hslots⟩
  | case3 slots => exact h
  | case4 ids => exact h

lemma Link.Stored.connect {l : Link} (h : l.Stored N k) (id : String) :
    ({ l with connectionId := .string id } : Link).Stored N k := by
  obtain ⟨hid, horiginId, htargetId, htuple⟩ := h
  refine ⟨hid, horiginId, htargetId, ?_⟩
  cases htuple with | array items
  simp only [List.forall_mem_cons] at items
  obtain ⟨h₁, h₂, h₃, h₄, h₅, h₆, -, htrailing⟩ := items
  refine .array ?_
  simp only [List.forall_mem_cons]
  exact ⟨h₁, h₂, h₃, h₄, h₅, h₆, .string id, htrailing⟩

/-- The id of a connection stands where there was an element before. -/
lemma annotateLinks_stored {b : Bindings} {level : Nat} {links : List Link}
    (h : ∀ l ∈ links, l.Stored N k) (index : Nat) :
    ∀ l ∈ annotateLinks b level index links, l.Stored N k := by
  induction links generalizing index with
  | nil => exact h
  | cons l links ih =>
    obtain ⟨hl, hlinks⟩ := List.forall_mem_cons.mp h
    rw [annotateLinks]
    refine List.forall_mem_cons.mpr ⟨?_, ih hlinks (index + 1)⟩
    cases b.connection? level index with
    | none => exact hl
    | some id => exact hl.connect id

/-! ### Nodes -/

lemma ofStrings_stored (texts : List String) : (Json.ofStrings texts).Stored N (k + 1) :=
  .array (List.forall_mem_map.mpr fun s _ => .string s)

variable {g : Graph} {b : Bindings} {l : Level} {v : GraphNode} {n : Node}

/-- A node has room for the ids that it is bound to among its properties. -/
lemma Node.Means.properties_stored {level : Nat} (h : n.Means v.kind)
    (hb : v.BoundTo l (b.node? ⟨level, n.id⟩)) (hn : n.Stored N (k + 2)) :
    Members.Stored N [] k (b.properties ⟨level, n.id⟩ n.properties) := by
  cases hn with | intro _ _ hproperties hsubgraph
  -- an array of ids needs a level below the properties
  have hids : ∀ items, Keyed.get? "ids" n.properties = some (.array items) → ∃ j, k = j + 1 := by
    intro items hitems
    cases hproperties.values _ (Keyed.mem_of_get? "ids" _ _ hitems)
    exact ⟨_, rfl⟩
  have hid : ∀ id, Members.Stored N [] k (Keyed.insert "id" (.string id) n.properties) :=
    fun id => hproperties.insert List.not_mem_nil (.string id)
  unfold Bindings.properties
  unfold GraphNode.BoundTo at hb
  generalize v.kind = kind at h hb
  cases h with
  | mainInputs items tag ids | mainOutputs items tag ids =>
    obtain ⟨texts, hx, -⟩ := hb
    obtain ⟨j, rfl⟩ := hids items ids
    rw [hx]
    exact hproperties.insert List.not_mem_nil (ofStrings_stored texts)
  | busAdd title inside tag subgraph titled =>
    obtain ⟨id, inputs, outputs, hx⟩ := hb
    obtain ⟨j, rfl⟩ : ∃ j, k = j + 1 := by
      cases hsubgraph inside subgraph
      exact ⟨_, rfl⟩
    rw [hx]
    exact ((hid id).insert List.not_mem_nil (ofStrings_stored inputs)).insert List.not_mem_nil
      (ofStrings_stored outputs)
  | busInput name tag named | busOutput name tag named =>
    cases hparent : l.parent <;> simp only [hparent] at hb
    · rwa [hb]
    · obtain ⟨bus, port, hx⟩ := hb
      rw [hx]
      exact hid port
  | processing type values tag parameters =>
    obtain ⟨bus, ids, hx⟩ := hb
    rw [hx]
    exact hid ids.id
  | unsupported main port bus module => rwa [hb]

/-- A node is kept in order with the ids that it is bound to, if its subgraph is. -/
lemma Node.Stored.annotate {level : Nat} (hn : n.Stored N k) (h : n.Means v.kind)
    (hb : v.BoundTo l (b.node? ⟨level, n.id⟩))
    (hsub : ∀ c j, n.subgraph = some c → c.Stored N j →
      ∀ c', Document.annotateChild g b (g.childLevel? ⟨level, n.id⟩) (some c) = some c' →
        c'.Stored N j) : (n.annotate g b level).Stored N k := by
  obtain ⟨k, rfl⟩ : ∃ j, k = j + 2 := by
    cases hn
    exact ⟨_, rfl⟩
  have hproperties := h.properties_stored hb hn
  rw [annotate_eq_with]
  cases hn with | intro hid hnumber _ hsubgraph hinputs houtputs hextra
  refine .intro hid hnumber hproperties ?_ ?_ ?_ hextra
  · intro c' hc'
    cases hc : n.subgraph with
    | none =>
      rw [hc, Document.annotateChild] at hc'
      cases hc'
    | some c =>
      rw [hc] at hc'
      exact hsub c _ hc (hsubgraph c hc) c' hc'
  · intro slots hslots
    obtain ⟨ss, hss, rfl⟩ := Option.map_eq_some_iff.mp hslots
    exact fillSlots_stored (hinputs ss hss) _
  · intro slots hslots
    obtain ⟨ss, hss, rfl⟩ := Option.map_eq_some_iff.mp hslots
    exact fillSlots_stored (houtputs ss hss) _

/-! ### Documents -/

/-- A level of a built document is kept in order with the ids of all there is in the graph. -/
theorem Document.Stored.annotateLevel (hg : g.WellFormed) (hb : b.Complete g)
    {pairs : List (Document × Level)}
    (hpairs : ∀ m l, (m, l) ∈ pairs → l ∈ g.levels ∧ l.Unfolds pairs m) {d : Document}
    (h : d.Stored N k) (hd : (d, l) ∈ pairs) : (d.annotateLevel g b l.id).Stored N k := by
  -- on the document, as the room for a subgraph is that of the level in it
  induction d using Document.induction generalizing k l with
  | step d ih =>
    obtain ⟨hl, hunfolds⟩ := hpairs d l hd
    obtain ⟨nodes, links, busId, extra⟩ := d
    cases h with | intro hnodes hlinks hextra
    rw [Document.annotateLevel, Node.annotateList_eq_map]
    refine .intro (List.forall_mem_map.mpr fun n hn => ?_) (annotateLinks_stored hlinks 0) hextra
    obtain ⟨v, hv, hshows⟩ := forall₂_exists_right hunfolds.nodes hn
    have hmeans := Node.classify_eq_ok_iff.mp hshows.kind
    have hbound := hb.node l hl v hv
    rw [hshows.key] at hbound
    refine (hnodes n hn).annotate hmeans hbound fun c j hc hstored c' hc' => ?_
    rw [← hshows.key, hg.childLevel?_of_mem hl hv] at hc'
    cases hchild : v.child with
    | none =>
      rw [hchild, Option.map_none, annotateChild] at hc'
      cases hc'
      exact hstored
    | some m =>
      rw [hchild, Option.map_some, annotateChild] at hc'
      cases hc'
      obtain ⟨s, hs, hmem⟩ := hshows.child m hchild
      obtain rfl : c = s := Option.some.inj (hc.symm.trans hs)
      exact ih n hn c hc hstored hmem

/-- A document is kept in order with the ids of a compilation of its graph. -/
lemma Document.Stored.annotate {d : Document} (h : d.Stored N k) (hd : Graph.build d = .ok g)
    (hb : b.Complete g) : (d.annotate g b).Stored N k := by
  have hg := Graph.build_wellFormed hd
  obtain ⟨hroot, hpairs⟩ := Graph.build_unfolds hd
  have hannotated := h.annotateLevel hg hb hpairs hroot
  rwa [hg.root_id] at hannotated

/-! ### Texts -/

/-- What a text is read as is read again, with the ids of a compilation or without them, from the
text that is written for it, and the same is written for it again. Of the numbers only this is
needed, that the floating-point ones are read back from their own text. -/
theorem Document.text_reads_back {text : String} {d : Document} (h : parse text = .ok d)
    (hfloats : ∀ x ∈ d.toJson.floats, (Number.float x).ReadsBack) :
    (parse d.text = .ok d ∧ (parse d.text).map Document.text = .ok d.text) ∧
      ∀ g, Graph.build d = .ok g →
        ∀ (σ : Type) (engine : Engine σ) (state : σ) (c : Compilation),
          (compile engine g state).1 = .ok c →
          parse (d.annotate g c.bindings).text = .ok (d.annotate g c.bindings) ∧
            (parse (d.annotate g c.bindings).text).map Document.text
              = .ok (d.annotate g c.bindings).text := by
  have hagain : ∀ {d' : Document}, d'.Stored Number.ReadsBack Json.Reading.maxDepth →
      parse d'.text = .ok d' ∧ (parse d'.text).map Document.text = .ok d'.text := by
    intro d' hd'
    have hparse := hd'.parse_text
    exact ⟨hparse, by rw [hparse]; rfl⟩
  have hstored := stored_of_parse h hfloats
  refine ⟨hagain hstored, fun g hbuild σ engine state c hc => hagain ?_⟩
  exact hstored.annotate hbuild (compile_complete (Graph.build_wellFormed hbuild) hc)

/-- A document whose second node has no properties, with a number that the graph does not need. -/
def note : Document where
  nodes :=
    [⟨1, "main/inputs", none, [("ids", .array [.null])], none, none, none, []⟩,
      ⟨-2, "note", none, [], none, none, none, []⟩]
  links := []
  busId := none
  extra := [("zoom", .number (.float ⟨false, 0x3ff8000000000000⟩))]

/-- Its members in another order. -/
def noteJson : Json :=
  .object [("zoom", .number (.float ⟨false, 0x3ff8000000000000⟩)), ("links", .array []),
    ("nodes", .array
      [.object [("type", .string "main/inputs"), ("id", .ofInt 1),
          ("properties", .object [("ids", .array [.null])])],
        .object [("title", .null), ("type", .string "note"), ("id", .ofInt (-2))]])]

/-- A text of it that is not indented. -/
def noteText : String :=
  "\x7b\n\"zoom\": 1.5,\n\"links\": [],\n\"nodes\": [\n" ++
    "\x7b\n\"type\": \"main/inputs\",\n\"id\": 1,\n\"properties\": \x7b\n\"ids\": [\nnull\n]\n\x7d\n\x7d,\n" ++
    "\x7b\n\"title\": null,\n\"type\": \"note\",\n\"id\": -2\n\x7d\n]\n\x7d"

lemma note_zoom_readsBack : (Number.float ⟨false, 0x3ff8000000000000⟩).ReadsBack := by
  unfold Number.ReadsBack
  decide +kernel

/-- The text is read although it is not indented and its members are in another order. -/
lemma noteText_parse : Document.parse noteText = .ok note := by
  have htext : noteText = noteJson.indented 0 := by decide +kernel
  have hone : (Json.ofInt 1).Within Number.ReadsBack 124 :=
    .number (Number.readsBack_of_inRange ⟨by decide, by decide⟩)
  have htwo : (Json.ofInt (-2)).Within Number.ReadsBack 124 :=
    .number (Number.readsBack_of_inRange ⟨by decide, by decide⟩)
  have hproperties : (Json.object [("ids", .array [.null])]).Within Number.ReadsBack 124 :=
    .object (List.forall_mem_singleton.mpr (.array (List.forall_mem_singleton.mpr .null)))
  have hwithin : noteJson.Within Number.ReadsBack Json.Reading.maxDepth := by
    unfold noteJson
    refine .object (List.forall_mem_cons.mpr ⟨.number note_zoom_readsBack, ?_⟩)
    refine List.forall_mem_cons.mpr ⟨.array (by simp), List.forall_mem_singleton.mpr (.array ?_)⟩
    refine List.forall_mem_cons.mpr ⟨.object ?_, List.forall_mem_singleton.mpr (.object ?_)⟩
    · simp [hone, hproperties, Json.Within.string]
    · simp [htwo, Json.Within.string, Json.Within.null]
  rw [Document.parse_eq_ok_iff, htext, Json.read_indented hwithin]
  exact ⟨by cbv, rfl⟩

theorem noteText_reads_back : ∃ g c, Document.parse noteText = .ok note ∧
    note.toJson.floats = [⟨false, 0x3ff8000000000000⟩] ∧ Graph.build note = .ok g ∧
    (compile (uniformEngine "a") g ()).1 = .ok c ∧ Document.parse note.text = .ok note ∧
    Document.parse (note.annotate g c.bindings).text = .ok (note.annotate g c.bindings) := by
  obtain ⟨g, hbuild, c, hc⟩ : ∃ g, Graph.build note = .ok g ∧
      ∃ c, (compile (uniformEngine "a") g ()).1 = .ok c := ⟨_, rfl, _, rfl⟩
  have hfloats : note.toJson.floats = [⟨false, 0x3ff8000000000000⟩] := rfl
  have hagain := Document.text_reads_back noteText_parse (by simp [hfloats, note_zoom_readsBack])
  exact ⟨g, c, noteText_parse, hfloats, hbuild, hc, hagain.1.1,
    (hagain.2 g hbuild Unit (uniformEngine "a") () c hc).1⟩

end Patchbay
