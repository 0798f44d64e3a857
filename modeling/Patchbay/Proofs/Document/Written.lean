import Patchbay.Proofs.Document.Stored

/-!
# Written documents are read again

The text that is written for a document that was read is read as this document: all fields that were
written are found again, and the members of other names are in the order in which they were
written.
-/

namespace Patchbay

open Json (Number Reading ReadError Members once required)

variable {N : Number → Prop} {k : Nat}

lemma Node.listToJson_eq_map (ns : List Node) : listToJson ns = ns.map toJson := by
  induction ns with
  | nil => rw [listToJson, List.map_nil]
  | cons n ns ih => rw [listToJson, ih, List.map_cons]

lemma Document.toJson?_eq_map (d : Option Document) : toJson? d = d.map toJson := by
  cases d <;> rw [toJson?] <;> rfl

/-! ### What is written -/

lemma Json.forall_mem_field {name : String} {value : Option Json} {p : String × Json → Prop} :
    (∀ m ∈ field name value, p m) ↔ ∀ v, value = some v → p (name, v) := by
  cases value <;> simp [field]

lemma PortSlot.Stored.within {s : PortSlot} (h : s.Stored N k) : s.toJson.Within N k := by
  cases h with | intro id extra
  refine .object (List.forall_mem_append.mpr ⟨?_, fun m hm => (extra.values m hm).within⟩)
  refine List.forall_mem_cons.mpr ⟨.string _, Json.forall_mem_field.mpr fun v hv => ?_⟩
  exact (id v hv).2.within

lemma slots_within {slots : Option (List PortSlot)}
    (h : ∀ ss, slots = some ss → ∀ s ∈ ss, s.Stored N k) :
    ∀ v, slotsToJson slots = some v → v.Within N (k + 1) := by
  intro v hv
  obtain ⟨ss, hss, rfl⟩ := Option.map_eq_some_iff.mp hv
  exact .array (List.forall_mem_map.mpr fun s hs => (h ss hss s hs).within)

/-- A node is written within the bounds in which it was read. -/
lemma Node.Stored.within {n : Node} (h : n.Stored N k)
    (hsub : ∀ c, n.subgraph = some c → ∀ j, c.Stored N j → c.toJson.Within N j) :
    n.toJson.Within N k := by
  obtain ⟨id, type, title, properties, subgraph, inputs, outputs, extra⟩ := n
  cases h with | intro id number properties subgraph inputs outputs extra
  rw [toJson]
  refine .object ?_
  simp only [List.forall_mem_append, List.forall_mem_cons, Json.forall_mem_field]
  refine ⟨⟨⟨⟨⟨.number number, .string _, ?_⟩, ?_, ?_⟩, slots_within inputs⟩, slots_within outputs⟩,
    fun m hm => (extra.values m hm).within⟩
  · intro v hv
    obtain ⟨t, -, rfl⟩ := Option.map_eq_some_iff.mp hv
    exact .string t
  · exact .object fun m hm => (properties.values m hm).within
  · intro v hv
    rw [Document.toJson?_eq_map] at hv
    obtain ⟨c, hc, rfl⟩ := Option.map_eq_some_iff.mp hv
    exact hsub c hc _ (subgraph c hc)

/-- A document is written within the bounds in which it was read. -/
theorem Document.Stored.within {d : Document} (h : d.Stored N k) : d.toJson.Within N k := by
  induction d using Document.induction generalizing k with
  | step d ih =>
    obtain ⟨nodes, links, busId, extra⟩ := d
    cases h with | intro nodes links extra
    rw [Document.toJson]
    refine .object ?_
    simp only [List.forall_mem_append, List.forall_mem_cons, Json.forall_mem_field]
    refine ⟨⟨.array ?_, .array ?_, ?_⟩, fun m hm => (extra.values m hm).within⟩
    · rw [Node.listToJson_eq_map]
      exact List.forall_mem_map.mpr fun n hn => (nodes n hn).within fun c hc j => ih n hn c hc
    · exact List.forall_mem_map.mpr fun l hl => (links l hl).tuple.within
    · intro v hv
      obtain ⟨t, -, rfl⟩ := Option.map_eq_some_iff.mp hv
      exact .string t

/-! ### What is read of it -/

lemma Json.memberReadings_append (ms ms' : List (String × Json)) :
    memberReadings (ms ++ ms') = memberReadings ms ++ memberReadings ms' := by
  simp only [memberReadings_eq_map, List.map_append]

/-- The members of other names are kept in the order of their keys. -/
lemma Json.Members.Stored.ofList_eq {declared : List String} {ms : Members}
    (h : Members.Stored N declared k ms) : Keyed.ofList ms = ms := h.keys.ofList_eq

lemma Json.reading_eq_null {v : Json} (h : v.reading = .null) : v = .null := by
  cases v <;> rw [reading] at h <;> cases h

lemma Json.Reading.optional_eq_ok {α : Type} {read : Reading → Except ReadError α} {r : Reading}
    {a : α} (hr : r ≠ .null) (h : read r = .ok a) : r.optional read = .ok (some a) := by
  unfold optional
  split
  · exact (hr rfl).elim
  · rw [h]
    rfl

/-- Items that are read again one by one are read again as a list. -/
lemma Json.mapM_itemReadings {α : Type} {read : Reading → Except ReadError α} {write : α → Json}
    {xs : List α} (h : ∀ x ∈ xs, read (write x).reading = .ok x) :
    (itemReadings (xs.map write)).mapM read = .ok xs := by
  rw [itemReadings_eq_map, mapM_eq_ok_iff, List.map_map, List.forall₂_map_left_iff,
    List.forall₂_same]
  exact h

/-! ### Port slots -/

namespace PortSlot

/-- Members are read one after the other, so a part of them can be read first. -/
lemma Draft.addAll_append {rs rs' : List (String × Reading)} {d d' : Draft}
    (h : d.addAll rs = .ok d') : d.addAll (rs ++ rs') = d'.addAll rs' := by
  induction rs generalizing d with
  | nil =>
    cases h
    rfl
  | cons r rs ih =>
    rw [addAll] at h
    rw [List.cons_append, addAll]
    split_ifs at h ⊢ <;>
    · obtain ⟨x, hx, h⟩ := bind_eq_ok_iff.mp h
      rw [← ih h, hx]
      rfl

/-- Members of other names are kept in their order. -/
lemma Draft.addAll_extra {ms : Members} (h : Members.Stored N fields k ms) (d : Draft) :
    d.addAll (Json.memberReadings ms) = .ok { d with extra := d.extra ++ ms } := by
  have hms := fun m hm => And.intro (h.undeclared m hm) (h.values m hm).json_reading
  clear h
  induction ms generalizing d with
  | nil =>
    rw [Json.memberReadings, addAll, List.append_nil]
  | cons m ms ih =>
    obtain ⟨key, v⟩ := m
    obtain ⟨⟨hkey, hv⟩, hms⟩ := List.forall_mem_cons.mp hms
    simp only [fields, List.mem_cons, List.not_mem_nil, or_false, not_or] at hkey
    rw [Json.memberReadings, addAll, if_neg hkey.1, if_neg hkey.2, hv]
    exact (ih _ hms).trans (by rw [List.append_assoc]; rfl)

lemma Draft.addAll_id {v : Option Json} (h : ∀ w, v = some w → w ≠ .null ∧ w.Stored N k) {d : Draft}
    (hd : d.id = none) :
    d.addAll (Json.memberReadings (Json.field "id" v)) = .ok { d with id := v.map some } := by
  obtain ⟨name, id, extra⟩ := d
  subst hd
  cases v with
  | none => rfl
  | some w =>
    obtain ⟨hnull, hw⟩ := h w rfl
    have hread := Json.Reading.optional_eq_ok (fun hr => hnull (Json.reading_eq_null hr))
      hw.json_reading
    simp only [Json.field, Option.map_some, Option.toList_some, Json.memberReadings]
    rw [addAll, if_neg (by decide), if_pos rfl, hread]
    rfl

/-- A port slot that is written is read again. -/
lemma ofReading_toJson {s : PortSlot} (h : s.Stored N k) : ofReading s.toJson.reading = .ok s := by
  cases h with | intro id extra
  obtain ⟨name, v, rest⟩ := s
  have hname : Draft.addAll {} (Json.memberReadings [("name", .string name)])
      = .ok { name := some name } := by
    simp only [Json.memberReadings, Json.reading, Draft.addAll]
    rfl
  have hdraft : Draft.addAll {} (Json.memberReadings
      ([("name", .string name)] ++ Json.field "id" v ++ rest))
        = .ok { name := some name, id := v.map some, extra := rest } := by
    rw [List.append_assoc, Json.memberReadings_append, Json.memberReadings_append,
      Draft.addAll_append hname, Draft.addAll_append (Draft.addAll_id id rfl),
      Draft.addAll_extra extra]
    rfl
  have hid : (v.map some).join = v := by cases v <;> rfl
  rw [toJson, Json.reading, ofReading]
  refine bind_eq_ok_iff.mpr ⟨_, hdraft, bind_eq_ok_iff.mpr ⟨(), rfl, ?_⟩⟩
  refine bind_eq_ok_iff.mpr ⟨name, rfl, ?_⟩
  simp only [hid, extra.ofList_eq]
  rfl

end PortSlot

/-- Slots that are written are read again. -/
lemma slotsOfReading_toJson {slots : List PortSlot} (h : ∀ s ∈ slots, s.Stored N k) :
    slotsOfReading (Json.array (slots.map PortSlot.toJson)).reading = .ok slots := by
  have hslots := Json.mapM_itemReadings fun s hs => PortSlot.ofReading_toJson (h s hs)
  rw [Json.reading, slotsOfReading, hslots]
  rfl

/-! ### Links -/

namespace Link

lemma integerField_ofInt {i : Int} (h : i < signedWordBound) (name : String) :
    integerField name (.ofInt i) = .ok i := by
  simp only [integerField, Json.ofInt, Json.Number.signed?, if_pos h]

lemma slotField_ofNat (i : Nat) (name : String) : slotField name (.ofNat i) = .ok i := by
  have hi : (0 : Int) ≤ i := by omega
  simp only [slotField, Json.ofNat, Json.ofInt, Json.Number.unsigned?, if_pos hi]
  rfl

/-- A link that is written is read again. -/
lemma ofReading_toJson {l : Link} (h : l.Stored N k) : ofReading l.toJson.reading = .ok l := by
  obtain ⟨id, originId, originSlot, targetId, targetSlot, typeTag, connectionId, trailing⟩ := l
  have hsequence := Json.Reading.sequence_eq_ok_iff.mpr h.tuple.json_reading
  refine bind_eq_ok_iff.mpr ⟨_, hsequence, mapError_eq_ok_iff.mpr ?_⟩
  rw [ofTuple]
  refine bind_eq_ok_iff.mpr ⟨_, integerField_ofInt h.id "id", ?_⟩
  refine bind_eq_ok_iff.mpr ⟨_, integerField_ofInt h.originId "origin_id", ?_⟩
  refine bind_eq_ok_iff.mpr ⟨_, slotField_ofNat originSlot "origin_slot", ?_⟩
  refine bind_eq_ok_iff.mpr ⟨_, integerField_ofInt h.targetId "target_id", ?_⟩
  exact bind_eq_ok_iff.mpr ⟨_, slotField_ofNat targetSlot "target_slot", rfl⟩

end Link

lemma linksOfReading_toJson {links : List Link} (h : ∀ l ∈ links, l.Stored N k) :
    linksOfReading (Json.array (links.map Link.toJson)).reading = .ok links := by
  have hlinks := Json.mapM_itemReadings fun l hl => Link.ofReading_toJson (h l hl)
  rw [Json.reading, linksOfReading, hlinks]
  rfl

/-! ### Nodes -/

namespace Node

lemma Draft.addAll_append {rs rs' : List (String × Reading)} {d d' : Draft}
    (h : d.addAll rs = .ok d') : d.addAll (rs ++ rs') = d'.addAll rs' := by
  induction rs generalizing d with
  | nil =>
    rw [addAll] at h
    cases h
    rfl
  | cons r rs ih =>
    rw [addAll] at h
    rw [List.cons_append, addAll]
    split_ifs at h ⊢ <;>
    · obtain ⟨x, hx, h⟩ := bind_eq_ok_iff.mp h
      rw [← ih h, hx]
      rfl

/-- Members of other names are kept in their order. -/
lemma Draft.addAll_extra {ms : Members} (h : Members.Stored N fields k ms) (d : Draft) :
    d.addAll (Json.memberReadings ms) = .ok { d with extra := d.extra ++ ms } := by
  have hms := fun m hm => And.intro (h.undeclared m hm) (h.values m hm).json_reading
  clear h
  induction ms generalizing d with
  | nil =>
    rw [Json.memberReadings, addAll, List.append_nil]
  | cons m ms ih =>
    obtain ⟨key, v⟩ := m
    obtain ⟨⟨hkey, hv⟩, hms⟩ := List.forall_mem_cons.mp hms
    simp only [fields, List.mem_cons, List.not_mem_nil, or_false, not_or] at hkey
    obtain ⟨hid, htype, htitle, hproperties, hsubgraph, hinputs, houtputs⟩ := hkey
    rw [Json.memberReadings, addAll, if_neg hid, if_neg htype, if_neg htitle, if_neg hproperties,
      if_neg hsubgraph, if_neg hinputs, if_neg houtputs, hv]
    exact (ih _ hms).trans (by rw [List.append_assoc]; rfl)

lemma Draft.addAll_title (title : Option String) {d : Draft} (hd : d.title = none) :
    d.addAll (Json.memberReadings (Json.field "title" (title.map .string)))
      = .ok { d with title := title.map some } := by
  obtain ⟨id, type, title', properties, subgraph, inputs, outputs, extra⟩ := d
  subst hd
  cases title with
  | none =>
    simp only [Json.field, Option.map_none, Option.toList_none, Json.memberReadings]
    rw [addAll]
  | some t =>
    simp only [Json.field, Option.map_some, Option.toList_some, Json.memberReadings, Json.reading]
    rw [addAll, if_neg (by decide), if_neg (by decide), if_pos rfl]
    simp only [addAll]
    rfl

lemma subgraphOfReading_toJson {c : Document} (h : Document.ofReading c.toJson.reading = .ok c) :
    subgraphOfReading c.toJson.reading = .ok (some c) := by
  rw [subgraphOfReading, h]
  · rfl
  · obtain ⟨nodes, links, busId, extra⟩ := c
    rw [Document.toJson, Json.reading]
    rintro ⟨⟩

/-- A subgraph that is read again as it was is put back. -/
lemma Draft.addAll_subgraph {sub : Option Document}
    (h : ∀ c, sub = some c → Document.ofReading c.toJson.reading = .ok c) {d : Draft}
    (hd : d.subgraph = none) :
    d.addAll (Json.memberReadings (Json.field "subgraph" (sub.map Document.toJson)))
      = .ok { d with subgraph := sub.map some } := by
  obtain ⟨id, type, title, properties, sub', inputs, outputs, extra⟩ := d
  subst hd
  cases sub with
  | none =>
    simp only [Json.field, Option.map_none, Option.toList_none, Json.memberReadings]
    rw [addAll]
  | some c =>
    simp only [Json.field, Option.map_some, Option.toList_some, Json.memberReadings]
    rw [addAll, if_neg (by decide), if_neg (by decide), if_neg (by decide), if_neg (by decide),
      if_pos rfl, subgraphOfReading_toJson (h c rfl)]
    simp only [addAll]
    rfl

lemma optional_slots_toJson {slots : List PortSlot} (h : ∀ s ∈ slots, s.Stored N k) :
    (Json.array (slots.map PortSlot.toJson)).reading.optional slotsOfReading
      = .ok (some slots) := by
  refine Json.Reading.optional_eq_ok ?_ (slotsOfReading_toJson h)
  rw [Json.reading]
  rintro ⟨⟩

lemma Draft.addAll_inputs {slots : Option (List PortSlot)}
    (h : ∀ ss, slots = some ss → ∀ s ∈ ss, s.Stored N k) {d : Draft} (hd : d.inputs = none) :
    d.addAll (Json.memberReadings (Json.field "inputs" (slotsToJson slots)))
      = .ok { d with inputs := slots.map some } := by
  obtain ⟨id, type, title, properties, subgraph, inputs, outputs, extra⟩ := d
  subst hd
  cases slots with
  | none =>
    simp only [slotsToJson, Json.field, Option.map_none, Option.toList_none, Json.memberReadings]
    rw [addAll]
  | some ss =>
    simp only [slotsToJson, Json.field, Option.map_some, Option.toList_some, Json.memberReadings]
    rw [addAll, if_neg (by decide), if_neg (by decide), if_neg (by decide), if_neg (by decide),
      if_neg (by decide), if_pos rfl, optional_slots_toJson (h ss rfl)]
    simp only [addAll]
    rfl

lemma Draft.addAll_outputs {slots : Option (List PortSlot)}
    (h : ∀ ss, slots = some ss → ∀ s ∈ ss, s.Stored N k) {d : Draft} (hd : d.outputs = none) :
    d.addAll (Json.memberReadings (Json.field "outputs" (slotsToJson slots)))
      = .ok { d with outputs := slots.map some } := by
  obtain ⟨id, type, title, properties, subgraph, inputs, outputs, extra⟩ := d
  subst hd
  cases slots with
  | none =>
    simp only [slotsToJson, Json.field, Option.map_none, Option.toList_none, Json.memberReadings]
    rw [addAll]
  | some ss =>
    simp only [slotsToJson, Json.field, Option.map_some, Option.toList_some, Json.memberReadings]
    rw [addAll, if_neg (by decide), if_neg (by decide), if_neg (by decide), if_neg (by decide),
      if_neg (by decide), if_neg (by decide), if_pos rfl, optional_slots_toJson (h ss rfl)]
    simp only [addAll]
    rfl

/-- The id and the type of a node are always written. -/
lemma Draft.addAll_head {id : Int} (h : id < signedWordBound) (type : String) :
    addAll {} (Json.memberReadings [("id", .ofInt id), ("type", .string type)])
      = .ok { id := some id, type := some type } := by
  have hid : (Json.ofInt id).reading.signedWord = .ok id := by
    rw [Json.ofInt, Json.reading, Json.Reading.signedWord, if_pos h]
  simp only [Json.memberReadings]
  rw [addAll, if_pos rfl, hid, Json.reading]
  simp only [addAll]
  rfl

lemma Draft.addAll_properties {properties : Members} (h : Members.Stored N [] k properties)
    {d : Draft} (hd : d.properties = none) :
    d.addAll (Json.memberReadings [("properties", .object properties)])
      = .ok { d with properties := some properties } := by
  have hread := Json.Reading.map_eq_ok_iff.mpr (Json.Stored.object h.keys h.values).json_reading
  obtain ⟨id, type, title, properties', subgraph, inputs, outputs, extra⟩ := d
  subst hd
  simp only [Json.memberReadings]
  rw [addAll, if_neg (by decide), if_neg (by decide), if_neg (by decide), if_pos rfl, hread]
  simp only [addAll]
  rfl

/-- A node that is written is read again if its subgraph is. -/
lemma ofReading_toJson {n : Node} (h : n.Stored N k)
    (hsub : ∀ c, n.subgraph = some c → ∀ j, c.Stored N j →
      Document.ofReading c.toJson.reading = .ok c) : ofReading n.toJson.reading = .ok n := by
  obtain ⟨id, type, title, properties, sub, ins, outs, rest⟩ := n
  cases h with | intro hid _ hproperties hsubgraph hinputs houtputs hextra
  have hread := fun c hc => hsub c hc _ (hsubgraph c hc)
  have hdraft : Draft.addAll {} (Json.memberReadings
      ([("id", .ofInt id), ("type", .string type)] ++ Json.field "title" (title.map .string) ++
        ([("properties", .object properties)] ++ Json.field "subgraph" (sub.map Document.toJson)) ++
        Json.field "inputs" (slotsToJson ins) ++ Json.field "outputs" (slotsToJson outs) ++ rest))
        = .ok { id := some id, type := some type, title := title.map some,
                properties := some properties, subgraph := sub.map some, inputs := ins.map some,
                outputs := outs.map some, extra := rest } := by
    -- the fields are read one after the other, as they are written, and then the rest
    simp only [List.append_assoc, Json.memberReadings_append]
    rw [Draft.addAll_append (Draft.addAll_head hid type),
      Draft.addAll_append (Draft.addAll_title title rfl),
      Draft.addAll_append (Draft.addAll_properties hproperties rfl),
      Draft.addAll_append (Draft.addAll_subgraph hread rfl),
      Draft.addAll_append (Draft.addAll_inputs hinputs rfl),
      Draft.addAll_append (Draft.addAll_outputs houtputs rfl),
      Draft.addAll_extra hextra]
    rfl
  have hjoin : ∀ {α : Type} (x : Option α), (x.map some).join = x := by
    intro α x
    cases x <;> rfl
  rw [toJson, Document.toJson?_eq_map, Json.reading, ofReading]
  refine bind_eq_ok_iff.mpr ⟨_, hdraft, bind_eq_ok_iff.mpr ⟨(), rfl, ?_⟩⟩
  refine bind_eq_ok_iff.mpr ⟨id, rfl, bind_eq_ok_iff.mpr ⟨type, rfl, ?_⟩⟩
  simp only [hjoin, hextra.ofList_eq]
  rfl

end Node

/-! ### Documents -/

namespace Document

lemma Draft.addAll_append {rs rs' : List (String × Reading)} {d d' : Draft}
    (h : d.addAll rs = .ok d') : d.addAll (rs ++ rs') = d'.addAll rs' := by
  induction rs generalizing d with
  | nil =>
    rw [addAll] at h
    cases h
    rfl
  | cons r rs ih =>
    rw [addAll] at h
    rw [List.cons_append, addAll]
    split_ifs at h ⊢ <;>
    · obtain ⟨x, hx, h⟩ := bind_eq_ok_iff.mp h
      rw [← ih h, hx]
      rfl

lemma Draft.addAll_extra {ms : Members} (h : Members.Stored N fields k ms) (d : Draft) :
    d.addAll (Json.memberReadings ms) = .ok { d with extra := d.extra ++ ms } := by
  have hms := fun m hm => And.intro (h.undeclared m hm) (h.values m hm).json_reading
  clear h
  induction ms generalizing d with
  | nil =>
    rw [Json.memberReadings, addAll, List.append_nil]
  | cons m ms ih =>
    obtain ⟨key, v⟩ := m
    obtain ⟨⟨hkey, hv⟩, hms⟩ := List.forall_mem_cons.mp hms
    simp only [fields, List.mem_cons, List.not_mem_nil, or_false, not_or] at hkey
    obtain ⟨hnodes, hlinks, hbusId⟩ := hkey
    rw [Json.memberReadings, addAll, if_neg hnodes, if_neg hlinks, if_neg hbusId, hv]
    exact (ih _ hms).trans (by rw [List.append_assoc]; rfl)

lemma Draft.addAll_busId (busId : Option String) {d : Draft} (hd : d.busId = none) :
    d.addAll (Json.memberReadings (Json.field "bus_id" (busId.map .string)))
      = .ok { d with busId := busId.map some } := by
  obtain ⟨nodes, links, busId', extra⟩ := d
  subst hd
  cases busId with
  | none =>
    simp only [Json.field, Option.map_none, Option.toList_none, Json.memberReadings]
    rw [addAll]
  | some t =>
    simp only [Json.field, Option.map_some, Option.toList_some, Json.memberReadings, Json.reading]
    rw [addAll, if_neg (by decide), if_neg (by decide), if_pos rfl]
    simp only [addAll]
    rfl

/-- The nodes and links of a document are always written. -/
lemma Draft.addAll_head {nodes : List Node} {links : List Link}
    (hnodes : ∀ n ∈ nodes, Node.ofReading n.toJson.reading = .ok n)
    (hlinks : ∀ l ∈ links, l.Stored N k) :
    addAll {} (Json.memberReadings [("nodes", .array (Node.listToJson nodes)),
        ("links", .array (links.map Link.toJson))])
      = .ok { nodes := some nodes, links := some links } := by
  have hread : nodesOfReading (Json.array (Node.listToJson nodes)).reading = .ok nodes := by
    have hns := Json.mapM_itemReadings hnodes
    rw [Json.reading, Node.listToJson_eq_map, nodesOfReading, Node.listOfReading_eq_mapM, hns]
    rfl
  simp only [Json.memberReadings]
  rw [addAll, if_pos rfl, hread]
  refine bind_eq_ok_iff.mpr ⟨{ nodes := some nodes }, rfl, ?_⟩
  dsimp only
  rw [addAll, if_neg (by decide), if_pos rfl, linksOfReading_toJson hlinks]
  simp only [addAll]
  rfl

/-- A document that is written is read again. -/
theorem ofReading_toJson {d : Document} (h : d.Stored N k) :
    ofReading d.toJson.reading = .ok d := by
  induction d using Document.induction generalizing k with
  | step d ih =>
    obtain ⟨nodes, links, busId, rest⟩ := d
    cases h with | intro hnodes hlinks hextra
    have hread := fun n hn => Node.ofReading_toJson (hnodes n hn) fun c hc j => ih n hn c hc
    have hdraft : Draft.addAll {} (Json.memberReadings
        ([("nodes", .array (Node.listToJson nodes)), ("links", .array (links.map Link.toJson))] ++
          Json.field "bus_id" (busId.map .string) ++ rest))
          = .ok { nodes := some nodes, links := some links, busId := busId.map some,
                  extra := rest } := by
      simp only [List.append_assoc, Json.memberReadings_append]
      rw [Draft.addAll_append (Draft.addAll_head hread hlinks),
        Draft.addAll_append (Draft.addAll_busId busId rfl), Draft.addAll_extra hextra]
      rfl
    have hbusId : (busId.map some).join = busId := by cases busId <;> rfl
    rw [toJson, Json.reading, ofReading]
    refine bind_eq_ok_iff.mpr ⟨_, hdraft, bind_eq_ok_iff.mpr ⟨(), rfl, ?_⟩⟩
    refine bind_eq_ok_iff.mpr ⟨nodes, rfl, bind_eq_ok_iff.mpr ⟨links, rfl, ?_⟩⟩
    simp only [hbusId, hextra.ofList_eq]
    rfl

end Document

/-! ### Texts -/

/-- A text is a document if a value can be read that is one, and nothing but space follows. -/
lemma Document.parse_eq_ok_iff {text : String} {d : Document} :
    parse text = .ok d ↔ ofReading (Json.read text).1 = .ok d ∧ (Json.read text).2 = none := by
  rw [parse, Json.parse]
  dsimp only
  constructor
  · intro h
    obtain ⟨d', hd, h⟩ := bind_eq_ok_iff.mp h
    obtain ⟨u, hstop, h⟩ := bind_eq_ok_iff.mp h
    cases h
    exact ⟨hd, Json.Reading.closed_eq_ok_iff.mp hstop⟩
  · rintro ⟨hd, hstop⟩
    rw [hstop]
    exact bind_eq_ok_iff.mpr ⟨d, hd, rfl⟩

/-- A document that was read is read again from the text that is written for it. -/
theorem Document.Stored.parse_text {d : Document}
    (h : d.Stored Number.ReadsBack Json.Reading.maxDepth) : parse d.text = .ok d := by
  have hread : Json.read d.text = (d.toJson.reading, none) := Json.read_indented h.within 4
  rw [parse_eq_ok_iff, hread]
  exact ⟨ofReading_toJson h, rfl⟩

/-- What was read from a text is kept in order, and its numbers are read back if the floating-point
ones are. -/
theorem Document.stored_of_parse {text : String} {d : Document} (h : parse text = .ok d)
    (hfloats : ∀ x ∈ d.toJson.floats, (Number.float x).ReadsBack) :
    d.Stored Number.ReadsBack Json.Reading.maxDepth := by
  obtain ⟨hd, -⟩ := parse_eq_ok_iff.mp h
  have hstored := stored_of_reading (Json.read_within text) rfl hd
  -- the document was also read from what is written for it, and all numbers there are read back
  have hwithin := (hstored.within.readsBack hfloats).reading
  exact stored_of_reading hwithin rfl (ofReading_toJson hstored)

end Patchbay
