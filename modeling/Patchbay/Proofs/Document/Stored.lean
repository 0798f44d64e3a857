import Patchbay.Document.Printer
import Patchbay.Document.Reading
import Patchbay.Proofs.Json.Stored

/-!
# Documents that were read

A document that was read has room for its nodes and their properties, since its subgraphs stand
three levels deeper than it does. Beside its declared fields it keeps members of other names, by
ascending keys.
-/

namespace Patchbay

open Json (Number Reading ReadError Members once required)

variable {N : Number → Prop} {k : Nat}

/-- What holds of a document if it holds of the subgraphs of its nodes holds of all documents. -/
theorem Document.induction {P : Document → Prop}
    (step : ∀ d : Document, (∀ n ∈ d.nodes, ∀ c, n.subgraph = some c → P c) → P d)
    (d : Document) : P d :=
  step d fun n hn c hc => by
    have hsize : sizeOf c < sizeOf d := by
      obtain ⟨nodes, links, busId, extra⟩ := d
      obtain ⟨id, type, title, properties, subgraph, inputs, outputs, extra'⟩ := n
      have hmem := List.sizeOf_lt_of_mem hn
      dsimp only at hc
      subst hc
      simp only [Node.mk.sizeOf_spec, Document.mk.sizeOf_spec, Option.some.sizeOf_spec] at hmem ⊢
      omega
    exact Document.induction step c
termination_by sizeOf d

/-! ### What was read -/

def PortSlot.fields : List String := ["name", "id"]

def Node.fields : List String :=
  ["id", "type", "title", "properties", "subgraph", "inputs", "outputs"]

def Document.fields : List String := ["nodes", "links", "bus_id"]

/-- A port slot that was read at a level. -/
inductive PortSlot.Stored (N : Number → Prop) : Nat → PortSlot → Prop
  | intro {k : Nat} {s : PortSlot} (id : ∀ v, s.id = some v → v ≠ .null ∧ v.Stored N k)
      (extra : Members.Stored N fields k s.extra) : Stored N (k + 1) s

structure Link.Stored (N : Number → Prop) (k : Nat) (l : Link) : Prop where
  id : l.id < signedWordBound
  originId : l.originId < signedWordBound
  targetId : l.targetId < signedWordBound
  tuple : l.toJson.Stored N k

mutual

inductive Node.Stored (N : Number → Prop) : Nat → Node → Prop
  | intro {k : Nat} {n : Node} (id : n.id < signedWordBound) (number : N (.integer n.id))
      (properties : Members.Stored N [] k n.properties)
      (subgraph : ∀ d, n.subgraph = some d → Document.Stored N (k + 1) d)
      (inputs : ∀ slots, n.inputs = some slots → ∀ s ∈ slots, s.Stored N k)
      (outputs : ∀ slots, n.outputs = some slots → ∀ s ∈ slots, s.Stored N k)
      (extra : Members.Stored N Node.fields (k + 1) n.extra) : Node.Stored N (k + 2) n

inductive Document.Stored (N : Number → Prop) : Nat → Document → Prop
  | intro {k : Nat} {d : Document} (nodes : ∀ n ∈ d.nodes, Node.Stored N k n)
      (links : ∀ l ∈ d.links, l.Stored N k)
      (extra : Members.Stored N Document.fields (k + 1) d.extra) : Document.Stored N (k + 2) d

end

/-! ### Steps of reading -/

/-- A declared field that was read. -/
lemma once_bind_ok {α β γ : Type} {name : String} {seen : Option α} {value : Except ReadError α}
    {f : Option α → β} {g : β → Except ReadError γ} {c : γ}
    (h : (once name seen value).map f >>= g = .ok c) :
    ∃ a, value = .ok a ∧ g (f (some a)) = .ok c := by
  obtain ⟨x, hx, hc⟩ := map_bind_ok h
  cases seen with
  | some _ => cases hx
  | none =>
    obtain ⟨a, ha, rfl⟩ := map_eq_ok_iff.mp hx
    exact ⟨a, ha, hc⟩

lemma required_ok {α : Type} {name : String} {x : Option α} {a : α}
    (h : required name x = .ok a) : x = some a := by
  cases x <;> cases h
  rfl

namespace Json.Reading

lemma optional_ok {α : Type} {read : Reading → Except ReadError α} {r : Reading} {a : α}
    (h : r.optional read = .ok (some a)) : r ≠ .null ∧ read r = .ok a := by
  unfold optional at h
  split at h
  case h_1 => cases h
  case h_2 hnull =>
    obtain ⟨b, hb, heq⟩ := map_eq_ok_iff.mp h
    cases heq
    exact ⟨hnull, hb⟩

/-- The members of an object that was read stand one level deeper. -/
lemma Within.members {rs : List (String × Reading)} {stop : Option Fault} {u : Unit}
    (h : (Reading.object rs stop).Within N k) (hstop : closed stop = .ok u) :
    ∃ j, k = j + 1 ∧ ∀ m ∈ rs, m.2.Within N j := by
  rw [closed_eq_ok_iff] at hstop
  subst hstop
  cases h with | object _ members
  exact ⟨_, rfl, members⟩

/-- The items of an array that was read stand one level deeper. -/
lemma Within.items {α : Type} {read : Reading → Except ReadError α} {rs : List Reading}
    {stop : Option Fault} {u : Unit} {xs : List α} (h : (Reading.array rs stop).Within N k)
    (hstop : closed stop = .ok u) (hxs : rs.mapM read = .ok xs) :
    ∃ j, k = j + 1 ∧ ∀ x ∈ xs, ∃ r : Reading, r.Within N j ∧ read r = .ok x := by
  rw [closed_eq_ok_iff] at hstop
  subst hstop
  cases h with | array _ items
  refine ⟨_, rfl, fun x hx => ?_⟩
  obtain ⟨r, hr, hread⟩ := forall₂_exists_right (List.Forall₂.flip (mapM_eq_ok_iff.mp hxs)) hx
  exact ⟨r, items r hr, hread⟩

/-- The members of an object are read as a free-form value is. -/
lemma map_eq_ok_iff {r : Reading} {ms : Members} : r.map = .ok ms ↔ r.json = .ok (.object ms) := by
  cases r
  case object rs stop =>
    rw [map, json]
    simp only [bind_eq_ok_iff, pure, Except.pure, Except.ok.injEq, Json.object.injEq]
  all_goals constructor <;> intro h
  case array.mpr =>
    obtain ⟨-, vs, hv, -⟩ := json_array_ok h
    cases hv
  all_goals cases h

/-- The items of an array are read as a free-form value is. -/
lemma sequence_eq_ok_iff {r : Reading} {vs : List Json} :
    r.sequence = .ok vs ↔ r.json = .ok (.array vs) := by
  cases r
  case array rs stop =>
    rw [sequence, json]
    simp only [bind_eq_ok_iff, pure, Except.pure, Except.ok.injEq, Json.array.injEq]
  all_goals constructor <;> intro h
  case object.mpr =>
    obtain ⟨-, ms, hv, -⟩ := json_object_ok h
    cases hv
  all_goals cases h

lemma eq_null_of_json {r : Reading} (h : r.json = .ok .null) : r = .null := by
  cases r with
  | null => rfl
  | array rs stop =>
    obtain ⟨-, vs, hv, -⟩ := json_array_ok h
    cases hv
  | object rs stop =>
    obtain ⟨-, ms, hv, -⟩ := json_object_ok h
    cases hv
  | _ => cases h

end Json.Reading

/-! ### Port slots -/

/-- What was read of a port slot so far. -/
structure PortSlot.Draft.Stored (N : Number → Prop) (k : Nat) (d : Draft) : Prop where
  id : ∀ v, d.id = some (some v) → v ≠ .null ∧ v.Stored N k
  extra : ∀ m ∈ d.extra, m.1 ∉ fields ∧ m.2.Stored N k

/-- What is read of a port slot has room, whichever members come in whichever order. -/
lemma PortSlot.Draft.stored_addAll {ms : List (String × Reading)} {d d' : Draft}
    (h : d.Stored N k) (hms : ∀ m ∈ ms, m.2.Within N k) (hd : d.addAll ms = .ok d') :
    d'.Stored N k := by
  induction ms generalizing d with
  | nil =>
    cases hd
    exact h
  | cons m ms ih =>
    obtain ⟨key, r⟩ := m
    have hr : r.Within N k := hms (key, r) List.mem_cons_self
    have hms : ∀ m ∈ ms, m.2.Within N k := fun m hm => hms m (List.mem_cons_of_mem _ hm)
    rw [addAll] at hd
    split_ifs at hd with hname hid
    · obtain ⟨x, -, hd⟩ := once_bind_ok hd
      refine ih ?_ hms hd
      exact ⟨h.id, h.extra⟩
    · obtain ⟨x, hx, hd⟩ := once_bind_ok hd
      refine ih ?_ hms hd
      refine ⟨?_, h.extra⟩
      rintro v ⟨⟩
      obtain ⟨hnull, hv⟩ := Json.Reading.optional_ok hx
      refine ⟨?_, Json.Reading.stored_of_json hr hv⟩
      rintro rfl
      exact hnull (Json.Reading.eq_null_of_json hv)
    · obtain ⟨v, hv, hd⟩ := map_bind_ok hd
      refine ih ?_ hms hd
      refine ⟨h.id, forall_mem_concat h.extra ?_⟩
      exact ⟨by simp [fields, hname, hid], Json.Reading.stored_of_json hr hv⟩

/-- A slot keeps in the rest what has no field. -/
lemma PortSlot.stored_of_reading {r : Reading} {s : PortSlot} (h : r.Within N k)
    (hs : ofReading r = .ok s) : s.Stored N k := by
  unfold ofReading at hs
  split at hs
  case h_2 => cases hs
  case h_1 ms stop =>
    obtain ⟨d, hd, hs⟩ := bind_eq_ok_iff.mp hs
    obtain ⟨u, hstop, hs⟩ := bind_eq_ok_iff.mp hs
    obtain ⟨name, -, hs⟩ := bind_eq_ok_iff.mp hs
    cases hs
    obtain ⟨j, rfl, hms⟩ := h.members hstop
    have hempty : Draft.Stored N j {} := ⟨by rintro v ⟨⟩, by simp⟩
    have hdraft := Draft.stored_addAll hempty hms hd
    exact .intro (fun v hv => hdraft.id v (Option.join_eq_some_iff.mp hv))
      (Members.stored_ofList hdraft.extra)

/-- Slots that were read stand one level deeper. -/
lemma slots_stored {r : Reading} {slots : List PortSlot} (h : r.Within N (k + 1))
    (hs : slotsOfReading r = .ok slots) : ∀ s ∈ slots, s.Stored N k := by
  unfold slotsOfReading at hs
  split at hs
  case h_2 => cases hs
  case h_1 rs stop =>
    obtain ⟨xs, hxs, hs⟩ := bind_eq_ok_iff.mp hs
    obtain ⟨u, hstop, hs⟩ := bind_eq_ok_iff.mp hs
    cases hs
    obtain ⟨j, hj, hitems⟩ := h.items hstop hxs
    obtain rfl : k = j := Nat.succ.inj hj
    intro s hs
    obtain ⟨r, hr, hread⟩ := hitems s hs
    exact PortSlot.stored_of_reading hr hread

/-! ### Links -/

/-- A number that is read fits the word it is read as, so it is written in the same way. -/
lemma Link.integerField_ok {name : String} {v : Json} {i : Int} (h : integerField name v = .ok i) :
    v = .ofInt i ∧ i < signedWordBound := by
  unfold integerField at h
  split at h
  case h_2 => cases h
  case h_1 n =>
    cases n with
    | float x => cases h
    | integer n =>
      by_cases hn : n < signedWordBound
      · simp only [Json.Number.signed?, if_pos hn] at h
        cases h
        exact ⟨rfl, hn⟩
      · simp only [Json.Number.signed?, if_neg hn] at h
        cases h

lemma Link.slotField_ok {name : String} {v : Json} {i : Nat} (h : slotField name v = .ok i) :
    v = .ofNat i := by
  unfold slotField at h
  split at h
  case h_2 => cases h
  case h_1 n =>
    cases n with
    | float x => cases h
    | integer n =>
      by_cases hn : 0 ≤ n
      · simp only [Json.Number.unsigned?, if_pos hn] at h
        cases h
        rw [Json.ofNat, Json.ofInt, Int.toNat_of_nonneg hn]
      · simp only [Json.Number.unsigned?, if_neg hn] at h
        cases h

/-- The tuple of a link that was read is written for it again. -/
lemma Link.ofTuple_ok {vs : List Json} {l : Link} (h : ofTuple vs = .ok l) :
    l.toJson = .array vs ∧ l.id < signedWordBound ∧ l.originId < signedWordBound ∧
      l.targetId < signedWordBound := by
  unfold ofTuple at h
  split at h
  case h_2 => cases h
  case h_1 =>
    obtain ⟨id, hid, h⟩ := bind_eq_ok_iff.mp h
    obtain ⟨originId, horiginId, h⟩ := bind_eq_ok_iff.mp h
    obtain ⟨originSlot, horiginSlot, h⟩ := bind_eq_ok_iff.mp h
    obtain ⟨targetId, htargetId, h⟩ := bind_eq_ok_iff.mp h
    obtain ⟨targetSlot, htargetSlot, h⟩ := bind_eq_ok_iff.mp h
    cases h
    obtain ⟨rfl, hidLt⟩ := integerField_ok hid
    obtain ⟨rfl, horiginLt⟩ := integerField_ok horiginId
    obtain rfl := slotField_ok horiginSlot
    obtain ⟨rfl, htargetLt⟩ := integerField_ok htargetId
    obtain rfl := slotField_ok htargetSlot
    exact ⟨rfl, hidLt, horiginLt, htargetLt⟩

/-- All elements of a link are kept, those of no use to it too. -/
lemma Link.stored_of_reading {r : Reading} {l : Link} (h : r.Within N k)
    (hl : ofReading r = .ok l) : l.Stored N k := by
  obtain ⟨vs, hvs, hl⟩ := bind_eq_ok_iff.mp hl
  obtain ⟨htuple, hid, horiginId, htargetId⟩ := ofTuple_ok (mapError_eq_ok_iff.mp hl)
  refine ⟨hid, horiginId, htargetId, ?_⟩
  rw [htuple]
  exact Json.Reading.stored_of_json h (Json.Reading.sequence_eq_ok_iff.mp hvs)

/-! ### Nodes -/

structure Node.Draft.Stored (N : Number → Prop) (k : Nat) (d : Draft) : Prop where
  id : ∀ i, d.id = some i → i < signedWordBound ∧ N (.integer i)
  properties : ∀ ms, d.properties = some ms → Members.Stored N [] k ms
  subgraph : ∀ c, d.subgraph = some (some c) → c.Stored N (k + 1)
  inputs : ∀ slots, d.inputs = some (some slots) → ∀ s ∈ slots, s.Stored N k
  outputs : ∀ slots, d.outputs = some (some slots) → ∀ s ∈ slots, s.Stored N k
  extra : ∀ m ∈ d.extra, m.1 ∉ fields ∧ m.2.Stored N (k + 1)

namespace Json.Reading

lemma signedWord_ok {r : Reading} {i : Int} (h : r.Within N k) (hi : r.signedWord = .ok i) :
    i < signedWordBound ∧ N (.integer i) := by
  unfold signedWord at hi
  split at hi
  case h_2 => cases hi
  case h_1 n =>
    split_ifs at hi with hn
    cases hi
    cases h with | number number
    exact ⟨hn, number⟩

lemma stored_of_map {r : Reading} {ms : Members} (h : r.Within N (k + 1)) (hms : r.map = .ok ms) :
    Members.Stored N [] k ms := by
  cases stored_of_json h (map_eq_ok_iff.mp hms) with | object keys members
  exact ⟨keys, by simp, members⟩

end Json.Reading

lemma subgraphOfReading_ok {r : Reading} {d : Document}
    (h : subgraphOfReading r = .ok (some d)) : Document.ofReading r = .ok d := by
  unfold subgraphOfReading at h
  split at h
  case h_1 => cases h
  case h_2 =>
    obtain ⟨d', hd, heq⟩ := map_eq_ok_iff.mp h
    cases heq
    exact hd

/-- The fields of a node have room. Where its subgraph stands there is less room, and what is known
of documents there comes as `hsub`. -/
lemma Node.Draft.stored_addAll
    (hsub : ∀ {r d}, r.Within N (k + 1) → Document.ofReading r = .ok d → d.Stored N (k + 1))
    {ms : List (String × Reading)} {d d' : Draft} (h : d.Stored N k)
    (hms : ∀ m ∈ ms, m.2.Within N (k + 1)) (hd : d.addAll ms = .ok d') : d'.Stored N k := by
  induction ms generalizing d with
  | nil =>
    rw [addAll] at hd
    cases hd
    exact h
  | cons m ms ih =>
    obtain ⟨key, r⟩ := m
    have hr : r.Within N (k + 1) := hms (key, r) List.mem_cons_self
    have hms : ∀ m ∈ ms, m.2.Within N (k + 1) := fun m hm => hms m (List.mem_cons_of_mem _ hm)
    rw [addAll] at hd
    split_ifs at hd with hid htype htitle hproperties hsubgraph hinputs houtputs
    · obtain ⟨i, hi, hd⟩ := once_bind_ok hd
      refine ih ?_ hms hd
      refine ⟨?_, h.properties, h.subgraph, h.inputs, h.outputs, h.extra⟩
      rintro _ ⟨⟩
      exact Json.Reading.signedWord_ok hr hi
    · obtain ⟨_, -, hd⟩ := once_bind_ok hd
      refine ih ?_ hms hd
      exact ⟨h.id, h.properties, h.subgraph, h.inputs, h.outputs, h.extra⟩
    · obtain ⟨_, -, hd⟩ := once_bind_ok hd
      refine ih ?_ hms hd
      exact ⟨h.id, h.properties, h.subgraph, h.inputs, h.outputs, h.extra⟩
    · obtain ⟨properties, hread, hd⟩ := once_bind_ok hd
      refine ih ?_ hms hd
      refine ⟨h.id, ?_, h.subgraph, h.inputs, h.outputs, h.extra⟩
      rintro _ ⟨⟩
      exact Json.Reading.stored_of_map hr hread
    · obtain ⟨sub, hread, hd⟩ := once_bind_ok hd
      refine ih ?_ hms hd
      refine ⟨h.id, h.properties, ?_, h.inputs, h.outputs, h.extra⟩
      rintro _ ⟨⟩
      exact hsub hr (subgraphOfReading_ok hread)
    · obtain ⟨slots, hread, hd⟩ := once_bind_ok hd
      refine ih ?_ hms hd
      refine ⟨h.id, h.properties, h.subgraph, ?_, h.outputs, h.extra⟩
      rintro _ ⟨⟩
      exact slots_stored hr (Json.Reading.optional_ok hread).2
    · obtain ⟨slots, hread, hd⟩ := once_bind_ok hd
      refine ih ?_ hms hd
      refine ⟨h.id, h.properties, h.subgraph, h.inputs, ?_, h.extra⟩
      rintro _ ⟨⟩
      exact slots_stored hr (Json.Reading.optional_ok hread).2
    · obtain ⟨v, hv, hd⟩ := map_bind_ok hd
      refine ih ?_ hms hd
      refine ⟨h.id, h.properties, h.subgraph, h.inputs, h.outputs, forall_mem_concat h.extra ?_⟩
      refine ⟨?_, Json.Reading.stored_of_json hr hv⟩
      -- the key is that of no field
      simp [fields, hid, htype, htitle, hproperties, hsubgraph, hinputs, houtputs]

/-- A node was read at a level if the documents one level deeper were. -/
lemma Node.stored_of_reading
    (hsub : ∀ {r d}, r.Within N (k + 1) → Document.ofReading r = .ok d → d.Stored N (k + 1))
    {r : Reading} {n : Node} (h : r.Within N (k + 2)) (hn : ofReading r = .ok n) :
    n.Stored N (k + 2) := by
  unfold ofReading at hn
  split at hn
  case h_2 => cases hn
  case h_1 ms stop =>
    obtain ⟨d, hd, hn⟩ := bind_eq_ok_iff.mp hn
    obtain ⟨u, hstop, hn⟩ := bind_eq_ok_iff.mp hn
    obtain ⟨id, hid, hn⟩ := bind_eq_ok_iff.mp hn
    obtain ⟨type, -, hn⟩ := bind_eq_ok_iff.mp hn
    cases hn
    obtain ⟨j, hj, hms⟩ := h.members hstop
    obtain rfl : k + 1 = j := Nat.succ.inj hj
    have hempty : Draft.Stored N k {} := by constructor <;> simp
    have hdraft := Draft.stored_addAll hsub hempty hms hd
    obtain ⟨hbound, hnumber⟩ := hdraft.id id (required_ok hid)
    refine .intro hbound hnumber ?_ ?_ ?_ ?_ (Members.stored_ofList hdraft.extra)
    · cases hproperties : d.properties with
      | none => exact ⟨.nil, by simp, by simp⟩
      | some properties => exact hdraft.properties properties hproperties
    · exact fun c hc => hdraft.subgraph c (Option.join_eq_some_iff.mp hc)
    · exact fun slots hs => hdraft.inputs slots (Option.join_eq_some_iff.mp hs)
    · exact fun slots hs => hdraft.outputs slots (Option.join_eq_some_iff.mp hs)

/-! ### Documents -/

structure Document.Draft.Stored (N : Number → Prop) (k : Nat) (d : Draft) : Prop where
  nodes : ∀ ns, d.nodes = some ns → ∃ j, k = j + 1 ∧ ∀ n ∈ ns, n.Stored N j
  links : ∀ ls, d.links = some ls → ∃ j, k = j + 1 ∧ ∀ l ∈ ls, l.Stored N j
  extra : ∀ m ∈ d.extra, m.1 ∉ fields ∧ m.2.Stored N k

lemma Node.listOfReading_eq_mapM (rs : List Reading) : listOfReading rs = rs.mapM ofReading := by
  induction rs with
  | nil => rw [listOfReading]; rfl
  | cons r rs ih => rw [listOfReading, List.mapM_cons, ih]

/-- Nodes that are read stand one level below their array. -/
lemma nodes_ok {r : Reading} {ns : List Node} (h : r.Within N k) (hn : nodesOfReading r = .ok ns) :
    ∃ j, k = j + 1 ∧ ∀ n ∈ ns, ∃ r : Reading, r.Within N j ∧ Node.ofReading r = .ok n := by
  unfold nodesOfReading at hn
  split at hn
  case h_2 => cases hn
  case h_1 rs stop =>
    obtain ⟨xs, hxs, hn⟩ := bind_eq_ok_iff.mp hn
    obtain ⟨u, hstop, hn⟩ := bind_eq_ok_iff.mp hn
    cases hn
    rw [Node.listOfReading_eq_mapM] at hxs
    exact h.items hstop hxs

lemma links_ok {r : Reading} {ls : List Link} (h : r.Within N k) (hl : linksOfReading r = .ok ls) :
    ∃ j, k = j + 1 ∧ ∀ l ∈ ls, ∃ r : Reading, r.Within N j ∧ Link.ofReading r = .ok l := by
  unfold linksOfReading at hl
  split at hl
  case h_2 => cases hl
  case h_1 rs stop =>
    obtain ⟨xs, hxs, hl⟩ := bind_eq_ok_iff.mp hl
    obtain ⟨u, hstop, hl⟩ := bind_eq_ok_iff.mp hl
    cases hl
    exact h.items hstop hxs

/-- The fields of a document have room, if what is read of its nodes has. -/
lemma Document.Draft.stored_addAll
    (hnode : ∀ {j r n}, k = j + 1 → r.Within N j → Node.ofReading r = .ok n → n.Stored N j)
    {ms : List (String × Reading)} {d d' : Draft} (h : d.Stored N k)
    (hms : ∀ m ∈ ms, m.2.Within N k) (hd : d.addAll ms = .ok d') : d'.Stored N k := by
  induction ms generalizing d with
  | nil =>
    rw [addAll] at hd
    cases hd
    exact h
  | cons m ms ih =>
    obtain ⟨key, r⟩ := m
    have hr : r.Within N k := hms (key, r) List.mem_cons_self
    have hms : ∀ m ∈ ms, m.2.Within N k := fun m hm => hms m (List.mem_cons_of_mem _ hm)
    rw [addAll] at hd
    split_ifs at hd with hnodes hlinks hbusId
    · obtain ⟨ns, hread, hd⟩ := once_bind_ok hd
      refine ih ?_ hms hd
      refine ⟨?_, h.links, h.extra⟩
      rintro _ ⟨⟩
      obtain ⟨j, hj, hns⟩ := nodes_ok hr hread
      refine ⟨j, hj, fun n hn => ?_⟩
      obtain ⟨r, hr, hread⟩ := hns n hn
      exact hnode hj hr hread
    · obtain ⟨ls, hread, hd⟩ := once_bind_ok hd
      refine ih ?_ hms hd
      refine ⟨h.nodes, ?_, h.extra⟩
      rintro _ ⟨⟩
      obtain ⟨j, hj, hls⟩ := links_ok hr hread
      refine ⟨j, hj, fun l hl => ?_⟩
      obtain ⟨r, hr, hread⟩ := hls l hl
      exact Link.stored_of_reading hr hread
    · obtain ⟨_, -, hd⟩ := once_bind_ok hd
      refine ih ?_ hms hd
      exact ⟨h.nodes, h.links, h.extra⟩
    · obtain ⟨v, hv, hd⟩ := map_bind_ok hd
      refine ih ?_ hms hd
      refine ⟨h.nodes, h.links, forall_mem_concat h.extra ?_⟩
      exact ⟨by simp [fields, hnodes, hlinks, hbusId], Json.Reading.stored_of_json hr hv⟩

/-- A document that was read has room for the properties of its nodes: three levels lie between a
document and the subgraphs of its nodes, and the last level is that of a document again. -/
theorem Document.stored_of_reading {r : Reading} {d : Document} (h : r.Within N k)
    (hk : k % 3 = 1) (hd : ofReading r = .ok d) : d.Stored N k := by
  -- on the room that is left, which is smaller for a subgraph
  induction k using Nat.strongRecOn generalizing r d with
  | _ k ih =>
    unfold ofReading at hd
    split at hd
    case h_2 => cases hd
    case h_1 ms stop =>
      obtain ⟨draft, hdraft, hd⟩ := bind_eq_ok_iff.mp hd
      obtain ⟨u, hstop, hd⟩ := bind_eq_ok_iff.mp hd
      obtain ⟨nodes, hnodes, hd⟩ := bind_eq_ok_iff.mp hd
      obtain ⟨links, hlinks, hd⟩ := bind_eq_ok_iff.mp hd
      cases hd
      obtain ⟨k, rfl, hms⟩ := h.members hstop
      -- nodes stand at levels that are two modulo three, so there is one below each of them
      have hnode : ∀ {j r n}, k = j + 1 → r.Within N j → Node.ofReading r = .ok n →
          n.Stored N j := by
        intro j r n hj hr hread
        obtain ⟨i, rfl⟩ : ∃ i, j = i + 2 := ⟨j - 2, by omega⟩
        exact Node.stored_of_reading (ih (i + 1) (by omega) · (by omega) ·) hr hread
      have hempty : Draft.Stored N k {} := by constructor <;> simp
      have hstored := Draft.stored_addAll hnode hempty hms hdraft
      obtain ⟨j, rfl, hns⟩ := hstored.nodes nodes (required_ok hnodes)
      obtain ⟨j', hj, hls⟩ := hstored.links links (required_ok hlinks)
      obtain rfl : j = j' := Nat.succ.inj hj
      exact .intro hns hls (Members.stored_ofList hstored.extra)

end Patchbay
