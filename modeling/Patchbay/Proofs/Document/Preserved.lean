import Patchbay.Proofs.Document.Written
import Patchbay.Proofs.Json.Sorted

/-!
# What documents keep

A value that is read as a document is written again as it was, at every depth of its subgraphs and
up to the order of members. Only the fields that may be absent are tidied: where one is `null` it is
left out, and a node without properties gets empty ones. Links are kept element by element.
-/

namespace Patchbay

open Json (Number Reading ReadError Members SameMembers once required)

/-! ### Tidied values -/

/-- A member, unless it is `null`. -/
def Json.unlessNull (key : String) : Json → Members
  | .null => []
  | v => [(key, v)]

/-- A member of a port slot without a `null` that means absence. -/
def PortSlot.tidiedMember (m : String × Json) : Members :=
  if m.1 = "id" then Json.unlessNull m.1 m.2 else [m]

def PortSlot.tidied : Json → Json
  | .object ms => .object (ms.flatMap tidiedMember)
  | v => v

def slotsTidied : Json → Json
  | .array vs => .array (vs.map PortSlot.tidied)
  | v => v

/-- The properties of a node that has none. -/
def Node.missingProperties (ms : Members) : Members :=
  if "properties" ∈ ms.map Prod.fst then [] else [("properties", .object [])]

mutual

def Document.tidied : Json → Json
  | .object ms => .object (Document.tidiedMembers ms)
  | v => v

def Document.tidiedMembers : List (String × Json) → Members
  | [] => []
  | (key, v) :: ms =>
    (if key = "nodes" then [(key, nodesTidied v)]
      else if key = "bus_id" then Json.unlessNull key v
      else [(key, v)]) ++ Document.tidiedMembers ms

def nodesTidied : Json → Json
  | .array vs => .array (Node.listTidied vs)
  | v => v

def Node.listTidied : List Json → List Json
  | [] => []
  | v :: vs => Node.tidied v :: Node.listTidied vs

/-- A node without a `null` that means absence, and with properties. -/
def Node.tidied : Json → Json
  | .object ms => .object (Node.tidiedMembers ms ++ Node.missingProperties ms)
  | v => v

def Node.tidiedMembers : List (String × Json) → Members
  | [] => []
  | (key, v) :: ms =>
    (if key = "title" then Json.unlessNull key v
      else if key = "subgraph" then Json.unlessNull key (Document.tidied v)
      else if key = "inputs" ∨ key = "outputs" then Json.unlessNull key (slotsTidied v)
      else [(key, v)]) ++ Node.tidiedMembers ms

end

/-! ### Steps of reading -/

/-- A declared field is read only once. -/
lemma once_unseen {α β γ : Type} {name : String} {seen : Option α} {value : Except ReadError α}
    {f : Option α → β} {g : β → Except ReadError γ} {c : γ}
    (h : (once name seen value).map f >>= g = .ok c) : seen = none := by
  obtain ⟨x, hx, -⟩ := map_bind_ok h
  cases seen with
  | some a => cases hx
  | none => rfl

namespace Json

variable {v : Json}

lemma text_reading {s : String} (h : v.reading.text = .ok s) : v = .string s := by
  cases v with
  | string t => exact congrArg string (Except.ok.inj h)
  | _ => rw [reading] at h; cases h

/-- What is read as a whole number is written again as it was. -/
lemma signedWord_reading {i : Int} (h : v.reading.signedWord = .ok i) : v = .ofInt i := by
  cases v with
  | number n =>
    rw [reading] at h
    cases n with
    | float x => cases h
    | integer n =>
      rw [Reading.signedWord] at h
      split_ifs at h
      cases h
      rfl
  | _ => rw [reading] at h; cases h

lemma map_reading {ms : Members} (h : v.reading.map = .ok ms) : (Json.object ms) = v.sorted := by
  rw [Reading.map_eq_ok_iff, json_reading] at h
  exact (Except.ok.inj h).symm

lemma sequence_reading_iff {vs : List Json} :
    v.reading.sequence = .ok vs ↔ v.sorted = .array vs := by
  rw [Reading.sequence_eq_ok_iff, json_reading, Except.ok.injEq]

lemma unlessNull_of_ne (h : v ≠ .null) (key : String) : unlessNull key v = [(key, v)] := by
  cases v with
  | null => exact (h rfl).elim
  | _ => rfl

lemma keys_unlessNull_sublist (key : String) (v : Json) :
    ((unlessNull key v).map Prod.fst).Sublist [key] := by
  cases v with
  | null => exact List.nil_sublist _
  | _ => exact .refl _

/-- A member that is kept, tidied or left out brings in no key but its own. -/
lemma keys_append_sublist {part rest ms : Members} {key : String}
    (hpart : (part.map Prod.fst).Sublist [key])
    (hrest : (rest.map Prod.fst).Sublist (ms.map Prod.fst)) (v : Json) :
    ((part ++ rest).map Prod.fst).Sublist (((key, v) :: ms).map Prod.fst) := by
  rw [List.map_append]
  exact hpart.append hrest

/-- What an optional field holds is written again, unless it is `null`. -/
lemma field_of_optional {α : Type} {read : Reading → Except ReadError α} (write : α → Json)
    (tidied : Json → Json) (hnull : ∀ w, tidied w = .null ↔ w = .null)
    (hwrite : ∀ a, read v.reading = .ok a → (write a).sorted = (tidied v).sorted) {x : Option α}
    (h : v.reading.optional read = .ok x) (key : String) :
    sortedMembers (field key (x.map write)) = sortedMembers (unlessNull key (tidied v)) := by
  cases x with
  | none =>
    have hv : v = .null := by
      unfold Reading.optional at h
      split at h
      case h_1 heq => exact reading_eq_null heq
      case h_2 =>
        obtain ⟨a, -, ha⟩ := map_eq_ok_iff.mp h
        cases ha
    rw [(hnull v).mpr hv]
    rfl
  | some a =>
    obtain ⟨hv, ha⟩ := Reading.optional_ok h
    have htidied : tidied v ≠ .null := fun hw => hv (by rw [(hnull v).mp hw, reading])
    rw [unlessNull_of_ne htidied]
    simp only [field, Option.map_some, Option.toList_some, sortedMembers, hwrite a ha]

/-- A free-form value is read as it is, up to the order of its members. -/
lemma sorted_of_json_reading {x : Json} (h : v.reading.json = .ok x) : x.sorted = v.sorted := by
  rw [json_reading] at h
  obtain rfl := Except.ok.inj h
  exact sorted_sorted v

/-- A member of another name is kept. -/
lemma sameMembers_extra {x : Json} (h : v.reading.json = .ok x) (parts : List Members)
    (extra : Members) (key : String) :
    SameMembers (parts ++ [extra ++ [(key, x)]]).flatten
      ((parts ++ [extra]).flatten ++ [(key, v)]) := by
  simp only [List.flatten_append, List.flatten_cons, List.flatten_nil, List.append_nil,
    ← List.append_assoc]
  refine (SameMembers.refl _).append (.of_eq ?_)
  simp only [sortedMembers, sorted_of_json_reading h]

/-- Items that are written again as they were. -/
lemma sorted_array_of_mapM {α : Type} {read : Reading → Except ReadError α} {write : α → Json}
    {tidied : Json → Json} {vs : List Json} {xs : List α}
    (hwrite : ∀ v ∈ vs, ∀ a, read v.reading = .ok a → (write a).sorted = (tidied v).sorted)
    (h : (itemReadings vs).mapM read = .ok xs) :
    (Json.array (xs.map write)).sorted = (Json.array (vs.map tidied)).sorted := by
  rw [itemReadings_eq_map, mapM_eq_ok_iff, List.forall₂_map_left_iff] at h
  refine sorted_array_congr ?_
  rw [List.forall₂_map_left_iff, List.forall₂_map_right_iff]
  exact (((List.forall₂_and_left _ _).mpr ⟨hwrite, h⟩).imp fun v x hx => hx.1 x hx.2).flip

end Json

/-! ### Port slots -/

namespace PortSlot

/-- The members of a port slot that were read so far, field by field. -/
def Draft.parts (d : Draft) : List Members :=
  [Json.field "name" (d.name.map .string), Json.field "id" d.id.join, d.extra]

lemma keys_tidied_sublist (ms : Members) :
    ((ms.flatMap tidiedMember).map Prod.fst).Sublist (ms.map Prod.fst) := by
  induction ms with
  | nil => exact .slnil
  | cons m ms ih =>
    rw [List.flatMap_cons]
    refine Json.keys_append_sublist ?_ ih m.2
    rw [tidiedMember]
    split_ifs
    · exact Json.keys_unlessNull_sublist m.1 m.2
    · exact .refl _

/-- What was read of a port slot is written again. -/
lemma Draft.sameMembers_addAll {ms : Members} {d d' : Draft}
    (h : d.addAll (Json.memberReadings ms) = .ok d') :
    SameMembers d'.parts.flatten (d.parts.flatten ++ ms.flatMap tidiedMember) := by
  induction ms generalizing d with
  | nil =>
    rw [Json.memberReadings, addAll] at h
    cases h
    rw [List.flatMap_nil, List.append_nil]
    exact .refl _
  | cons m ms ih =>
    obtain ⟨key, v⟩ := m
    obtain ⟨name, id, extra⟩ := d
    rw [Json.memberReadings, addAll] at h
    rw [List.flatMap_cons, ← List.append_assoc]
    -- one case for each declared field, where the draft had none yet, and one for a member kept as
    -- it is
    split_ifs at h with hname hid
    · obtain rfl : name = none := once_unseen h
      obtain ⟨x, hx, hd⟩ := once_bind_ok h
      obtain rfl := Json.text_reading hx
      subst hname
      exact (ih hd).trans (.append (.set (parts ⟨none, id, extra⟩) 0 rfl rfl) (.refl _))
    · obtain rfl : id = none := once_unseen h
      obtain ⟨x, hx, hd⟩ := once_bind_ok h
      subst hid
      have hfield := Json.field_of_optional (fun w => w) (fun w => w) (fun _ => Iff.rfl)
        (fun _ ha => Json.sorted_of_json_reading ha) hx "id"
      rw [Option.map_id'] at hfield
      exact (ih hd).trans (.append (.set (parts ⟨name, none, extra⟩) 1 rfl hfield) (.refl _))
    · obtain ⟨x, hx, hd⟩ := map_bind_ok h
      refine (ih hd).trans (.append ?_ (.refl _))
      rw [tidiedMember, if_neg hid]
      exact Json.sameMembers_extra hx [_, _] extra key

/-- A port slot is written again as it was read. -/
lemma toJson_ofReading {v : Json} {s : PortSlot} (hkeys : v.distinctKeys)
    (h : ofReading v.reading = .ok s) : s.toJson.sorted = (tidied v).sorted := by
  cases v with
  | object ms =>
    rw [Json.reading, ofReading] at h
    obtain ⟨d, hd, h⟩ := bind_eq_ok_iff.mp h
    obtain ⟨u, -, h⟩ := bind_eq_ok_iff.mp h
    obtain ⟨name, hname, h⟩ := bind_eq_ok_iff.mp h
    cases h
    obtain ⟨hms, -⟩ := Json.distinctKeys_object_iff.mp hkeys
    have hsame := Draft.sameMembers_addAll hd
    simp only [Draft.parts, required_ok hname, List.flatten_cons, List.flatten_nil, List.append_nil,
      ← List.append_assoc] at hsame
    exact hsame.sorted_object ((keys_tidied_sublist ms).nodup hms)
  | _ =>
    rw [Json.reading] at h
    cases h

end PortSlot

/-- Declared slots are written again as they were read. -/
lemma slots_toJson_ofReading {v : Json} {slots : List PortSlot} (hkeys : v.distinctKeys)
    (h : slotsOfReading v.reading = .ok slots) :
    (Json.array (slots.map PortSlot.toJson)).sorted = (slotsTidied v).sorted := by
  cases v with
  | array vs =>
    rw [Json.reading, slotsOfReading] at h
    obtain ⟨xs, hxs, h⟩ := bind_eq_ok_iff.mp h
    obtain ⟨u, -, h⟩ := bind_eq_ok_iff.mp h
    cases h
    rw [Json.distinctKeys_array_iff] at hkeys
    exact Json.sorted_array_of_mapM (fun v hv s hs => PortSlot.toJson_ofReading (hkeys v hv) hs) hxs
  | _ =>
    rw [Json.reading] at h
    cases h

/-! ### Links -/

namespace Link

/-- A link is written again as it was read. -/
lemma toJson_ofReading {v : Json} {l : Link} (h : ofReading v.reading = .ok l) :
    l.toJson.sorted = v.sorted := by
  obtain ⟨vs, hvs, hl⟩ := bind_eq_ok_iff.mp h
  rw [(ofTuple_ok (mapError_eq_ok_iff.mp hl)).1, ← Json.sequence_reading_iff.mp hvs,
    Json.sorted_sorted]

/-- The elements that a link's tuple needs: at least seven, signed words for the ends and the id,
and unsigned words for the slots. -/
structure IsTuple (vs : List Json) : Prop where
  length : fieldCount ≤ vs.length
  signed : ∀ i ∈ [0, 1, 3], ∃ n : Int, vs[i]? = some (.ofInt n) ∧
    -(signedWordBound : Int) ≤ n ∧ n < signedWordBound
  unsigned : ∀ i ∈ [2, 4], ∃ n : Nat, vs[i]? = some (.ofNat n) ∧ n < wordBound

/-- A signed element is any whole number that fits a signed word. -/
lemma integerField_isOk_iff {v : Json} (hv : ∀ n, v = .number n → n.InRange) (name : String) :
    (∃ i, integerField name v = .ok i) ↔
      ∃ n : Int, v = .ofInt n ∧ -(signedWordBound : Int) ≤ n ∧ n < signedWordBound := by
  constructor
  · rintro ⟨i, hi⟩
    obtain ⟨rfl, hlt⟩ := integerField_ok hi
    exact ⟨i, rfl, (hv _ rfl).1, hlt⟩
  · rintro ⟨n, rfl, -, hlt⟩
    exact ⟨n, integerField_ofInt hlt name⟩

/-- A slot is any whole number without a sign that fits a word. -/
lemma slotField_isOk_iff {v : Json} (hv : ∀ n, v = .number n → n.InRange) (name : String) :
    (∃ i, slotField name v = .ok i) ↔ ∃ n : Nat, v = .ofNat n ∧ n < wordBound := by
  constructor
  · rintro ⟨i, hi⟩
    obtain rfl := slotField_ok hi
    have hlt : (i : Int) < wordBound := (hv _ rfl).2
    exact ⟨i, rfl, by exact_mod_cast hlt⟩
  · rintro ⟨n, rfl, -⟩
    exact ⟨n, slotField_ofNat n name⟩

/-- Five of the seven elements are looked at; the other two and all further ones may be anything. -/
lemma ofTuple_isOk_iff {id originId originSlot targetId targetSlot typeTag connectionId : Json}
    {trailing : List Json} :
    (∃ l, ofTuple (id :: originId :: originSlot :: targetId :: targetSlot :: typeTag ::
        connectionId :: trailing) = .ok l) ↔
      (∃ i, integerField "id" id = .ok i) ∧ (∃ i, integerField "origin_id" originId = .ok i) ∧
      (∃ i, slotField "origin_slot" originSlot = .ok i) ∧
      (∃ i, integerField "target_id" targetId = .ok i) ∧
      ∃ i, slotField "target_slot" targetSlot = .ok i := by
  simp only [ofTuple, bind_eq_ok_iff]
  constructor
  · rintro ⟨l, a, ha, b, hb, c, hc, d, hd, e, he, -⟩
    exact ⟨⟨a, ha⟩, ⟨b, hb⟩, ⟨c, hc⟩, ⟨d, hd⟩, e, he⟩
  · rintro ⟨⟨a, ha⟩, ⟨b, hb⟩, ⟨c, hc⟩, ⟨d, hd⟩, e, he⟩
    exact ⟨_, a, ha, b, hb, c, hc, d, hd, e, he, rfl⟩

/-- A tuple is a link exactly if it has the elements that a link needs. -/
lemma ofTuple_isOk_iff_isTuple {vs : List Json} (hvs : ∀ n, .number n ∈ vs → n.InRange) :
    (∃ l, ofTuple vs = .ok l) ↔ IsTuple vs := by
  rcases vs with _ | ⟨id, _ | ⟨originId, _ | ⟨originSlot, _ | ⟨targetId, _ | ⟨targetSlot,
    _ | ⟨typeTag, _ | ⟨connectionId, trailing⟩⟩⟩⟩⟩⟩⟩
  case cons.cons.cons.cons.cons.cons.cons =>
    rw [ofTuple_isOk_iff, integerField_isOk_iff fun n hn => hvs n (by simp [hn]),
      integerField_isOk_iff fun n hn => hvs n (by simp [hn]),
      slotField_isOk_iff fun n hn => hvs n (by simp [hn]),
      integerField_isOk_iff fun n hn => hvs n (by simp [hn]),
      slotField_isOk_iff fun n hn => hvs n (by simp [hn])]
    constructor
    · rintro ⟨hid, horiginId, horiginSlot, htargetId, htargetSlot⟩
      exact ⟨by simp [fieldCount], by simpa using ⟨hid, horiginId, htargetId⟩,
        by simpa using ⟨horiginSlot, htargetSlot⟩⟩
    · rintro ⟨-, hsigned, hunsigned⟩
      simp only [List.forall_mem_cons, List.getElem?_cons_zero, List.getElem?_cons_succ,
        Option.some.injEq] at hsigned hunsigned
      exact ⟨hsigned.1, hsigned.2.1, hunsigned.1, hsigned.2.2.1, hunsigned.2.1⟩
  all_goals
    refine iff_of_false ?_ fun h => absurd h.length (by simp [fieldCount])
    rintro ⟨l, ⟨⟩⟩

lemma sorted_eq_ofInt_iff {v : Json} {n : Int} : v.sorted = .ofInt n ↔ v = .ofInt n := by
  cases v <;> simp [Json.sorted, Json.ofInt]

/-- Whether an array is a link does not depend on the order of members inside. -/
lemma isTuple_sorted_iff {vs : List Json} : IsTuple (vs.map Json.sorted) ↔ IsTuple vs := by
  have hget : ∀ (i : Nat) (n : Int),
      (vs.map Json.sorted)[i]? = some (.ofInt n) ↔ vs[i]? = some (.ofInt n) := by
    intro i n
    simp only [List.getElem?_map, Option.map_eq_some_iff, sorted_eq_ofInt_iff, exists_eq_right]
  constructor
  · rintro ⟨hlength, hsigned, hunsigned⟩
    exact ⟨by simpa using hlength, by simpa only [hget] using hsigned,
      by simpa only [Json.ofNat, hget] using hunsigned⟩
  · rintro ⟨hlength, hsigned, hunsigned⟩
    exact ⟨by simpa using hlength, by simpa only [hget] using hsigned,
      by simpa only [Json.ofNat, hget] using hunsigned⟩

/-- An array is read as a link exactly if it has the elements that a link needs. -/
lemma ofReading_isOk_iff {vs : List Json} (hvs : ∀ n, .number n ∈ vs → n.InRange) :
    (∃ l, ofReading (Json.array vs).reading = .ok l) ↔ IsTuple vs := by
  have hsorted : (Json.array vs).sorted = .array (vs.map Json.sorted) := by
    rw [Json.sorted, Json.sortedItems_eq_map]
  have hnumbers : ∀ n, .number n ∈ vs.map Json.sorted → n.InRange := by
    intro n hn
    obtain ⟨w, hw, hwn⟩ := List.mem_map.mp hn
    cases w <;> rw [Json.sorted] at hwn <;> cases hwn
    exact hvs n hw
  rw [← isTuple_sorted_iff, ← ofTuple_isOk_iff_isTuple hnumbers, ofReading,
    Json.sequence_reading_iff.mpr hsorted]
  exact exists_congr fun l => mapError_eq_ok_iff

end Link

/-- Links are written again as they were read. -/
lemma links_toJson_ofReading {v : Json} {links : List Link}
    (h : linksOfReading v.reading = .ok links) :
    (Json.array (links.map Link.toJson)).sorted = v.sorted := by
  cases v with
  | array vs =>
    rw [Json.reading, linksOfReading] at h
    obtain ⟨xs, hxs, h⟩ := bind_eq_ok_iff.mp h
    obtain ⟨u, -, h⟩ := bind_eq_ok_iff.mp h
    cases h
    rw [← List.map_id vs]
    exact Json.sorted_array_of_mapM (fun v _ l hl => Link.toJson_ofReading hl) hxs
  | _ =>
    rw [Json.reading] at h
    cases h

/-! ### Nodes -/

lemma Document.tidied_eq_null_iff (v : Json) : tidied v = .null ↔ v = .null := by
  cases v <;> simp [tidied]

lemma slotsTidied_eq_null_iff (v : Json) : slotsTidied v = .null ↔ v = .null := by
  cases v <;> simp [slotsTidied]

lemma subgraphOfReading_eq_optional (r : Reading) :
    subgraphOfReading r = r.optional Document.ofReading := by
  cases r <;> rw [subgraphOfReading] <;> first | rfl | rintro ⟨⟩

namespace Node

lemma listTidied_eq_map (vs : List Json) : listTidied vs = vs.map tidied := by
  induction vs with
  | nil => rw [listTidied, List.map_nil]
  | cons v vs ih => rw [listTidied, ih, List.map_cons]

def Draft.parts (d : Draft) : List Members :=
  [Json.field "id" (d.id.map .ofInt), Json.field "type" (d.type.map .string),
    Json.field "title" (d.title.join.map .string),
    Json.field "properties" (d.properties.map .object),
    Json.field "subgraph" (d.subgraph.join.map Document.toJson),
    Json.field "inputs" (slotsToJson d.inputs.join),
    Json.field "outputs" (slotsToJson d.outputs.join), d.extra]

/-- What was read of a node is written again, if it is so for its subgraph. -/
lemma Draft.sameMembers_addAll {ms : Members} (hkeys : ∀ m ∈ ms, m.2.distinctKeys)
    (hsub : ∀ m ∈ ms, ∀ c, Document.ofReading m.2.reading = .ok c →
      c.toJson.sorted = (Document.tidied m.2).sorted)
    {d d' : Draft} (h : d.addAll (Json.memberReadings ms) = .ok d') :
    SameMembers d'.parts.flatten (d.parts.flatten ++ tidiedMembers ms) := by
  induction ms generalizing d with
  | nil =>
    rw [Json.memberReadings, addAll] at h
    cases h
    rw [tidiedMembers, List.append_nil]
    exact .refl _
  | cons m ms ih =>
    obtain ⟨key, v⟩ := m
    obtain ⟨id, type, title, properties, sub, inputs, outputs, extra⟩ := d
    obtain ⟨hv, hkeys'⟩ := List.forall_mem_cons.mp hkeys
    obtain ⟨hchild, hsub'⟩ := List.forall_mem_cons.mp hsub
    -- from here on the drafts of the rest are all that is needed
    have hrest := fun {d} => ih (d := d) hkeys' hsub'
    clear ih hkeys hsub
    rw [Json.memberReadings, addAll] at h
    rw [tidiedMembers, ← List.append_assoc]
    split_ifs at h with hid htype htitle hproperties hsubgraph hinputs houtputs
    · obtain rfl : id = none := once_unseen h
      obtain ⟨x, hx, hd⟩ := once_bind_ok h
      obtain rfl := Json.signedWord_reading hx
      subst hid
      refine (hrest hd).trans (.append ?_ (.refl _))
      exact .set (parts ⟨none, type, title, properties, sub, inputs, outputs, extra⟩) 0 rfl rfl
    · obtain rfl : type = none := once_unseen h
      obtain ⟨x, hx, hd⟩ := once_bind_ok h
      obtain rfl := Json.text_reading hx
      subst htype
      refine (hrest hd).trans (.append ?_ (.refl _))
      exact .set (parts ⟨id, none, title, properties, sub, inputs, outputs, extra⟩) 1 rfl rfl
    · obtain rfl : title = none := once_unseen h
      obtain ⟨x, hx, hd⟩ := once_bind_ok h
      have hfield := Json.field_of_optional .string (fun w => w) (fun _ => Iff.rfl)
        (fun _ ht => by rw [Json.text_reading ht]) hx "title"
      subst htitle
      refine (hrest hd).trans (.append ?_ (.refl _))
      exact .set (parts ⟨id, type, none, properties, sub, inputs, outputs, extra⟩) 2 rfl hfield
    · obtain rfl : properties = none := once_unseen h
      obtain ⟨x, hx, hd⟩ := once_bind_ok h
      subst hproperties
      refine (hrest hd).trans (.append ?_ (.refl _))
      refine .set (parts ⟨id, type, title, none, sub, inputs, outputs, extra⟩) 3 rfl ?_
      change Json.sortedMembers [("properties", .object x)] = Json.sortedMembers [("properties", v)]
      simp only [Json.sortedMembers, Json.map_reading hx, Json.sorted_sorted]
    · obtain rfl : sub = none := once_unseen h
      obtain ⟨x, hx, hd⟩ := once_bind_ok h
      subst hsubgraph
      refine (hrest hd).trans (.append ?_ (.refl _))
      refine .set (parts ⟨id, type, title, properties, none, inputs, outputs, extra⟩) 4 rfl ?_
      rw [subgraphOfReading_eq_optional] at hx
      exact Json.field_of_optional _ Document.tidied Document.tidied_eq_null_iff hchild hx
        "subgraph"
    · obtain rfl : inputs = none := once_unseen h
      obtain ⟨x, hx, hd⟩ := once_bind_ok h
      subst hinputs
      refine (hrest hd).trans (.append ?_ (.refl _))
      refine .set (parts ⟨id, type, title, properties, sub, none, outputs, extra⟩) 5 rfl ?_
      exact Json.field_of_optional _ slotsTidied slotsTidied_eq_null_iff
        (fun _ hs => slots_toJson_ofReading hv hs) hx "inputs"
    · obtain rfl : outputs = none := once_unseen h
      obtain ⟨x, hx, hd⟩ := once_bind_ok h
      subst houtputs
      refine (hrest hd).trans (.append ?_ (.refl _))
      refine .set (parts ⟨id, type, title, properties, sub, inputs, none, extra⟩) 6 rfl ?_
      exact Json.field_of_optional _ slotsTidied slotsTidied_eq_null_iff
        (fun _ hs => slots_toJson_ofReading hv hs) hx "outputs"
    · obtain ⟨x, hx, hd⟩ := map_bind_ok h
      refine (hrest hd).trans (.append ?_ (.refl _))
      -- a key of no field: nothing is tidied, and the member goes to the rest
      rw [if_neg htitle, if_neg hsubgraph, if_neg (not_or.mpr ⟨hinputs, houtputs⟩)]
      exact Json.sameMembers_extra hx [_, _, _, _, _, _, _] extra key

/-- The properties of a node are those of its draft, if the draft had none before. -/
lemma Draft.properties_eq_none_iff {ms : Members} {d d' : Draft}
    (h : d.addAll (Json.memberReadings ms) = .ok d') :
    d'.properties = none ↔ d.properties = none ∧ "properties" ∉ ms.map Prod.fst := by
  induction ms generalizing d with
  | nil =>
    rw [Json.memberReadings, addAll] at h
    cases h
    simp
  | cons m ms ih =>
    obtain ⟨key, v⟩ := m
    rw [Json.memberReadings, addAll] at h
    rw [List.map_cons, List.mem_cons, not_or]
    -- only the field itself sets the properties, and no field unsets them
    split_ifs at h with hid htype htitle hproperties hsubgraph hinputs houtputs
    case pos =>
      obtain ⟨x, -, hd⟩ := once_bind_ok h
      simp [ih hd, hid]
    case pos =>
      obtain ⟨x, -, hd⟩ := once_bind_ok h
      simp [ih hd, htype]
    case pos =>
      obtain ⟨x, -, hd⟩ := once_bind_ok h
      simp [ih hd, htitle]
    case pos =>
      obtain ⟨x, -, hd⟩ := once_bind_ok h
      simp [ih hd, hproperties]
    case pos =>
      obtain ⟨x, -, hd⟩ := once_bind_ok h
      simp [ih hd, hsubgraph]
    case pos =>
      obtain ⟨x, -, hd⟩ := once_bind_ok h
      simp [ih hd, hinputs]
    case pos =>
      obtain ⟨x, -, hd⟩ := once_bind_ok h
      simp [ih hd, houtputs]
    case neg =>
      obtain ⟨x, -, hd⟩ := map_bind_ok h
      simp [ih hd, Ne.symm hproperties]

/-- No key is there twice: the properties are added only where they are missing. -/
lemma keys_tidied_nodup {ms : Members} (hkeys : (ms.map Prod.fst).Nodup) :
    ((tidiedMembers ms ++ missingProperties ms).map Prod.fst).Nodup := by
  have hsub : ((tidiedMembers ms).map Prod.fst).Sublist (ms.map Prod.fst) := by
    clear hkeys
    induction ms with
    | nil => rw [tidiedMembers]
    | cons m ms ih =>
      rw [tidiedMembers]
      refine Json.keys_append_sublist ?_ ih m.2
      split_ifs
      · exact Json.keys_unlessNull_sublist _ _
      · exact Json.keys_unlessNull_sublist _ _
      · exact Json.keys_unlessNull_sublist _ _
      · exact .refl _
  rw [missingProperties]
  split_ifs with hproperties
  · rw [List.append_nil]
    exact hsub.nodup hkeys
  · exact nodup_concat (hsub.nodup hkeys) fun hmem => hproperties (hsub.subset hmem)

/-- Properties are written also where there were none. -/
lemma Draft.sameMembers_complete {ms : Members} {d : Draft}
    (hd : addAll {} (Json.memberReadings ms) = .ok d)
    (hsame : SameMembers d.parts.flatten (tidiedMembers ms)) :
    SameMembers (parts { d with properties := some (d.properties.getD []) }).flatten
      (tidiedMembers ms ++ missingProperties ms) := by
  have hnone := properties_eq_none_iff hd
  cases hproperties : d.properties with
  | some p =>
    have hmem : "properties" ∈ ms.map Prod.fst := by
      by_contra hmem
      rw [hnone.mpr ⟨rfl, hmem⟩] at hproperties
      cases hproperties
    rw [missingProperties, if_pos hmem, List.append_nil, Option.getD_some, ← hproperties]
    exact hsame
  | none =>
    rw [missingProperties, if_neg (hnone.mp hproperties).2]
    have hparts : d.parts[3]? = some [] := by
      rw [parts, hproperties]
      rfl
    exact (SameMembers.set d.parts 3 hparts rfl).trans (hsame.append (.refl _))

/-- A node is written again as it was read, if its subgraph is. -/
lemma toJson_ofReading {v : Json} {n : Node} (hkeys : v.distinctKeys)
    (hsub : ∀ ms, v = .object ms → ∀ m ∈ ms, ∀ c, Document.ofReading m.2.reading = .ok c →
      c.toJson.sorted = (Document.tidied m.2).sorted)
    (h : ofReading v.reading = .ok n) : n.toJson.sorted = (tidied v).sorted := by
  cases v with
  | object ms =>
    rw [Json.reading, ofReading] at h
    obtain ⟨d, hd, h⟩ := bind_eq_ok_iff.mp h
    obtain ⟨u, -, h⟩ := bind_eq_ok_iff.mp h
    obtain ⟨id, hid, h⟩ := bind_eq_ok_iff.mp h
    obtain ⟨type, htype, h⟩ := bind_eq_ok_iff.mp h
    cases h
    obtain ⟨hms, hvalues⟩ := Json.distinctKeys_object_iff.mp hkeys
    have hsame := Draft.sameMembers_addAll hvalues (hsub ms rfl) hd
    have hcomplete := Draft.sameMembers_complete hd hsame
    rw [Draft.parts, required_ok hid, required_ok htype] at hcomplete
    rw [toJson, Document.toJson?_eq_map, tidied]
    refine SameMembers.sorted_object ?_ (keys_tidied_nodup hms)
    simpa [Json.field] using hcomplete
  | _ =>
    rw [Json.reading] at h
    unfold ofReading at h
    cases h

end Node

/-- Nodes are written again as they were read, if each of them is. -/
lemma nodes_toJson_ofReading {v : Json} {nodes : List Node}
    (hnode : ∀ vs, v = .array vs → ∀ w ∈ vs, ∀ n, Node.ofReading w.reading = .ok n →
      n.toJson.sorted = (Node.tidied w).sorted)
    (h : nodesOfReading v.reading = .ok nodes) :
    (Json.array (Node.listToJson nodes)).sorted = (nodesTidied v).sorted := by
  cases v with
  | array vs =>
    rw [Json.reading, nodesOfReading] at h
    obtain ⟨ns, hns, h⟩ := bind_eq_ok_iff.mp h
    obtain ⟨u, -, h⟩ := bind_eq_ok_iff.mp h
    cases h
    rw [Node.listOfReading_eq_mapM] at hns
    rw [Node.listToJson_eq_map, nodesTidied, Node.listTidied_eq_map]
    exact Json.sorted_array_of_mapM (hnode vs rfl) hns
  | _ =>
    rw [Json.reading] at h
    unfold nodesOfReading at h
    cases h

/-! ### Documents -/

namespace Document

def Draft.parts (d : Draft) : List Members :=
  [Json.field "nodes" (d.nodes.map fun ns => .array (Node.listToJson ns)),
    Json.field "links" (d.links.map fun ls => .array (ls.map Link.toJson)),
    Json.field "bus_id" (d.busId.join.map .string), d.extra]

/-- What was read of a document is written again, if it is so for its nodes. -/
lemma Draft.sameMembers_addAll {ms : Members}
    (hnodes : ∀ m ∈ ms, ∀ ns, nodesOfReading m.2.reading = .ok ns →
      (Json.array (Node.listToJson ns)).sorted = (nodesTidied m.2).sorted)
    {d d' : Draft} (h : d.addAll (Json.memberReadings ms) = .ok d') :
    SameMembers d'.parts.flatten (d.parts.flatten ++ tidiedMembers ms) := by
  induction ms generalizing d with
  | nil =>
    rw [Json.memberReadings, addAll] at h
    cases h
    rw [tidiedMembers, List.append_nil]
    exact .refl _
  | cons m ms ih =>
    obtain ⟨key, v⟩ := m
    obtain ⟨nodes, links, busId, extra⟩ := d
    obtain ⟨hv, hnodes'⟩ := List.forall_mem_cons.mp hnodes
    rw [Json.memberReadings, addAll] at h
    rw [tidiedMembers, ← List.append_assoc]
    split_ifs at h with hkey hlinks hbusId
    · obtain rfl : nodes = none := once_unseen h
      obtain ⟨x, hx, hd⟩ := once_bind_ok h
      subst hkey
      refine (ih hnodes' hd).trans (.append ?_ (.refl _))
      refine .set (parts ⟨none, links, busId, extra⟩) 0 rfl ?_
      change Json.sortedMembers [("nodes", .array (Node.listToJson x))]
        = Json.sortedMembers [("nodes", nodesTidied v)]
      simp only [Json.sortedMembers, hv x hx]
    · obtain rfl : links = none := once_unseen h
      obtain ⟨x, hx, hd⟩ := once_bind_ok h
      subst hlinks
      refine (ih hnodes' hd).trans (.append ?_ (.refl _))
      refine .set (parts ⟨nodes, none, busId, extra⟩) 1 rfl ?_
      change Json.sortedMembers [("links", .array (x.map Link.toJson))]
        = Json.sortedMembers [("links", v)]
      simp only [Json.sortedMembers, links_toJson_ofReading hx]
    · obtain rfl : busId = none := once_unseen h
      obtain ⟨x, hx, hd⟩ := once_bind_ok h
      have hfield := Json.field_of_optional .string (fun w => w) (fun _ => Iff.rfl)
        (fun _ ht => by rw [Json.text_reading ht]) hx "bus_id"
      subst hbusId
      refine (ih hnodes' hd).trans (.append ?_ (.refl _))
      exact .set (parts ⟨nodes, links, none, extra⟩) 2 rfl hfield
    · obtain ⟨x, hx, hd⟩ := map_bind_ok h
      refine (ih hnodes' hd).trans (.append ?_ (.refl _))
      rw [if_neg hkey, if_neg hbusId]
      exact Json.sameMembers_extra hx [_, _, _] extra key

lemma keys_tidied_sublist (ms : Members) :
    ((tidiedMembers ms).map Prod.fst).Sublist (ms.map Prod.fst) := by
  induction ms with
  | nil => rw [tidiedMembers]
  | cons m ms ih =>
    rw [tidiedMembers]
    refine Json.keys_append_sublist ?_ ih m.2
    split_ifs
    · exact .refl _
    · exact Json.keys_unlessNull_sublist _ _
    · exact .refl _

/-- A document is written again as it was read, if its nodes are. -/
lemma toJson_ofReading {v : Json} {d : Document} (hkeys : v.distinctKeys)
    (hnodes : ∀ ms, v = .object ms → ∀ m ∈ ms, ∀ ns, nodesOfReading m.2.reading = .ok ns →
      (Json.array (Node.listToJson ns)).sorted = (nodesTidied m.2).sorted)
    (h : ofReading v.reading = .ok d) : d.toJson.sorted = (tidied v).sorted := by
  cases v with
  | object ms =>
    rw [Json.reading, ofReading] at h
    obtain ⟨d, hd, h⟩ := bind_eq_ok_iff.mp h
    obtain ⟨u, -, h⟩ := bind_eq_ok_iff.mp h
    obtain ⟨nodes, hns, h⟩ := bind_eq_ok_iff.mp h
    obtain ⟨links, hlinks, h⟩ := bind_eq_ok_iff.mp h
    cases h
    obtain ⟨hms, -⟩ := Json.distinctKeys_object_iff.mp hkeys
    have hsame := Draft.sameMembers_addAll (hnodes ms rfl) hd
    rw [Draft.parts, required_ok hns, required_ok hlinks] at hsame
    rw [toJson, tidied]
    refine SameMembers.sorted_object ?_ ((keys_tidied_sublist ms).nodup hms)
    simpa [Draft.parts, Json.field] using hsame
  | _ =>
    rw [Json.reading] at h
    unfold ofReading at h
    cases h

end Document

/-! ### Values at every depth -/

/-- Whatever a value is read as within a document is written again as it was. -/
structure Json.Kept (v : Json) : Prop where
  document : ∀ d, Document.ofReading v.reading = .ok d →
    d.toJson.sorted = (Document.tidied v).sorted
  node : ∀ n, Node.ofReading v.reading = .ok n → n.toJson.sorted = (Node.tidied v).sorted
  nodes : ∀ ns, nodesOfReading v.reading = .ok ns →
    (Json.array (Node.listToJson ns)).sorted = (nodesTidied v).sorted

/-- A value is kept if its items and the values of its members are. -/
lemma Json.Kept.intro {v : Json} (hkeys : v.distinctKeys)
    (hitems : ∀ vs, v = .array vs → ∀ w ∈ vs, w.Kept)
    (hmembers : ∀ ms, v = .object ms → ∀ m ∈ ms, m.2.Kept) : v.Kept where
  document _ hd :=
    Document.toJson_ofReading hkeys (fun ms hms m hm => (hmembers ms hms m hm).nodes) hd
  node _ hn :=
    Node.toJson_ofReading hkeys (fun ms hms m hm => (hmembers ms hms m hm).document) hn
  nodes _ hns := nodes_toJson_ofReading (fun vs hvs w hw => (hitems vs hvs w hw).node) hns

/-- Every value is kept where it is read, whatever it is read as. The values in it are smaller, and
a document is only ever read from one of those. -/
lemma Json.kept {v : Json} (hkeys : v.distinctKeys) : v.Kept := by
  induction v using Json.induction with
  | array vs ih =>
    refine .intro hkeys ?_ nofun
    rintro _ ⟨⟩ w hw
    exact ih w hw (Json.distinctKeys_array_iff.mp hkeys w hw)
  | object ms ih =>
    refine .intro hkeys nofun ?_
    rintro _ ⟨⟩ m hm
    exact ih m hm ((Json.distinctKeys_object_iff.mp hkeys).2 m hm)
  | _ => exact .intro hkeys nofun nofun

/-- What is read as a document is written again as it was, but for absent fields that were `null`
and properties that were missing; and what is read as a link is a tuple with the elements that a
link needs. -/
theorem Document.ofReading_preserves :
    (∀ (v : Json) (d : Document), v.distinctKeys → ofReading v.reading = .ok d →
      d.toJson.sorted = (tidied v).sorted) ∧
    ∀ vs : List Json, (∀ n, .number n ∈ vs → n.InRange) →
      ((∃ l, Link.ofReading (Json.array vs).reading = .ok l) ↔ Link.IsTuple vs) :=
  ⟨fun _ d hkeys hd => (Json.kept hkeys).document d hd, fun _ hvs => Link.ofReading_isOk_iff hvs⟩

def longTuple : List Json :=
  [.ofInt 7, .ofInt 2, .ofInt 0, .ofInt 3, .ofInt 1, .null, .null, .string "spare"]

/-- A document whose absent fields are `null`, and whose node has no properties but a subgraph. -/
def untidy : Json :=
  .object [("bus_id", .null), ("links", .array []), ("nodes", .array [.object
    [("type", .string "cyperus/bus"), ("id", .ofInt 1), ("title", .null), ("note", .null),
      ("inputs", .array [.object [("id", .null), ("name", .string "in")]]),
      ("subgraph", .object
        [("nodes", .array []), ("bus_id", .null), ("links", .array [.array longTuple])])]])]

def tidy : Json :=
  .object [("links", .array []), ("nodes", .array [.object
    [("type", .string "cyperus/bus"), ("id", .ofInt 1), ("note", .null),
      ("inputs", .array [.object [("name", .string "in")]]),
      ("subgraph", .object [("nodes", .array []), ("links", .array [.array longTuple])]),
      ("properties", .object [])]])]

theorem untidy_preserved :
    (∃ d, untidy.distinctKeys ∧ Document.ofReading untidy.reading = .ok d ∧
      d.toJson.sorted = tidy.sorted) ∧
    ((∃ l, Link.ofReading (Json.array longTuple).reading = .ok l) ↔ Link.IsTuple longTuple) := by
  have htidied : Document.tidied untidy = tidy := rfl
  have hnumbers : ∀ n, .number n ∈ longTuple → n.InRange := by
    intro n hn
    simp only [longTuple, Json.ofInt, List.mem_cons, Json.number.injEq, reduceCtorEq,
      List.not_mem_nil, or_false] at hn
    rcases hn with rfl | rfl | rfl | rfl | rfl <;> exact ⟨by decide, by decide⟩
  refine ⟨?_, Document.ofReading_preserves.2 longTuple hnumbers⟩
  obtain ⟨d, hd⟩ : ∃ d, Document.ofReading untidy.reading = .ok d := by
    refine ⟨?document, ?read⟩
    case read =>
      simp only [untidy, longTuple, Json.reading, Json.memberReadings, Json.itemReadings,
        Document.ofReading, Document.Draft.addAll, nodesOfReading, Node.listOfReading,
        Node.ofReading, Node.Draft.addAll, subgraphOfReading]
      rfl
  refine ⟨d, by decide, hd, ?_⟩
  rw [← htidied]
  exact Document.ofReading_preserves.1 untidy d (by decide) hd

end Patchbay
