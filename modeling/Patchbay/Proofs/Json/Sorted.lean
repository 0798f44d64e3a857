import Patchbay.Proofs.Json.Stored

/-!
# Values up to the order of members

The order in which an object has its members does not matter. So values are compared with the
members of all their objects put in the order of their keys, and this is also how a free-form value
is read.
-/

namespace Patchbay.Json

mutual

/-- A value with the members of all its objects in the order of their keys. -/
def sorted : Json → Json
  | .null => .null
  | .bool b => .bool b
  | .number n => .number n
  | .string s => .string s
  | .array vs => .array (sortedItems vs)
  | .object ms => .object (Keyed.ofList (sortedMembers ms))

def sortedItems : List Json → List Json
  | [] => []
  | v :: vs => sorted v :: sortedItems vs

def sortedMembers : List (String × Json) → List (String × Json)
  | [] => []
  | (k, v) :: ms => (k, sorted v) :: sortedMembers ms

end

mutual

/-- Whether no object in a value has two members with the same key. -/
def distinctKeys : Json → Bool
  | .null | .bool _ | .number _ | .string _ => true
  | .array vs => itemsDistinct vs
  | .object ms => decide (ms.map Prod.fst).Nodup && membersDistinct ms

def itemsDistinct : List Json → Bool
  | [] => true
  | v :: vs => distinctKeys v && itemsDistinct vs

def membersDistinct : List (String × Json) → Bool
  | [] => true
  | (_, v) :: ms => distinctKeys v && membersDistinct ms

end

lemma sortedItems_eq_map (vs : List Json) : sortedItems vs = vs.map sorted := by
  induction vs with
  | nil => rw [sortedItems, List.map_nil]
  | cons v vs ih => rw [sortedItems, ih, List.map_cons]

lemma sortedMembers_eq_map (ms : List (String × Json)) :
    sortedMembers ms = ms.map (Prod.map id sorted) := by
  induction ms with
  | nil => rw [sortedMembers, List.map_nil]
  | cons m ms ih => rw [sortedMembers, ih, List.map_cons, Prod.map, id_eq]

lemma keys_sortedMembers (ms : List (String × Json)) :
    (sortedMembers ms).map Prod.fst = ms.map Prod.fst := by
  rw [sortedMembers_eq_map, List.map_map]
  rfl

lemma distinctKeys_array_iff {vs : List Json} :
    (Json.array vs).distinctKeys ↔ ∀ v ∈ vs, v.distinctKeys := by
  rw [distinctKeys]
  induction vs with
  | nil => simp [itemsDistinct]
  | cons v vs ih => rw [itemsDistinct, Bool.and_eq_true, ih, List.forall_mem_cons]

/-- The keys of an object are distinct, and so are those in the values of its members. -/
lemma distinctKeys_object_iff {ms : List (String × Json)} :
    (Json.object ms).distinctKeys ↔ (ms.map Prod.fst).Nodup ∧ ∀ m ∈ ms, m.2.distinctKeys := by
  have hmembers : membersDistinct ms ↔ ∀ m ∈ ms, m.2.distinctKeys := by
    induction ms with
    | nil => simp [membersDistinct]
    | cons m ms ih => rw [membersDistinct, Bool.and_eq_true, ih, List.forall_mem_cons]
  rw [distinctKeys, Bool.and_eq_true, decide_eq_true_iff, hmembers]

/-- What holds of a value if it holds of its items and of the values of its members holds of all
values. -/
theorem induction {P : Json → Prop} (null : P .null) (bool : ∀ b, P (.bool b))
    (number : ∀ n, P (.number n)) (string : ∀ s, P (.string s))
    (array : ∀ vs, (∀ v ∈ vs, P v) → P (.array vs))
    (object : ∀ ms, (∀ m ∈ ms, P m.2) → P (.object ms)) (v : Json) : P v :=
  match v with
  | .null => null
  | .bool b => bool b
  | .number n => number n
  | .string s => string s
  | .array vs => array vs fun v hv =>
    have := List.sizeOf_lt_of_mem hv
    induction null bool number string array object v
  | .object ms => object ms fun m hm =>
    have := List.sizeOf_lt_of_mem hm
    have : sizeOf m.2 < sizeOf m := by
      obtain ⟨k, v⟩ := m
      simp only [Prod.mk.sizeOf_spec]
      omega
    induction null bool number string array object m.2
termination_by sizeOf v

/-- What is in order stays as it is. -/
lemma sorted_sorted (v : Json) : v.sorted.sorted = v.sorted := by
  induction v using Json.induction with
  | null | bool | number | string => rfl
  | array vs ih =>
    rw [sorted, sorted, sortedItems_eq_map, sortedItems_eq_map, List.map_map]
    exact congrArg array (List.map_congr_left ih)
  | object ms ih =>
    have hms : (ms.map (Prod.map id sorted)).map (Prod.map id sorted)
        = ms.map (Prod.map id sorted) := by
      rw [List.map_map]
      exact List.map_congr_left fun m hm => Prod.ext rfl (ih m hm)
    rw [sorted, sorted, sortedMembers_eq_map, sortedMembers_eq_map, Keyed.map_ofList, hms,
      (Keyed.ascending_ofList _).ofList_eq]

/-- A value that stands whole in a text is read with its members in order. -/
lemma json_reading (v : Json) : Reading.json v.reading = .ok v.sorted := by
  induction v using Json.induction with
  | null | bool | number | string => rw [reading, Reading.json, sorted]
  | array vs ih =>
    have hvs : Reading.jsonItems (itemReadings vs) = .ok (sortedItems vs) := by
      rw [itemReadings_eq_map, sortedItems_eq_map, Reading.jsonItems_eq_ok_iff,
        List.forall₂_map_left_iff, List.forall₂_map_right_iff]
      exact List.forall₂_same.mpr ih
    rw [reading, Reading.json, hvs, sorted]
    rfl
  | object ms ih =>
    have hms : Reading.jsonMembers (memberReadings ms) = .ok (sortedMembers ms) := by
      rw [memberReadings_eq_map, sortedMembers_eq_map, Reading.jsonMembers_eq_ok_iff,
        List.forall₂_map_left_iff, List.forall₂_map_right_iff]
      exact List.forall₂_same.mpr fun m hm => ⟨rfl, ih m hm⟩
    rw [reading, Reading.json, hms, sorted]
    rfl

/-- Arrays are the same up to the order of members if their items are. -/
lemma sorted_array_congr {vs ws : List Json}
    (h : List.Forall₂ (fun v w => v.sorted = w.sorted) vs ws) :
    (Json.array vs).sorted = (Json.array ws).sorted := by
  rw [sorted, sorted, sortedItems_eq_map, sortedItems_eq_map]
  rw [← List.forall₂_map_right_iff, ← List.forall₂_map_left_iff, List.forall₂_eq_eq_eq] at h
  rw [h]

/-! ### The same members -/

/-- Two lists have the same members, be it in another order and with other orders in them. -/
def SameMembers (ms ms' : Members) : Prop := (sortedMembers ms).Perm (sortedMembers ms')

namespace SameMembers

variable {ms ms' ns ns' : Members}

lemma refl (ms : Members) : SameMembers ms ms := List.Perm.refl _

lemma trans {ms'' : Members} (h : SameMembers ms ms') (h' : SameMembers ms' ms'') :
    SameMembers ms ms'' := List.Perm.trans h h'

lemma of_eq (h : sortedMembers ms = sortedMembers ms') : SameMembers ms ms' := List.Perm.of_eq h

lemma of_perm (h : ms.Perm ms') : SameMembers ms ms' := by
  rw [SameMembers, sortedMembers_eq_map, sortedMembers_eq_map]
  exact h.map _

lemma append (h : SameMembers ms ms') (h' : SameMembers ns ns') :
    SameMembers (ms ++ ns) (ms' ++ ns') := by
  rw [SameMembers, sortedMembers_eq_map] at h h' ⊢
  rw [sortedMembers_eq_map] at h h' ⊢
  rw [List.map_append, List.map_append]
  exact List.Perm.append h h'

/-- Members that are put where there were none are new ones. -/
lemma set (parts : List Members) (i : Nat) (hi : parts[i]? = some [])
    (h : sortedMembers ns = sortedMembers ns') :
    SameMembers (parts.set i ns).flatten (parts.flatten ++ ns') := by
  refine trans (of_perm ?_) ((refl _).append (of_eq h))
  induction parts generalizing i with
  | nil => cases hi
  | cons part parts ih =>
    cases i with
    | zero =>
      obtain rfl : part = [] := by simpa using hi
      exact List.perm_append_comm
    | succ i =>
      rw [List.set_cons_succ, List.flatten_cons, List.flatten_cons, List.append_assoc]
      exact (ih i (by simpa using hi)).append_left part

/-- Members that are the same up to order have distinct keys together. -/
lemma nodup_iff (h : SameMembers ms ms') :
    (ms.map Prod.fst).Nodup ↔ (ms'.map Prod.fst).Nodup := by
  rw [← keys_sortedMembers ms, ← keys_sortedMembers ms']
  exact (h.map _).nodup_iff

/-- Objects with the same members are the same if no key comes twice, also where some members are
put in order. -/
lemma sorted_object {head extra : Members} (h : SameMembers (head ++ extra) ms)
    (hkeys : (ms.map Prod.fst).Nodup) :
    (Json.object (head ++ Keyed.ofList extra)).sorted = (Json.object ms).sorted := by
  have hextra : (extra.map Prod.fst).Nodup := by
    have hall := h.nodup_iff.mpr hkeys
    rw [List.map_append] at hall
    exact hall.of_append_right
  have hperm : SameMembers (head ++ Keyed.ofList extra) ms :=
    (of_perm ((Keyed.ofList_perm hextra).append_left head)).trans h
  rw [sorted, sorted, Keyed.ofList_eq_of_perm hperm]
  rw [keys_sortedMembers, hperm.nodup_iff]
  exact hkeys

end SameMembers

end Patchbay.Json
