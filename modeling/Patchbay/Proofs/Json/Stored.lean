import Patchbay.Json.Shape
import Patchbay.Proofs.Json.Text
import Patchbay.Proofs.Lists
import Patchbay.Proofs.Text.Keyed

/-!
# Values that were read

What a text is read as is nested as deep as is allowed, and its numbers are in range; the members of
the objects in it are kept by ascending keys. A value that is ordered so is the value of its own
reading.
-/

namespace Patchbay.Json

/-! ### Readings of texts -/

/-- Closed arrays and objects are nested at most so deep, and all numbers have a property. -/
inductive Reading.Within (N : Number → Prop) : Nat → Reading → Prop
  | null {k : Nat} : Within N k .null
  | bool {k : Nat} (b : Bool) : Within N k (.bool b)
  | number {k : Nat} {n : Number} (number : N n) : Within N k (.number n)
  | string {k : Nat} (s : String) : Within N k (.string s)
  | array {k : Nat} {rs : List Reading} (stop : Option Fault) (items : ∀ r ∈ rs, Within N k r) :
      Within N (k + 1) (.array rs stop)
  | object {k : Nat} {rs : List (String × Reading)} (stop : Option Fault)
      (members : ∀ m ∈ rs, Within N k m.2) : Within N (k + 1) (.object rs stop)
  | openArray {k : Nat} (f : Fault) : Within N k (.array [] (some f))
  | openObject {k : Nat} (f : Fault) : Within N k (.object [] (some f))
  | fault {k : Nat} (f : Fault) : Within N k (.fault f)

namespace Reading

lemma within_leaf {α : Type} {N : Number → Prop} {k : Nat} {f : α → Reading}
    {x : Except Fault (α × List Char)} (h : ∀ a s, x = .ok (a, s) → (f a).Within N k) :
    (leaf f x).1.Within N k := by
  rcases x with e | ⟨a, s⟩
  · exact .fault e
  · exact h a s rfl

mutual

/-- A value is nested as deep as is allowed where it stands. The proof follows the five functions
that read, with the fuel going down. -/
theorem value_within : ∀ (fuel k : Nat) (s : List Char),
    (value fuel k s).1.Within Number.InRange k
  | 0, k, s => by
    rw [value]
    exact .fault _
  | fuel + 1, k, s => by
    rw [value]
    split
    case h_1 => exact .fault _
    case h_2 => exact within_leaf fun _ _ _ => .string _
    case h_3 =>
      -- an array where no level of nesting is left is a fault after its bracket
      split_ifs with hk
      · exact .openArray _
      · obtain ⟨k, rfl⟩ := Nat.exists_eq_succ_of_ne_zero hk
        exact .array _ (items_within fuel k true _)
    case h_4 =>
      split_ifs with hk
      · exact .openObject _
      · obtain ⟨k, rfl⟩ := Nat.exists_eq_succ_of_ne_zero hk
        exact .object _ (members_within fuel k true _)
    case h_5 => exact within_leaf fun _ _ _ => .null
    case h_6 | h_7 => exact within_leaf fun _ _ _ => .bool _
    case h_8 =>
      split_ifs
      · exact within_leaf fun n t h => .number (number?_inRange h)
      · exact .fault _

theorem items_within : ∀ (fuel k : Nat) (first : Bool) (s : List Char),
    ∀ r ∈ (items fuel k first s).1, r.Within Number.InRange k
  | 0, k, first, s => by
    rw [items]
    simp
  | fuel + 1, k, first, s => by
    rw [items]
    split
    · simp
    · simp
    · split_ifs
      · exact item_within fuel k _
      · split
        · simp
        · simp
        · exact item_within fuel k _
      · simp

theorem item_within : ∀ (fuel k : Nat) (s : List Char),
    ∀ r ∈ (item fuel k s).1, r.Within Number.InRange k
  | 0, k, s => by
    rw [item]
    simp
  | fuel + 1, k, s => by
    have hv := value_within fuel k s
    rw [item]
    split
    case h_1 heq =>
      rw [heq] at hv
      simpa using hv
    case h_2 t heq =>
      rw [heq] at hv
      exact List.forall_mem_cons.mpr ⟨hv, items_within fuel k false t⟩

/-- The values of members may be nested one level less than their object. -/
theorem members_within : ∀ (fuel k : Nat) (first : Bool) (s : List Char),
    ∀ m ∈ (members fuel k first s).1, m.2.Within Number.InRange k
  | 0, k, first, s => by
    rw [members]
    simp
  | fuel + 1, k, first, s => by
    rw [members]
    split
    · simp
    · simp
    · split_ifs
      · exact member_within fuel k _
      · split
        · simp
        · exact member_within fuel k _
      · simp

theorem member_within : ∀ (fuel k : Nat) (s : List Char),
    ∀ m ∈ (member fuel k s).1, m.2.Within Number.InRange k
  | 0, k, s => by
    rw [member]
    simp
  | fuel + 1, k, s => by
    by_cases hs : ∃ t, s = '"' :: t
    · obtain ⟨t, rfl⟩ := hs
      rw [member]
      split
      · simp
      · split
        · simpa using .fault _
        case h_2 t _ =>
          have hv := value_within fuel k t
          split
          case h_1 heq =>
            rw [heq] at hv
            simpa using hv
          case h_2 t' heq =>
            rw [heq] at hv
            exact List.forall_mem_cons.mpr ⟨hv, members_within fuel k false t'⟩
        · simpa using .fault _
    · rw [member]
      · simp
      · exact fun t ht => hs ⟨t, ht⟩

end

end Reading

/-- The reading of a text is nested as deep as is allowed. -/
lemma read_within (text : String) :
    (read text).1.Within Number.InRange Reading.maxDepth := by
  have hv := Reading.value_within (3 * text.toList.length + 3) Reading.maxDepth text.toList
  unfold read
  dsimp only
  split <;> rename_i heq <;> rw [heq] at hv <;> exact hv

/-! ### Values in readings -/

/-- A value that is nested at most so deep, whose numbers have a property, and the members of whose
objects are in the order of their keys. -/
inductive Stored (N : Number → Prop) : Nat → Json → Prop
  | null {k : Nat} : Stored N k .null
  | bool {k : Nat} (b : Bool) : Stored N k (.bool b)
  | number {k : Nat} {n : Number} (number : N n) : Stored N k (.number n)
  | string {k : Nat} (s : String) : Stored N k (.string s)
  | array {k : Nat} {vs : List Json} (items : ∀ v ∈ vs, Stored N k v) : Stored N (k + 1) (.array vs)
  | object {k : Nat} {ms : List (String × Json)} (keys : Keyed.Ascending ms)
      (members : ∀ m ∈ ms, Stored N k m.2) : Stored N (k + 1) (.object ms)

/-- The members of an object beside those of its declared fields. -/
structure Members.Stored (N : Number → Prop) (declared : List String) (k : Nat) (ms : Members) :
    Prop where
  keys : Keyed.Ascending ms
  undeclared : ∀ m ∈ ms, m.1 ∉ declared
  values : ∀ m ∈ ms, m.2.Stored N k

variable {N : Number → Prop} {k : Nat}

/-- A member may replace another one of its key. -/
lemma Members.Stored.insert {ms : Members} {declared : List String}
    (h : Members.Stored N declared k ms) {key : String} {v : Json} (hkey : key ∉ declared)
    (hv : v.Stored N k) :
    Members.Stored N declared k (Keyed.insert key v ms) where
  keys := h.keys.insert
  undeclared := by
    intro m hm
    rcases Keyed.mem_insert hm with rfl | hm
    · exact hkey
    · exact h.undeclared m hm
  values := by
    intro m hm
    rcases Keyed.mem_insert hm with rfl | hm
    · exact hv
    · exact h.values m hm

/-- Members that were read one after the other are put in order. -/
lemma Members.stored_ofList {ms : List (String × Json)} {declared : List String}
    (h : ∀ m ∈ ms, m.1 ∉ declared ∧ m.2.Stored N k) :
    Members.Stored N declared k (Keyed.ofList ms) where
  keys := Keyed.ascending_ofList ms
  undeclared m hm := (h m (Keyed.mem_of_mem_ofList hm)).1
  values m hm := (h m (Keyed.mem_of_mem_ofList hm)).2

/-- What is stored is nested as deep as is allowed, whatever the order of its members. -/
lemma Stored.within {v : Json} (h : v.Stored N k) : v.Within N k := by
  induction h with
  | null => exact .null
  | bool b => exact .bool b
  | number n => exact .number n
  | string s => exact .string s
  | array _ ih => exact .array ih
  | object _ _ ih => exact .object ih

lemma Within.reading {v : Json} (h : v.Within N k) : v.reading.Within N k := by
  induction h with
  | null => exact .null
  | bool b => exact .bool b
  | number n => exact .number n
  | string s => exact .string s
  | array _ ih =>
    rw [Json.reading, itemReadings_eq_map]
    exact .array none (List.forall_mem_map.mpr ih)
  | object _ ih =>
    rw [Json.reading, memberReadings_eq_map]
    exact .object none (List.forall_mem_map.mpr ih)

namespace Reading

lemma jsonItems_eq_ok_iff {rs : List Reading} {vs : List Json} :
    jsonItems rs = .ok vs ↔ List.Forall₂ (fun r v => json r = .ok v) rs vs := by
  have hmapM : jsonItems rs = rs.mapM json := by
    induction rs with
    | nil => rw [jsonItems]; rfl
    | cons r rs ih => rw [jsonItems, List.mapM_cons, ih]
  rw [hmapM, mapM_eq_ok_iff]

/-- Members are read in their order, each with its key. -/
lemma jsonMembers_eq_ok_iff {rs : List (String × Reading)} {ms : List (String × Json)} :
    jsonMembers rs = .ok ms ↔ List.Forall₂ (fun r m => r.1 = m.1 ∧ json r.2 = .ok m.2) rs ms := by
  induction rs generalizing ms with
  | nil => cases ms <;> simp [jsonMembers]
  | cons r rs ih =>
    obtain ⟨key, r⟩ := r
    rw [jsonMembers, bind_eq_ok_iff]
    constructor
    · rintro ⟨v, hv, h⟩
      obtain ⟨vs, hvs, h⟩ := bind_eq_ok_iff.mp h
      cases h
      exact .cons ⟨rfl, hv⟩ (ih.mp hvs)
    · rintro h
      cases h with | @cons _ m _ ms hm hms
      obtain ⟨key', v⟩ := m
      obtain ⟨rfl, hv⟩ := hm
      exact ⟨v, hv, bind_eq_ok_iff.mpr ⟨ms, ih.mpr hms, rfl⟩⟩

lemma closed_eq_ok_iff {stop : Option Fault} {u : Unit} : closed stop = .ok u ↔ stop = none := by
  cases stop <;> simp [closed]

lemma json_array_ok {rs : List Reading} {stop : Option Fault} {v : Json}
    (h : json (.array rs stop) = .ok v) :
    stop = none ∧ ∃ vs, v = .array vs ∧ List.Forall₂ (fun r v => json r = .ok v) rs vs := by
  rw [json] at h
  obtain ⟨vs, hvs, h⟩ := bind_eq_ok_iff.mp h
  obtain ⟨u, hstop, h⟩ := bind_eq_ok_iff.mp h
  cases h
  exact ⟨closed_eq_ok_iff.mp hstop, vs, rfl, jsonItems_eq_ok_iff.mp hvs⟩

/-- A free-form object is read if its end is there, and its members are put in the order of their
keys. -/
lemma json_object_ok {rs : List (String × Reading)} {stop : Option Fault} {v : Json}
    (h : json (.object rs stop) = .ok v) :
    stop = none ∧ ∃ ms, v = .object (Keyed.ofList ms) ∧
      List.Forall₂ (fun r m => r.1 = m.1 ∧ json r.2 = .ok m.2) rs ms := by
  rw [json] at h
  obtain ⟨ms, hms, h⟩ := bind_eq_ok_iff.mp h
  obtain ⟨u, hstop, h⟩ := bind_eq_ok_iff.mp h
  cases h
  exact ⟨closed_eq_ok_iff.mp hstop, ms, rfl, jsonMembers_eq_ok_iff.mp hms⟩

/-- A value keeps the bounds of its reading. -/
lemma stored_of_json {r : Reading} {v : Json} (h : r.Within N k) (hv : json r = .ok v) :
    v.Stored N k := by
  induction h generalizing v with
  | null =>
    rw [json] at hv
    cases hv
    exact .null
  | bool b =>
    rw [json] at hv
    cases hv
    exact .bool b
  | number n =>
    rw [json] at hv
    cases hv
    exact .number n
  | string s =>
    rw [json] at hv
    cases hv
    exact .string s
  | array stop _ ih =>
    obtain ⟨-, vs, rfl, hvs⟩ := json_array_ok hv
    refine .array fun w hw => ?_
    obtain ⟨r, hr, hw⟩ := forall₂_exists_right (List.Forall₂.flip hvs) hw
    exact ih r hr hw
  | object stop _ ih =>
    obtain ⟨-, ms, rfl, hms⟩ := json_object_ok hv
    refine .object (Keyed.ascending_ofList ms) fun m hm => ?_
    -- putting members in order may drop some, but none that remains is new
    obtain ⟨r, hr, -, hm⟩ :=
      forall₂_exists_right (List.Forall₂.flip hms) (Keyed.mem_of_mem_ofList hm)
    exact ih r hr hm
  | openArray f => cases (json_array_ok hv).1
  | openObject f => cases (json_object_ok hv).1
  | fault f =>
    rw [json] at hv
    cases hv

end Reading

/-- A value in order is the value of its own reading. -/
lemma Stored.json_reading {v : Json} (h : v.Stored N k) : Reading.json v.reading = .ok v := by
  induction h with
  | null | bool | number | string => rw [reading, Reading.json]
  | @array _ vs _ ih =>
    have hvs : Reading.jsonItems (itemReadings vs) = .ok vs := by
      rw [itemReadings_eq_map, Reading.jsonItems_eq_ok_iff, List.forall₂_map_left_iff]
      exact List.forall₂_same.mpr ih
    rw [reading, Reading.json, hvs]
    rfl
  | @object _ ms keys _ ih =>
    have hms : Reading.jsonMembers (memberReadings ms) = .ok ms := by
      rw [memberReadings_eq_map, Reading.jsonMembers_eq_ok_iff, List.forall₂_map_left_iff]
      exact List.forall₂_same.mpr fun m hm => ⟨rfl, ih m hm⟩
    rw [reading, Reading.json, hms]
    exact congrArg (fun ms => Except.ok (Json.object ms)) keys.ofList_eq

/-! ### Floating-point numbers -/

mutual

/-- The floating-point numbers in a value. -/
def floats : Json → List Double
  | .null => []
  | .bool _ => []
  | .number (.integer _) => []
  | .number (.float x) => [x]
  | .string _ => []
  | .array vs => itemFloats vs
  | .object ms => memberFloats ms

def itemFloats : List Json → List Double
  | [] => []
  | v :: vs => floats v ++ itemFloats vs

def memberFloats : List (String × Json) → List Double
  | [] => []
  | (_, v) :: ms => floats v ++ memberFloats ms

end

lemma floats_subset_itemFloats {vs : List Json} {v : Json} (h : v ∈ vs) :
    v.floats ⊆ itemFloats vs := by
  induction vs with
  | nil => cases h
  | cons w vs ih =>
    rw [itemFloats]
    rcases List.mem_cons.mp h with rfl | h
    · exact List.subset_append_left _ _
    · exact List.subset_append_of_subset_right _ (ih h)

lemma floats_subset_memberFloats {ms : List (String × Json)} {m : String × Json} (h : m ∈ ms) :
    m.2.floats ⊆ memberFloats ms := by
  induction ms with
  | nil => cases h
  | cons w ms ih =>
    rw [memberFloats]
    rcases List.mem_cons.mp h with rfl | h
    · exact List.subset_append_left _ _
    · exact List.subset_append_of_subset_right _ (ih h)

/-- All numbers of a value are read back if the floating-point ones are. -/
lemma Within.readsBack {v : Json} (h : v.Within Number.InRange k)
    (hfloats : ∀ x ∈ v.floats, (Number.float x).ReadsBack) : v.Within Number.ReadsBack k := by
  induction h with
  | null => exact .null
  | bool b => exact .bool b
  | @number _ n hn =>
    cases n with
    | integer n => exact .number (Number.readsBack_of_inRange hn)
    | float x => exact .number (hfloats x (by simp [floats]))
  | string s => exact .string s
  | array _ ih =>
    rw [floats] at hfloats
    exact .array fun v hv => ih v hv fun x hx => hfloats x (floats_subset_itemFloats hv hx)
  | object _ ih =>
    rw [floats] at hfloats
    exact .object fun m hm => ih m hm fun x hx => hfloats x (floats_subset_memberFloats hm hx)

end Patchbay.Json
