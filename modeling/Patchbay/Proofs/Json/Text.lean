import Mathlib.Tactic.FinCases
import Patchbay.Proofs.Json.Numbers

/-!
# Indented text is read back

However a character is written in a string, it is read as this character. Between the parts of an
indented text there is space, which does not matter. So a value whose numbers are read back is read
from its indented text, if arrays and objects are not nested too deep in it.
-/

namespace Patchbay.Json

/-! ### Strings -/

namespace Reading

/-- The escape of a control character has the value of this character. -/
lemma hexUnit?_hexDigit {n : Nat} (h : n < 0x20) :
    hexUnit? '0' '0' (Text.hexDigit (n / 16)) (Text.hexDigit (n % 16)) = some n := by
  have hall : ∀ m < 0x20,
      hexUnit? '0' '0' (Text.hexDigit (m / 16)) (Text.hexDigit (m % 16)) = some m := by decide
  exact hall n h

lemma stringTail_cons {c : Char} (hquote : c ≠ '"') (hslash : c ≠ '\\')
    (hcontrol : ¬ c.toNat < 0x20) (acc s : List Char) :
    stringTail acc (c :: s) = stringTail (c :: acc) s := by
  rw [stringTail, if_neg hcontrol] <;> simp_all

/-- An escape by code stands for a character of its own, unless the code is one half of a pair. -/
lemma stringTail_unicode {a b c d : Char} {u : Nat} (h : hexUnit? a b c d = some u)
    (hpair : u < 0xd800) (acc s : List Char) :
    stringTail acc ('\\' :: 'u' :: a :: b :: c :: d :: s) = stringTail (Char.ofNat u :: acc) s := by
  have htrailing : ¬ isTrailing u := by
    simp only [isTrailing, decide_eq_true_eq]
    omega
  have hleading : ¬ isLeading u := by
    simp only [isLeading, decide_eq_true_eq]
    omega
  rw [stringTail]
  simp only [h, if_neg htrailing, if_neg hleading]

/-- Every character is read as itself, in whichever way it was written. -/
lemma stringTail_escapedChar (c : Char) (acc s : List Char) :
    stringTail acc (escapedChar c ++ s) = stringTail (c :: acc) s := by
  by_cases hletter : c ∈ ['"', '\\', '\x08', '\x0c', '\n', '\r', '\t']
  · fin_cases hletter <;> rfl
  · simp only [List.mem_cons, List.not_mem_nil, or_false, not_or] at hletter
    obtain ⟨hquote, hslash, hb, hf, hn, hr, ht⟩ := hletter
    simp only [escapedChar, if_neg hquote, if_neg hslash, if_neg hb, if_neg hf, if_neg hn,
      if_neg hr, if_neg ht]
    split_ifs with hcontrol
    · have hunit := hexUnit?_hexDigit hcontrol
      simp only [List.cons_append, List.nil_append]
      rw [stringTail_unicode hunit (by omega), Char.ofNat_toNat]
    · exact stringTail_cons hquote hslash hcontrol acc s

/-- The characters that are written for a string are read up to its closing quote. -/
lemma stringTail_text (cs acc rest : List Char) :
    stringTail acc (cs.flatMap escapedChar ++ '"' :: rest) =
      .ok (String.ofList (acc.reverse ++ cs), rest) := by
  induction cs generalizing acc with
  | nil =>
    rw [List.append_nil]
    rfl
  | cons c cs ih =>
    rw [List.flatMap_cons, List.append_assoc, stringTail_escapedChar, ih]
    simp

end Reading

open Reading (isSpace skipSpace value items item members member EndsNumber)

/-! ### Values as they are read -/

mutual

/-- What is read where a value stands whole. -/
def reading : Json → Reading
  | .null => .null
  | .bool b => .bool b
  | .number n => .number n
  | .string s => .string s
  | .array vs => .array (itemReadings vs) none
  | .object ms => .object (memberReadings ms) none

def itemReadings : List Json → List Reading
  | [] => []
  | v :: vs => reading v :: itemReadings vs

def memberReadings : List (String × Json) → List (String × Reading)
  | [] => []
  | (k, v) :: ms => (k, reading v) :: memberReadings ms

end

lemma itemReadings_eq_map (vs : List Json) : itemReadings vs = vs.map reading := by
  induction vs with
  | nil => rw [itemReadings, List.map_nil]
  | cons v vs ih => rw [itemReadings, ih, List.map_cons]

lemma memberReadings_eq_map (ms : List (String × Json)) :
    memberReadings ms = ms.map fun m => (m.1, m.2.reading) := by
  induction ms with
  | nil => rw [memberReadings, List.map_nil]
  | cons m ms ih => rw [memberReadings, ih, List.map_cons]

/-- Arrays and objects are nested at most so deep, and all numbers have a property. -/
inductive Within (N : Number → Prop) : Nat → Json → Prop
  | null {k : Nat} : Within N k .null
  | bool {k : Nat} (b : Bool) : Within N k (.bool b)
  | number {k : Nat} {n : Number} (number : N n) : Within N k (.number n)
  | string {k : Nat} (s : String) : Within N k (.string s)
  | array {k : Nat} {vs : List Json} (items : ∀ v ∈ vs, Within N k v) : Within N (k + 1) (.array vs)
  | object {k : Nat} {ms : List (String × Json)} (members : ∀ m ∈ ms, Within N k m.2) :
      Within N (k + 1) (.object ms)

/-! ### Space -/

variable {unit : List Char}

lemma skipSpace_cons {c : Char} (h : isSpace c = false) (s : List Char) :
    skipSpace (c :: s) = c :: s := by
  rw [skipSpace, List.dropWhile_cons, h]
  rfl

/-- The start of a line is nothing but space. -/
lemma skipSpace_newline (hunit : ∀ c ∈ unit, isSpace c) (depth : Nat) (s : List Char) :
    skipSpace (newline unit depth ++ s) = skipSpace s := by
  refine List.dropWhile_append_of_pos fun c hc => ?_
  rcases List.mem_cons.mp hc with rfl | hc
  · rfl
  · obtain ⟨u, hu, hc⟩ := List.mem_flatten.mp hc
    rw [List.eq_of_mem_replicate hu] at hc
    exact hunit c hc

lemma value_blank (fuel k : Nat) (s : List Char) : value fuel k (' ' :: s) = value fuel k s := by
  have hskip : skipSpace (' ' :: s) = skipSpace s := rfl
  cases fuel with
  | zero => rw [value, value]
  | succ fuel => rw [value, value, hskip]

/-! ### Leaves -/

/-- Nothing but a number starts like a number. -/
lemma not_mem_starts {c : Char} (h : c = '-' ∨ c.isDigit = true) :
    c ∉ [' ', '\n', '\t', '\r', '"', '[', '\x7b', 'n', 't', 'f', ']', ','] := by
  intro hmem
  revert h
  fin_cases hmem <;> decide

/-- A number is read to its end, since no number goes on with what follows. -/
lemma value_number {n : Number} (h : n.ReadsBack) {rest : List Char} (hrest : EndsNumber rest)
    (fuel k : Nat) : value (fuel + 1) k (n.text ++ rest) = (.number n, some rest) := by
  obtain ⟨c, s, hs, hc⟩ := Reading.number?_head h
  have happend := Reading.number?_append h hrest
  have hstart := not_mem_starts hc
  simp only [List.mem_cons, List.not_mem_nil, or_false, not_or] at hstart
  have hspace : isSpace c = false := by simp [isSpace, hstart]
  rw [hs, List.cons_append] at happend ⊢
  rw [value, skipSpace_cons hspace]
  split
  case h_8 heq =>
    obtain ⟨rfl, rfl⟩ := List.cons.inj heq
    rw [if_pos hc, happend]
    rfl
  all_goals simp_all

lemma value_string (s : String) (rest : List Char) (fuel k : Nat) :
    value (fuel + 1) k (stringText s ++ rest) = (.string s, some rest) := by
  have htail := Reading.stringTail_text s.toList [] rest
  rw [stringText, List.append_assoc, List.cons_append, List.singleton_append, value,
    skipSpace_cons (by decide)]
  simp only [htail, Reading.leaf, List.reverse_nil, List.nil_append, String.ofList_toList]

/-! ### Items and members -/

/-- A value starts with a character that stands neither between values nor at an end. -/
lemma indentedText_head {k : Nat} {v : Json} (h : v.Within Number.ReadsBack k) (unit : List Char)
    (depth : Nat) :
    ∃ c s, indentedText unit depth v = c :: s ∧ isSpace c = false ∧ c ≠ ']' := by
  cases h with
  | null => exact ⟨'n', _, rfl, rfl, by decide⟩
  | bool b => cases b <;> exact ⟨_, _, rfl, rfl, by decide⟩
  | number n =>
    obtain ⟨c, s, hs, hc⟩ := Reading.number?_head n
    have hstart := not_mem_starts hc
    simp only [List.mem_cons, List.not_mem_nil, or_false, not_or] at hstart
    exact ⟨c, s, hs, by simp [isSpace, hstart], by simp [hstart]⟩
  | string s => exact ⟨'"', _, rfl, rfl, by decide⟩
  | @array _ vs => cases vs <;> exact ⟨'[', _, rfl, rfl, by decide⟩
  | @object _ ms => cases ms <;> exact ⟨'\x7b', _, rfl, rfl, by decide⟩

/-- No number goes on where the next item or the end of the array follows. -/
lemma endsNumber_indentedItems (unit : List Char) (depth : Nat) (vs : List Json)
    (rest : List Char) : EndsNumber (indentedItems unit depth vs ++ rest) := by
  cases vs <;> · rintro c ⟨⟩; decide

lemma endsNumber_indentedMembers (unit : List Char) (depth : Nat) (ms : List (String × Json))
    (rest : List Char) : EndsNumber (indentedMembers unit depth ms ++ rest) := by
  cases ms <;> · rintro c ⟨⟩; decide

/-! ### Steps of reading -/

section Steps

variable {fuel k : Nat} {s t more rest : List Char} {c : Char}

lemma value_array {rs : List Reading} (h : items fuel k true s = (rs, none, some rest)) :
    value (fuel + 1) (k + 1) ('[' :: s) = (.array rs none, some rest) := by
  rw [value, skipSpace_cons (by decide)]
  simp [h]

lemma value_object {rs : List (String × Reading)}
    (h : members fuel k true s = (rs, none, some rest)) :
    value (fuel + 1) (k + 1) ('\x7b' :: s) = (.object rs none, some rest) := by
  rw [value, skipSpace_cons (by decide)]
  simp [h]

lemma items_end {first : Bool} (h : skipSpace s = ']' :: t) :
    items (fuel + 1) k first s = ([], none, some t) := by
  rw [items, h]
  rfl

lemma items_first (h : skipSpace s = c :: t) (hc : c ≠ ']') :
    items (fuel + 1) k true s = item fuel k (c :: t) := by
  rw [items, h]
  simp

lemma items_next (h : skipSpace s = c :: t) (hc : c ≠ ']') :
    items (fuel + 1) k false (',' :: s) = item fuel k (c :: t) := by
  rw [items, skipSpace_cons (by decide)]
  simp [h, hc]

lemma members_end {first : Bool} (h : skipSpace s = '\x7d' :: t) :
    members (fuel + 1) k first s = ([], none, some t) := by
  rw [members, h]
  rfl

lemma members_first (h : skipSpace s = c :: t) (hc : c ≠ '\x7d') :
    members (fuel + 1) k true s = member fuel k (c :: t) := by
  rw [members, h]
  simp

lemma members_next (h : skipSpace s = c :: t) :
    members (fuel + 1) k false (',' :: s) = member fuel k (c :: t) := by
  rw [members, skipSpace_cons (by decide)]
  simp [h]

lemma item_eq {r : Reading} {rs : List Reading} (hv : value fuel k s = (r, some more))
    (hvs : items fuel k false more = (rs, none, some rest)) :
    item (fuel + 1) k s = (r :: rs, none, some rest) := by
  rw [item, hv]
  simp only [hvs]

/-- A member is its key, a colon and a blank, its value, and the members after it. -/
lemma member_eq (key : String) {r : Reading} {rs : List (String × Reading)}
    (hv : value fuel k s = (r, some more))
    (hms : members fuel k false more = (rs, none, some rest)) :
    member (fuel + 1) k (stringText key ++ ':' :: ' ' :: s)
      = ((key, r) :: rs, none, some rest) := by
  have htail := Reading.stringTail_text key.toList [] (':' :: ' ' :: s)
  rw [stringText, List.append_assoc, List.cons_append, List.singleton_append, member]
  simp only [htail, skipSpace_cons (c := ':') rfl, List.reverse_nil, List.nil_append,
    String.ofList_toList, value_blank, hv, hms]

/-- An item on a line of its own, and the items after it. -/
lemma item_line (hunit : ∀ c ∈ unit, isSpace c) {v : Json} {depth : Nat} {rs : List Reading}
    (h : v.Within Number.ReadsBack k)
    (hv : value fuel k (indentedText unit depth v ++ more) = (v.reading, some more))
    (hvs : items fuel k false more = (rs, none, some rest)) :
    ∃ c t, skipSpace (newline unit depth ++ (indentedText unit depth v ++ more)) = c :: t ∧
      c ≠ ']' ∧ item (fuel + 1) k (c :: t) = (v.reading :: rs, none, some rest) := by
  obtain ⟨c, s, hs, hspace, hc⟩ := indentedText_head h unit depth
  have hitem := item_eq hv hvs
  rw [hs, List.cons_append] at hitem ⊢
  rw [skipSpace_newline hunit, skipSpace_cons hspace]
  exact ⟨c, _, rfl, hc, hitem⟩

/-- A member on a line of its own, and the members after it. -/
lemma member_line (hunit : ∀ c ∈ unit, isSpace c) (key : String) (depth : Nat) {r : Reading}
    {rs : List (String × Reading)} (hv : value fuel k s = (r, some more))
    (hms : members fuel k false more = (rs, none, some rest)) :
    ∃ t, skipSpace (newline unit depth ++ (stringText key ++ ':' :: ' ' :: s)) = '"' :: t ∧
      member (fuel + 1) k ('"' :: t) = ((key, r) :: rs, none, some rest) := by
  have hmember := member_eq key hv hms
  rw [skipSpace_newline hunit]
  exact ⟨_, skipSpace_cons (by decide) _, hmember⟩

end Steps

/-! ### Arrays and objects -/

mutual

/-- A value is read from its text, with a multiple of its length as fuel. -/
theorem value_indentedText (hunit : ∀ c ∈ unit, isSpace c) :
    ∀ (fuel depth : Nat) {v : Json} {k : Nat} {rest : List Char}, v.Within Number.ReadsBack k →
      EndsNumber rest → 3 * (indentedText unit depth v).length ≤ fuel →
      value fuel k (indentedText unit depth v ++ rest) = (v.reading, some rest)
  | 0, depth, v, k, rest, h, _, hfuel => by
    obtain ⟨c, s, hs, -⟩ := indentedText_head h unit depth
    rw [hs] at hfuel
    simp at hfuel
  | fuel + 1, depth, .null, k, rest, _, _, hfuel => by
    rw [indentedText, reading, value]
    rfl
  | fuel + 1, depth, .bool b, k, rest, _, _, _ => by
    rw [indentedText, reading, value]
    cases b <;> rfl
  | fuel + 1, depth, .number n, k, rest, h, hrest, _ => by
    cases h with | number h
    rw [indentedText, reading]
    exact value_number h hrest fuel k
  | fuel + 1, depth, .string s, k, rest, _, _, _ => by
    rw [indentedText, reading]
    exact value_string s rest fuel k
  | fuel + 1, depth, .array [], k, rest, h, _, hfuel => by
    cases h with | array h
    rw [indentedText] at hfuel ⊢
    obtain ⟨fuel, rfl⟩ : ∃ f, fuel = f + 1 := ⟨fuel - 1, by simp at hfuel; omega⟩
    rw [reading, itemReadings]
    exact value_array (items_end rfl)
  | fuel + 1, depth, .array (v :: vs), k, rest, h, _, hfuel => by
    cases h with | array h
    have hv := h v List.mem_cons_self
    rw [indentedText] at hfuel ⊢
    -- the bracket and the line break pay for the steps to the array, its items and the first item
    simp only [List.length_cons, List.length_append, List.cons_append, List.append_assoc] at hfuel ⊢
    obtain ⟨fuel, rfl⟩ : ∃ f, fuel = f + 2 := ⟨fuel - 2, by omega⟩
    have hvalue := value_indentedText hunit fuel (depth + 1) hv
      (endsNumber_indentedItems unit depth vs rest) (by omega)
    have hitems := items_indentedItems hunit fuel depth rest
      (fun w hw => h w (List.mem_cons_of_mem _ hw)) (by omega)
    obtain ⟨c, t, hskip, hc, hitem⟩ := item_line hunit hv hvalue hitems
    rw [reading, itemReadings]
    exact value_array ((items_first hskip hc).trans hitem)
  | fuel + 1, depth, .object [], k, rest, h, _, hfuel => by
    cases h with | object h
    rw [indentedText] at hfuel ⊢
    obtain ⟨fuel, rfl⟩ : ∃ f, fuel = f + 1 := ⟨fuel - 1, by simp at hfuel; omega⟩
    rw [reading, memberReadings]
    exact value_object (members_end rfl)
  | fuel + 1, depth, .object ((key, v) :: ms), k, rest, h, _, hfuel => by
    cases h with | object h
    rw [indentedText] at hfuel ⊢
    simp only [List.length_cons, List.length_append, List.cons_append, List.append_assoc] at hfuel ⊢
    obtain ⟨fuel, rfl⟩ : ∃ f, fuel = f + 2 := ⟨fuel - 2, by omega⟩
    have hv : v.Within Number.ReadsBack _ := h (key, v) List.mem_cons_self
    have hvalue := value_indentedText hunit fuel (depth + 1) hv
      (endsNumber_indentedMembers unit depth ms rest) (by omega)
    have hmembers := members_indentedMembers hunit fuel depth rest
      (fun m hm => h m (List.mem_cons_of_mem _ hm)) (by omega)
    obtain ⟨t, hskip, hmember⟩ := member_line hunit key (depth + 1) hvalue hmembers
    -- the first member comes after the brace, the others after commas
    rw [reading, memberReadings]
    exact value_object ((members_first hskip (by decide)).trans hmember)

/-- The items after the first are read from their text. -/
theorem items_indentedItems (hunit : ∀ c ∈ unit, isSpace c) :
    ∀ (fuel depth : Nat) {vs : List Json} {k : Nat} (rest : List Char),
      (∀ v ∈ vs, v.Within Number.ReadsBack k) → 3 * (indentedItems unit depth vs).length ≤ fuel →
      items fuel k false (indentedItems unit depth vs ++ rest) = (itemReadings vs, none, some rest)
  | fuel, depth, [], k, rest, _, hfuel => by
    rw [indentedItems] at hfuel ⊢
    obtain ⟨fuel, rfl⟩ : ∃ f, fuel = f + 1 := ⟨fuel - 1, by simp at hfuel; omega⟩
    rw [itemReadings, List.append_assoc]
    exact items_end (skipSpace_newline hunit depth _)
  | fuel, depth, v :: vs, k, rest, h, hfuel => by
    have hv := h v List.mem_cons_self
    rw [indentedItems] at hfuel ⊢
    simp only [List.length_cons, List.length_append, List.cons_append, List.append_assoc] at hfuel ⊢
    obtain ⟨fuel, rfl⟩ : ∃ f, fuel = f + 2 := ⟨fuel - 2, by omega⟩
    have hvalue := value_indentedText hunit fuel (depth + 1) hv
      (endsNumber_indentedItems unit depth vs rest) (by omega)
    have hitems := items_indentedItems hunit fuel depth rest
      (fun w hw => h w (List.mem_cons_of_mem _ hw)) (by omega)
    obtain ⟨c, t, hskip, hc, hitem⟩ := item_line hunit hv hvalue hitems
    rw [itemReadings]
    exact (items_next hskip hc).trans hitem

/-- The members after the first are read from their text. -/
theorem members_indentedMembers (hunit : ∀ c ∈ unit, isSpace c) :
    ∀ (fuel depth : Nat) {ms : List (String × Json)} {k : Nat} (rest : List Char),
      (∀ m ∈ ms, m.2.Within Number.ReadsBack k) →
      3 * (indentedMembers unit depth ms).length ≤ fuel →
      members fuel k false (indentedMembers unit depth ms ++ rest)
        = (memberReadings ms, none, some rest)
  | fuel, depth, [], k, rest, _, hfuel => by
    rw [indentedMembers] at hfuel ⊢
    obtain ⟨fuel, rfl⟩ : ∃ f, fuel = f + 1 := ⟨fuel - 1, by simp at hfuel; omega⟩
    rw [memberReadings, List.append_assoc]
    exact members_end (skipSpace_newline hunit depth _)
  | fuel, depth, (key, v) :: ms, k, rest, h, hfuel => by
    rw [indentedMembers] at hfuel ⊢
    simp only [List.length_cons, List.length_append, List.cons_append, List.append_assoc] at hfuel ⊢
    obtain ⟨fuel, rfl⟩ : ∃ f, fuel = f + 2 := ⟨fuel - 2, by omega⟩
    have hv : v.Within Number.ReadsBack _ := h (key, v) List.mem_cons_self
    have hvalue := value_indentedText hunit fuel (depth + 1) hv
      (endsNumber_indentedMembers unit depth ms rest) (by omega)
    have hmembers := members_indentedMembers hunit fuel depth rest
      (fun m hm => h m (List.mem_cons_of_mem _ hm)) (by omega)
    obtain ⟨t, hskip, hmember⟩ := member_line hunit key (depth + 1) hvalue hmembers
    rw [memberReadings]
    exact (members_next hskip).trans hmember

end

/-- A value is read back from its indented text. -/
theorem read_indented {v : Json} (h : v.Within Number.ReadsBack Reading.maxDepth) (blanks : Nat) :
    read (v.indented blanks) = (v.reading, none) := by
  have hunit : ∀ c ∈ List.replicate blanks ' ', isSpace c := by
    intro c hc
    rw [List.eq_of_mem_replicate hc]
    rfl
  have hend : EndsNumber [] := by rintro c ⟨⟩
  have hvalue := value_indentedText hunit
    (3 * (indentedText (List.replicate blanks ' ') 0 v).length + 3) 0 h hend (by omega)
  rw [List.append_nil] at hvalue
  rw [read, indented]
  simp only [String.toList_ofList, hvalue]
  rfl

end Patchbay.Json
