import Mathlib.Data.List.TakeDrop
import Mathlib.Data.List.TakeWhile
import Patchbay.Config.Printer
import Patchbay.Proofs.Number.Digits
import Patchbay.Proofs.Toml.Strings

/-!
# Plain settings files

A file of sections, in which every line sets a bare key to a text or a whole number, is read as the
statements that its lines make. A text does not end its line, whatever is in it, so the lines are
read one by one. Digits may also begin a date or a time, but then a mark would follow them.
-/

namespace Patchbay.Toml

variable {c d : Char} {key : String} {w ds r s rest : List Char} {p : Char → Bool}
  {n fuel depth : Nat}

/-! ### Words -/

lemma takeWhile_word (hw : ∀ c ∈ w, p c = true) (hr : ∀ c ∈ r.head?, p c = false) :
    (w ++ r).takeWhile p = w := by
  rw [List.takeWhile_append_of_pos hw]
  cases r with
  | nil => exact List.append_nil w
  | cons c r => simp [hr c rfl]

lemma dropWhile_word (hw : ∀ c ∈ w, p c = true) (hr : ∀ c ∈ r.head?, p c = false) :
    (w ++ r).dropWhile p = r := by
  rw [List.dropWhile_append_of_pos hw]
  cases r with
  | nil => rfl
  | cons c r => simp [hr c rfl]

/-! ### Digits are no date -/

namespace Datetime

/-- After digits at the end of a line, no mark follows. -/
lemma mark?_fixedDigits? {count low high value : Nat} (hds : ∀ d ∈ ds, d.isDigit)
    (h : fixedDigits? count low high (ds ++ '\n' :: rest) = some (value, r))
    (hc : c.isDigit = false) (hline : c ≠ '\n') : mark? c r = none := by
  unfold fixedDigits? at h
  extract_lets taken n at h
  split_ifs at h with hfixed
  obtain ⟨hlength, hdigits, -⟩ := hfixed
  obtain ⟨-, rfl⟩ := Prod.mk.inj (Option.some.inj h)
  have hcount : count ≤ ds.length := by
    by_contra hshort
    -- with fewer digits the end of the line would be taken for one
    have hmem : '\n' ∈ taken := by
      unfold taken
      rw [List.take_append, List.mem_append]
      refine .inr ?_
      obtain ⟨k, hk⟩ : ∃ k, count - ds.length = k + 1 := ⟨count - ds.length - 1, by omega⟩
      simp [hk]
    exact absurd (List.all_eq_true.mp hdigits _ hmem) (by decide)
  rw [List.drop_append_of_le_length hcount]
  cases hd : ds.drop count with
  | nil => simp [mark?, hline]
  | cons d ds' =>
    have hdigit := hds d (List.mem_of_mem_drop (hd ▸ List.mem_cons_self))
    simp [mark?, (ne_of_isDigit hdigit hc).symm]

/-- Digits at the end of a line are neither a date nor a time. -/
lemma prefix?_digits (rest : List Char) (hds : ∀ d ∈ ds, d.isDigit) :
    prefix? (ds ++ '\n' :: rest) = none := by
  have hdate : date? (ds ++ '\n' :: rest) = none := by
    unfold date?
    cases h : fixedDigits? 4 0 9999 (ds ++ '\n' :: rest) with
    | none => rfl
    | some y =>
      obtain ⟨y, r⟩ := y
      simp [mark?_fixedDigits? hds h (c := '-') (by decide) (by decide)]
  have htime : time? (ds ++ '\n' :: rest) = none := by
    unfold time?
    cases h : fixedDigits? 2 0 23 (ds ++ '\n' :: rest) with
    | none => rfl
    | some y =>
      obtain ⟨y, r⟩ := y
      simp [mark?_fixedDigits? hds h (c := ':') (by decide) (by decide)]
  rw [prefix?, hdate, htime]
  rfl

end Datetime

/-! ### Digits are a number -/

/-- Digits without marks between them are read as they are. -/
lemma separatedDigits?_digits (hds : ∀ d ∈ ds, d.isDigit) (hne : ds ≠ []) :
    separatedDigits? Char.isDigit ds = some ds := by
  induction ds with
  | nil => exact (hne rfl).elim
  | cons d ds ih =>
    obtain ⟨hd, hds⟩ := List.forall_mem_cons.mp hds
    cases ds with
    | nil => rw [separatedDigits?, if_pos hd]
    | cons d' ds =>
      have hmark : d' ≠ '_' := by
        rintro rfl
        exact absurd (hds _ List.mem_cons_self) (by decide)
      rw [separatedDigits?, if_pos hd, ih hds (List.cons_ne_nil _ _), Option.map_some] <;> simp_all

lemma wholeDigits?_digitsOf (n : Nat) : wholeDigits? (digitsOf n) = some (digitsOf n) := by
  rw [wholeDigits?, separatedDigits?_digits (fun _ h => isDigit_of_mem_digitsOf h)
    (digitsOf_ne_nil n)]
  refine Option.filter_eq_some_iff.mpr ⟨rfl, ?_⟩
  by_cases hn : n = 0
  · subst n
    decide
  · simp [head?_digitsOf hn]

/-- The digits of a number are read as this number, up to the largest one. -/
lemma decimal?_digitsOf (h : n < signedWordBound) :
    decimal? false (digitsOf n) = some (.integer n) := by
  have hspan : ∀ p : Char → Bool, (∀ c : Char, c.isDigit → p c = true) →
      (digitsOf n).span p = (digitsOf n, []) := by
    intro p hp
    have hall : ∀ c ∈ digitsOf n, p c = true := fun c hc => hp c (isDigit_of_mem_digitsOf hc)
    rw [List.span_eq_takeWhile_dropWhile, List.takeWhile_eq_self_iff.mpr hall,
      List.dropWhile_eq_nil_iff.mpr hall]
  have hmark : ∀ c : Char, c.isDigit → (!isExponentMark c) = true := by
    intro c hc
    simp [isExponentMark, ne_of_isDigit hc]
  have hpoint : ∀ c : Char, c.isDigit → decide (c ≠ '.') = true := by
    intro c hc
    simpa using ne_of_isDigit hc (by decide)
  have hrange : -(signedWordBound : Int) ≤ n ∧ (n : Int) < signedWordBound := by omega
  unfold decimal?
  rw [hspan _ hmark]
  dsimp only
  rw [hspan _ hpoint]
  dsimp only
  rw [wholeDigits?_digitsOf, Option.bind_eq_bind, Option.bind_some, ofDigits_digitsOf]
  exact if_pos hrange

/-- The digits of a number are the word of this number. -/
lemma ofWord?_digitsOf (h : n < signedWordBound) :
    ofWord? (digitsOf n) = some (.integer n) := by
  have hword : ∀ c ∈ digitsOf n, c.isDigit := fun _ hc => isDigit_of_mem_digitsOf hc
  unfold ofWord? signed?
  split
  -- no other word is made of digits alone
  case h_8 =>
    have hne : ∀ w : List Char, w.all Char.isDigit = false → digitsOf n ≠ w := by
      rintro w hw rfl
      rw [List.all_eq_true.mpr hword] at hw
      cases hw
    rw [if_neg (hne _ rfl), if_neg (hne _ rfl), decimal?_digitsOf h]
  all_goals
    rename_i heq
    simp [heq] at hword

/-- The digits of a number at the end of a line are read as this number. -/
lemma word?_digitsOf (rest : List Char) (h : n < signedWordBound) :
    word? (digitsOf n ++ '\n' :: rest) = some (.integer n, '\n' :: rest) := by
  have hpart : ∀ c ∈ digitsOf n, isWordPart c = true := by
    intro c hc
    have hdigit := isDigit_of_mem_digitsOf hc
    simp [isWordPart, Char.isAlphanum, hdigit]
  have hend : ∀ c ∈ ('\n' :: rest).head?, isWordPart c = false := by
    rintro c ⟨⟩
    decide
  rw [word?, takeWhile_word hpart hend, dropWhile_word hpart hend, ofWord?_digitsOf h]
  rfl

/-! ### Keys -/

/-- A key that needs no quotes. -/
def Bare (key : String) : Prop := key ≠ "" ∧ key.toList.all isBare = true

instance (key : String) : Decidable (Bare key) :=
  inferInstanceAs (Decidable (key ≠ "" ∧ key.toList.all isBare = true))

lemma ne_of_isBare (hc : isBare c = true) (hd : isBare d = false) : c ≠ d := by
  rintro rfl
  rw [hd] at hc
  cases hc

lemma Bare.isBare_of_mem (h : Bare key) : ∀ c ∈ key.toList, isBare c = true :=
  List.all_eq_true.mp h.2

lemma Bare.exists_cons (h : Bare key) : ∃ c s, key.toList = c :: s ∧ isBare c = true := by
  have hne : key.toList ≠ [] := fun hnil => h.1 (String.toList_eq_nil_iff.mp hnil)
  obtain ⟨c, s, hs⟩ := List.exists_cons_of_ne_nil hne
  exact ⟨c, s, hs, h.isBare_of_mem c (hs ▸ List.mem_cons_self)⟩

lemma skipSpace_cons (h : isSpace c = false) (s : List Char) : skipSpace (c :: s) = c :: s := by
  rw [skipSpace, List.dropWhile_cons_of_neg (by simp [h])]

lemma isSpace_of_isBare (h : isBare c = true) : isSpace c = false := by
  have hblank : c ≠ ' ' := ne_of_isBare h (by decide)
  have htab : c ≠ '\t' := ne_of_isBare h (by decide)
  simp [isSpace, hblank, htab]

lemma keyPart?_bare (hkey : Bare key) (hr : ∀ c ∈ r.head?, isBare c = false) :
    keyPart? (key.toList ++ r) = some (key, r) := by
  obtain ⟨c, s, hs, hc⟩ := hkey.exists_cons
  have htake := takeWhile_word hkey.isBare_of_mem hr
  have hdrop := dropWhile_word hkey.isBare_of_mem hr
  rw [hs, List.cons_append] at htake hdrop ⊢
  rw [keyPart?, htake, hdrop]
  · simp [← hs]
  · exact fun t ht => ne_of_isBare hc (by decide) (List.cons.inj ht).1
  · exact fun t ht => ne_of_isBare hc (by decide) (List.cons.inj ht).1

/-- A key of one part is read up to the mark after it. -/
lemma key?_bare (hkey : Bare key) (hr : ∀ c ∈ r.head?, isBare c = false)
    (hpoint : (skipSpace r).head? ≠ some '.') :
    key? maxDepth (key.toList ++ r) = some ([key], skipSpace r) := by
  have hspace : skipSpace (key.toList ++ r) = key.toList ++ r := by
    obtain ⟨c, s, hs, hc⟩ := hkey.exists_cons
    rw [hs, List.cons_append, skipSpace_cons (isSpace_of_isBare hc)]
  rw [maxDepth, key?, hspace, keyPart?_bare hkey hr]
  simp only [Option.bind_eq_bind, Option.bind_some]
  split
  · rename_i t ht
    exact (hpoint (by rw [ht]; rfl)).elim
  · rfl

/-! ### Values -/

/-- A value on a line of its own: a text, or a number that fits a signed word. -/
inductive Plain where
  | text (s : String)
  | number (n : Nat) (fits : n < signedWordBound)

namespace Plain

/-- The value that is read. -/
def value : Plain → Toml
  | .text s => .string s
  | .number n _ => .integer n

def line (key : String) : Plain → String
  | .text s => textLine key s
  | .number n _ => numberLine key n

def written : Plain → List Char
  | .text s => (quoted s).toList
  | .number n _ => digitsOf n

lemma toList_line (key : String) (p : Plain) :
    (p.line key).toList = key.toList ++ (' ' :: '=' :: ' ' :: (p.written ++ ['\n'])) := by
  cases p with
  | text s =>
    change (key ++ " = " ++ quoted s ++ "\n").toList = _
    simp [written]
  | number n h =>
    change (key ++ " = " ++ toString n ++ "\n").toList = _
    simp [written, digitsOf]

end Plain

lemma exists_quoted_cons (s : String) :
    ∃ c t, (quoted s).toList = c :: t ∧ (c = '"' ∨ c = '\'') := by
  rw [quoted, String.toList_ofList]
  cases StringStyle.of s.toList <;> simp [StringStyle.write]

/-- A quoted text at the end of a line is read as this text. -/
lemma value?_quoted (s : String) : value? (fuel + 1) depth ((quoted s).toList ++ '\n' :: rest) =
    some (.value (.string s), '\n' :: rest) := by
  have hend : EndsString ('\n' :: rest) := by
    rintro _ ⟨⟩
    decide
  have hread := string?_quoted s hend
  obtain ⟨c, t, ht, hc⟩ := exists_quoted_cons s
  rw [ht, List.cons_append] at hread ⊢
  rcases hc with rfl | rfl
  all_goals
    rw [value?, hread]
    rfl

/-- Digits at the end of a line are read as their number. -/
lemma value?_digits (h : n < signedWordBound) :
    value? (fuel + 1) depth (digitsOf n ++ '\n' :: rest) =
      some (.value (.integer n), '\n' :: rest) := by
  have hword : ∀ c ∈ digitsOf n, c.isDigit := fun _ hc => isDigit_of_mem_digitsOf hc
  have hread := word?_digitsOf rest h
  have hdate := Datetime.prefix?_digits rest hword
  obtain ⟨c, s, hs⟩ := List.exists_cons_of_ne_nil (digitsOf_ne_nil n)
  have hc : c.isDigit := hword c (hs ▸ List.mem_cons_self)
  rw [hs, List.cons_append] at hread hdate ⊢
  rw [value?]
  · rw [hdate, hread]
    rfl
  all_goals exact fun t ht => ne_of_isDigit hc (by decide) (List.cons.inj ht).1

/-- No space begins what is written after the mark. -/
lemma Plain.skipSpace_written (p : Plain) :
    skipSpace (' ' :: (p.written ++ r)) = p.written ++ r := by
  obtain ⟨c, t, ht, hc⟩ : ∃ c t, p.written = c :: t ∧ isSpace c = false := by
    cases p with
    | text s =>
      obtain ⟨c, t, ht, rfl | rfl⟩ := exists_quoted_cons s
      all_goals exact ⟨_, t, ht, by decide⟩
    | number n h =>
      obtain ⟨c, t, ht⟩ := List.exists_cons_of_ne_nil (digitsOf_ne_nil n)
      have hc : c.isDigit := isDigit_of_mem_digitsOf (ht ▸ List.mem_cons_self)
      refine ⟨c, t, ht, isSpace_of_isBare ?_⟩
      simp [isBare, Char.isAlphanum, hc]
  rw [skipSpace, List.dropWhile_cons_of_pos (by decide), ht]
  exact skipSpace_cons hc (t ++ r)

lemma value?_written (p : Plain) : value? (fuel + 1) depth (p.written ++ '\n' :: rest) =
    some (.value p.value, '\n' :: rest) := by
  cases p with
  | text s => exact value?_quoted s
  | number n h => exact value?_digits h

/-! ### Statements -/

/-- The line of a section opens this section. -/
lemma statement?_header (hkey : Bare key) :
    statement? ('[' :: (key.toList ++ ']' :: '\n' :: rest)) =
      some (.header [key], '\n' :: rest) := by
  have hread := key?_bare hkey (r := ']' :: '\n' :: rest) (by rintro _ ⟨⟩; decide)
    (by rw [skipSpace_cons (by decide)]; simp)
  obtain ⟨c, s, hs, hc⟩ := hkey.exists_cons
  rw [statement?, hread, skipSpace_cons (by decide)]
  · rfl
  · rw [hs]
    exact fun t ht => ne_of_isBare hc (by decide) (List.cons.inj ht).1

/-- The line of a setting assigns its value. -/
lemma statement?_assignment (rest : List Char) (hkey : Bare key) (p : Plain) :
    statement? ((p.line key).toList ++ rest) =
      some (.assignment [key] (.value p.value), '\n' :: rest) := by
  have hread := key?_bare hkey (r := ' ' :: '=' :: ' ' :: (p.written ++ '\n' :: rest))
    (by rintro _ ⟨⟩; decide) (by simp [skipSpace, isSpace])
  have hmark : skipSpace (' ' :: '=' :: ' ' :: (p.written ++ '\n' :: rest)) =
      '=' :: ' ' :: (p.written ++ '\n' :: rest) := by
    simp [skipSpace, isSpace]
  have htext : (p.line key).toList ++ rest =
      key.toList ++ ' ' :: '=' :: ' ' :: (p.written ++ '\n' :: rest) := by
    simp [p.toList_line]
  obtain ⟨c, s, hs, hc⟩ := hkey.exists_cons
  rw [htext, statement?, hread, hmark]
  · simp only [Option.bind_eq_bind, Option.bind_some, Datetime.mark?, if_true,
      p.skipSpace_written, value?_written]
    rfl
  · rw [hs]
    exact fun t ht => ne_of_isBare hc (by decide) (List.cons.inj ht).1
  · rw [hs]
    exact fun t ht => ne_of_isBare hc (by decide) (List.cons.inj ht).1

/-! ### Texts -/

variable {b : Block} {st : Statement} {sts : List Statement}

/-- A text is read as statements, with any fuel that is enough. -/
def Reads (s : List Char) (sts : List Statement) : Prop :=
  ∀ fuel, s.length < fuel → statements? fuel s = some sts

lemma reads_nil : Reads [] [] := by
  intro fuel hfuel
  obtain ⟨fuel, rfl⟩ := Nat.exists_eq_add_one_of_ne_zero (Nat.ne_of_gt hfuel)
  rfl

/-- One step reads a line, and the text after it is shorter. -/
lemma Reads.step {t : List Char} {sts' : List Statement} (h : Reads s sts)
    (hlength : s.length < t.length)
    (hstep : ∀ fuel, statements? fuel s = some sts → statements? (fuel + 1) t = some sts') :
    Reads t sts' := by
  intro fuel hfuel
  obtain ⟨fuel, rfl⟩ := Nat.exists_eq_add_one_of_ne_zero (Nat.ne_of_gt (Nat.zero_lt_of_lt hfuel))
  exact hstep fuel (h fuel (by omega))

/-- A line without a statement is passed over. -/
lemma Reads.lineEnd {t : List Char} (h : Reads s sts) (hspace : isSpace c = false)
    (hend : lineEnd? (c :: t) = some s) (hlength : s.length ≤ t.length) : Reads (c :: t) sts := by
  refine h.step (by rw [List.length_cons]; omega) fun fuel hs => ?_
  rw [statements?, skipSpace_cons hspace]
  dsimp only
  rw [hend]
  exact hs

lemma Reads.blank (h : Reads s sts) : Reads ('\n' :: s) sts :=
  h.lineEnd (by decide) rfl (Nat.le_refl _)

/-- A comment at the start of a line says nothing. -/
lemma Reads.comment (h : Reads s sts) (hplain : r.all isPlain = true) :
    Reads ('#' :: (r ++ '\n' :: s)) sts := by
  have hdrop : (r ++ '\n' :: s).dropWhile isPlain = '\n' :: s :=
    dropWhile_word (List.all_eq_true.mp hplain) (by rintro _ ⟨⟩; decide)
  refine h.lineEnd (by decide) ?_ (by simp only [List.length_append, List.length_cons]; omega)
  rw [lineEnd?, skipSpace_cons (by decide), skipComment, hdrop]
  rfl

/-- A line with a statement is read, and then the lines after it. -/
lemma Reads.statement {t : List Char} (h : Reads s sts) (hc : isBare c = true ∨ c = '[')
    (hst : statement? (c :: t) = some (st, '\n' :: s)) (hlength : s.length ≤ t.length) :
    Reads (c :: t) (st :: sts) := by
  have hne : ∀ d, isBare d = false → d ≠ '[' → c ≠ d := by
    rintro d hd hbracket rfl
    rcases hc with hc | rfl
    · rw [hd] at hc
      cases hc
    · exact hbracket rfl
  have hspace : skipSpace (c :: t) = c :: t := by
    refine skipSpace_cons ?_ t
    have hblank := hne ' ' (by decide) (by decide)
    have htab := hne '\t' (by decide) (by decide)
    simp [isSpace, hblank, htab]
  have hend : lineEnd? (c :: t) = none := by
    rw [lineEnd?, hspace, skipComment]
    · dsimp only
      rw [newline?]
      · exact fun _ heq => hne '\n' (by decide) (by decide) (List.cons.inj heq).1
      · exact fun _ heq => hne '\r' (by decide) (by decide) (List.cons.inj heq).1
    · exact fun _ heq => hne '#' (by decide) (by decide) (List.cons.inj heq).1
  refine h.step (by rw [List.length_cons]; omega) fun fuel hs => ?_
  rw [statements?, hspace]
  dsimp only
  have hnext : lineEnd? ('\n' :: s) = some s := rfl
  rw [hend, hst]
  simp only [Option.bind_eq_bind, Option.bind_some, hnext, hs]
  rfl

/-- The line of a section is read as this. -/
lemma Reads.header (h : Reads s sts) (hkey : Bare key) :
    Reads ((sectionLine key).toList ++ s) (.header [key] :: sts) := by
  have htext : (sectionLine key).toList ++ s = '[' :: (key.toList ++ ']' :: '\n' :: s) := by
    change ("[" ++ key ++ "]\n").toList ++ s = _
    simp
  rw [htext]
  refine h.statement (.inr rfl) (statement?_header hkey) ?_
  simp only [List.length_append, List.length_cons]
  omega

/-- The line of a setting is read as this. -/
lemma Reads.assignment (h : Reads s sts) (hkey : Bare key) (p : Plain) :
    Reads ((p.line key).toList ++ s) (.assignment [key] (.value p.value) :: sts) := by
  have hst := statement?_assignment s hkey p
  have hlength : s.length + 2 ≤ ((p.line key).toList ++ s).length := by
    rw [p.toList_line]
    simp only [List.length_append, List.length_cons]
    omega
  obtain ⟨c, t, ht, hc⟩ := hkey.exists_cons
  rw [p.toList_line, ht, List.cons_append, List.cons_append] at hst hlength ⊢
  rw [List.length_cons] at hlength
  exact h.statement (.inl hc) hst (by omega)

/-! ### Sections -/

/-- A section with plain values. -/
structure Block where
  name : String
  entries : List (String × Plain)

namespace Block

def lines (b : Block) : List String :=
  sectionLine b.name :: b.entries.map fun e => e.2.line e.1

def statements (b : Block) : List Statement :=
  .header [b.name] :: b.entries.map fun e => .assignment [e.1] (.value e.2.value)

def table (b : Block) : Table := Keyed.ofList (b.entries.map fun e => (e.1, e.2.value))

/-- The keys of a section need no quotes and differ. -/
structure WellFormed (b : Block) : Prop where
  name : Bare b.name
  keys : ∀ key ∈ b.entries.map Prod.fst, Bare key
  nodup : (b.entries.map Prod.fst).Nodup

end Block

lemma Reads.assignments (h : Reads s sts) {es : List (String × Plain)}
    (hes : ∀ key ∈ es.map Prod.fst, Bare key) :
    Reads ((es.map fun e => e.2.line e.1).flatMap String.toList ++ s)
      ((es.map fun e => .assignment [e.1] (.value e.2.value)) ++ sts) := by
  induction es with
  | nil => exact h
  | cons e es ih =>
    obtain ⟨he, hes⟩ := List.forall_mem_cons.mp hes
    rw [List.map_cons, List.flatMap_cons, List.append_assoc]
    exact (ih hes).assignment he e.2

lemma Reads.block (h : Reads s sts) (hb : b.WellFormed) :
    Reads (b.lines.flatMap String.toList ++ s) (b.statements ++ sts) := by
  rw [Block.lines, List.flatMap_cons, List.append_assoc]
  exact (h.assignments hb.keys).header hb.name

/-- Sections, each after a blank line. -/
lemma Reads.blocks {bs : List Block} (hbs : ∀ b ∈ bs, b.WellFormed) :
    Reads ((bs.flatMap fun b => "\n" :: b.lines).flatMap String.toList)
      (bs.flatMap Block.statements) := by
  induction bs with
  | nil => exact reads_nil
  | cons b bs ih =>
    obtain ⟨hb, hbs⟩ := List.forall_mem_cons.mp hbs
    rw [List.flatMap_cons, List.cons_append, List.flatMap_cons, List.flatMap_append]
    exact ((ih hbs).block hb).blank

end Patchbay.Toml
