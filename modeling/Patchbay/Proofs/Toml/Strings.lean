import Mathlib.Tactic.Common
import Patchbay.Toml.Quoted
import Patchbay.Toml.Reading

/-!
# Strings in settings files

In whatever way a string is written, it is read as this string, provided that no quote follows it.
Between triple quotes the reader sees where the string ends only some quotes later: these are kept
apart from what it has read so far.
-/

namespace Patchbay.Toml

variable {c l : Char} {acc s r rest : List Char}

/-! ### Characters -/

lemma isPlain_of_not_needsEscape (h : needsEscape c = false) (hline : c ≠ '\n') :
    isPlain c = true := by
  grind [needsEscape, isPlain]

/-- The escape of a control character by its code stands for this character. -/
lemma charOfHex?_hexDigit {n : Nat} (h : n < 0x80) :
    charOfHex? ['0', '0', (Text.hexDigit (n / 16)).toUpper, (Text.hexDigit (n % 16)).toUpper] =
      some (Char.ofNat n) := by
  have hall : ∀ m < 0x80, charOfHex? ['0', '0', (Text.hexDigit (m / 16)).toUpper,
      (Text.hexDigit (m % 16)).toUpper] = some (Char.ofNat m) := by decide
  exact hall n h

/-- A character that has an escape is written by a letter or by its code. -/
lemma escape?_eq_some {e : List Char} (h : escape? c = some e) :
    (∃ l, e = ['\\', l] ∧ escaped? l = some c) ∨
      ∃ a b d d', e = ['\\', 'u', a, b, d, d'] ∧ charOfHex? [a, b, d, d'] = some c := by
  unfold escape? at h
  split_ifs at h with hb ht hf hr hslash hcode
  -- what has no letter of its own is written by its code
  on_goal 6 =>
    refine .inr ⟨_, _, _, _, (Option.some.inj h).symm, ?_⟩
    rw [charOfHex?_hexDigit, Char.ofNat_toNat]
    grind [needsEscape]
  all_goals
    subst c
    exact .inl ⟨_, (Option.some.inj h).symm, rfl⟩

/-- A character that has no escape stands for itself. -/
lemma escape?_eq_none (h : escape? c = none) : c ≠ '\\' ∧ needsEscape c = false := by
  unfold escape? at h
  split_ifs at h with hb ht hf hr hslash hcode
  exact ⟨hslash, by simpa using hcode⟩

/-! ### Between quotes -/

lemma basicTail_close : basicTail acc ('"' :: s) = some (String.ofList acc.reverse, s) := rfl

lemma basicTail_letter (h : escaped? l = some c) :
    basicTail acc ('\\' :: l :: s) = basicTail (c :: acc) s := by
  unfold escaped? at h
  split at h <;> cases h <;> rfl

lemma basicTail_code {a b d d' : Char} (h : charOfHex? [a, b, d, d'] = some c) :
    basicTail acc ('\\' :: 'u' :: a :: b :: d :: d' :: s) = basicTail (c :: acc) s := by
  change (do basicTail ((← charOfHex? [a, b, d, d']) :: acc) s) = _
  rw [h]
  rfl

lemma basicTail_plain (hquote : c ≠ '"') (hslash : c ≠ '\\') (hplain : isPlain c = true) :
    basicTail acc (c :: s) = basicTail (c :: acc) s := by
  rw [basicTail, if_pos ⟨hplain, hslash⟩] <;> simp_all

/-- The inside of a string between quotes is read up to the closing quote. -/
lemma basicTail_text (s acc rest : List Char) :
    basicTail acc (basicText s ++ '"' :: rest) = some (String.ofList (acc.reverse ++ s), rest) := by
  induction s generalizing acc with
  | nil => simp [basicText, basicTail_close]
  | cons c s ih =>
    have hchar : basicTail acc ((if c = '"' then ['\\', '"'] else if c = '\n' then ['\\', 'n']
        else (escape? c).getD [c]) ++ (basicText s ++ '"' :: rest)) =
        basicTail (c :: acc) (basicText s ++ '"' :: rest) := by
      split_ifs with hquote hline
      · subst c
        exact basicTail_letter rfl
      · subst c
        exact basicTail_letter rfl
      · cases he : escape? c with
        | some e =>
          rcases escape?_eq_some he with ⟨l, rfl, hl⟩ | ⟨a, b, d, d', rfl, hcode⟩
          · exact basicTail_letter hl
          · exact basicTail_code hcode
        | none =>
          obtain ⟨hslash, hcode⟩ := escape?_eq_none he
          exact basicTail_plain hquote hslash (isPlain_of_not_needsEscape hcode hline)
    rw [basicText, List.append_assoc, hchar, ih]
    simp

/-! ### Quotes that wait -/

/-- What follows a string is no quote. -/
def EndsString (rest : List Char) : Prop := ∀ c ∈ rest.head?, c ≠ '"' ∧ c ≠ '\''

/-- Up to two quotes that another character follows belong to the string. -/
lemma read_quotes {α : Type} (read : List Char → List Char → α) {quote : Char}
    (hquote : ∀ acc s, (∀ t, s ≠ quote :: quote :: t) →
      read acc (quote :: s) = read (quote :: acc) s)
    {n : Nat} (hn : n ≤ 2) (hc : c ≠ quote) :
    read acc (List.replicate n quote ++ c :: s) =
      read (List.replicate n quote ++ acc) (c :: s) := by
  match n, hn with
  | 0, _ => rfl
  | 1, _ => exact hquote acc (c :: s) (by simp [hc])
  | 2, _ =>
    calc read acc (quote :: quote :: c :: s)
      _ = read (quote :: acc) (quote :: c :: s) := hquote _ _ (by simp [hc])
      _ = read (quote :: quote :: acc) (c :: s) := hquote _ _ (by simp [hc])

/-- The first three of some quotes close the string. -/
lemma replicate_quotes (quote : Char) (n : Nat) (rest : List Char) :
    List.replicate n quote ++ quote :: quote :: quote :: rest =
      quote :: quote :: quote :: (List.replicate n quote ++ rest) := by
  induction n with
  | zero => rfl
  | succ n ih => rw [List.replicate_succ, List.cons_append, ih, List.cons_append]

/-- Up to two quotes before the closing ones belong to the string. -/
lemma closeTriple_quotes {quote : Char} {n : Nat} (hn : n ≤ 2)
    (hrest : ∀ c ∈ rest.head?, c ≠ quote) :
    closeTriple quote acc (List.replicate n quote ++ rest) =
      (String.ofList (acc.reverse ++ List.replicate n quote), rest) := by
  cases rest with
  | nil =>
    match n, hn with
    | 0, _ => simp [closeTriple]
    | 1, _ => simp [closeTriple]
    | 2, _ => simp [closeTriple]
  | cons c rest =>
    have hc : c ≠ quote := hrest c rfl
    match n, hn with
    | 0, _ => cases rest <;> simp [closeTriple, hc]
    | 1, _ => simp [closeTriple, hc]
    | 2, _ => simp [closeTriple]

/-! ### Between triple quotes -/

lemma tripleTail_close :
    tripleTail acc false ('"' :: '"' :: '"' :: s) = some (closeTriple '"' acc s) := rfl

lemma tripleTail_letter (h : escaped? l = some c) :
    tripleTail acc false ('\\' :: l :: s) = tripleTail (c :: acc) false s := by
  unfold escaped? at h
  split at h <;> cases h <;> rfl

lemma tripleTail_code {a b d d' : Char} (h : charOfHex? [a, b, d, d'] = some c) :
    tripleTail acc false ('\\' :: 'u' :: a :: b :: d :: d' :: s) =
      tripleTail (c :: acc) false s := by
  change (do tripleTail ((← charOfHex? [a, b, d, d']) :: acc) false s) = _
  rw [h]
  rfl

lemma tripleTail_line : tripleTail acc false ('\n' :: s) = tripleTail ('\n' :: acc) false s := rfl

lemma tripleTail_plain (hquote : ∀ t, c :: s ≠ '"' :: '"' :: '"' :: t) (hslash : c ≠ '\\')
    (hplain : isPlain c = true) :
    tripleTail acc false (c :: s) = tripleTail (c :: acc) false s := by
  have hreturn : c ≠ '\r' := by rintro rfl; exact absurd hplain (by decide)
  have hline : c ≠ '\n' := by rintro rfl; exact absurd hplain (by decide)
  rw [tripleTail, if_neg (by simp), if_pos ⟨hplain, hslash⟩] <;> simp_all

/-- One or two quotes before another character are part of the text. -/
lemma tripleTail_quotes {n : Nat} (hn : n ≤ 2) (hc : c ≠ '"') :
    tripleTail acc false (List.replicate n '"' ++ c :: s) =
      tripleTail (List.replicate n '"' ++ acc) false (c :: s) :=
  read_quotes (tripleTail · false)
    (fun _ _ hs => tripleTail_plain (by simpa using hs) (by decide) (by decide)) hn hc

/-- A character that is no quote is read as it is written, after quotes that wait. -/
lemma tripleTail_char {n : Nat} (hn : n ≤ 2) (hquote : c ≠ '"') :
    tripleTail acc false (List.replicate n '"' ++ ((escape? c).getD [c] ++ s)) =
      tripleTail (c :: (List.replicate n '"' ++ acc)) false s := by
  cases he : escape? c with
  | some e =>
    rcases escape?_eq_some he with ⟨l, rfl, hl⟩ | ⟨a, b, d, d', rfl, hcode⟩
    · exact (tripleTail_quotes hn (by decide)).trans (tripleTail_letter hl)
    · exact (tripleTail_quotes hn (by decide)).trans (tripleTail_code hcode)
  | none =>
    obtain ⟨hslash, hcode⟩ := escape?_eq_none he
    refine (tripleTail_quotes hn hquote).trans ?_
    by_cases hline : c = '\n'
    · subst c
      exact tripleTail_line
    · exact tripleTail_plain (by simp [hquote]) hslash (isPlain_of_not_needsEscape hcode hline)

/-- The inside of a string between triple quotes is read up to the closing quotes. Quotes at its
start wait until it is known what follows them. -/
lemma tripleTail_text {n : Nat} (hn : n ≤ 2) (s acc : List Char)
    (hrest : ∀ c ∈ rest.head?, c ≠ '"') :
    tripleTail acc false (List.replicate n '"' ++ (tripleText n s ++ ('"' :: '"' :: '"' :: rest))) =
      some (String.ofList (acc.reverse ++ (List.replicate n '"' ++ s)), rest) := by
  induction s generalizing n acc with
  | nil =>
    rw [tripleText, List.nil_append, replicate_quotes, tripleTail_close,
      closeTriple_quotes hn hrest]
    simp
  | cons c s ih =>
    rw [tripleText]
    split_ifs with hquote hfew
    · -- one more quote waits
      subst c
      have hmore := ih (n := n + 1) (by omega) acc
      rw [List.replicate_succ'] at hmore
      simpa using hmore
    · -- the third quote is escaped, so that the two before it do not close the string
      subst c
      obtain rfl : n = 2 := by omega
      have hthird : ∀ t, tripleTail acc false (List.replicate 2 '"' ++ '\\' :: '"' :: t) =
          tripleTail ('"' :: (List.replicate 2 '"' ++ acc)) false t :=
        fun t => (tripleTail_quotes hn (by decide)).trans (tripleTail_letter rfl)
      have hrestText := ih (n := 0) (by omega) ('"' :: (List.replicate 2 '"' ++ acc))
      exact (hthird _).trans (by simpa using hrestText)
    · have hrestText := ih (n := 0) (by omega) (c :: (List.replicate n '"' ++ acc))
      rw [List.append_assoc, tripleTail_char hn hquote]
      simpa using hrestText

/-! ### Between apostrophes -/

/-- Between single quotes the text stands as it is. -/
lemma literalTail_plain (hs : ∀ c ∈ s, c ≠ '\'' ∧ isPlain c = true) (acc rest : List Char) :
    literalTail acc (s ++ '\'' :: rest) = some (String.ofList (acc.reverse ++ s), rest) := by
  induction s generalizing acc with
  | nil => simp [literalTail]
  | cons c s ih =>
    obtain ⟨⟨hquote, hplain⟩, hs⟩ := List.forall_mem_cons.mp hs
    rw [List.cons_append, literalTail, if_pos hplain, ih hs]
    · simp
    · exact hquote

lemma hasTriple_of_cons {quote : Char} (h : hasTriple quote (c :: s) = false) :
    hasTriple quote s = false := by
  match s, h with
  | [], _ | [_], _ => rfl
  | _ :: _ :: _, h => exact (Bool.or_eq_false_iff.mp h).2

lemma hasTriple_of_append {quote : Char} (h : hasTriple quote (r ++ s) = false) :
    hasTriple quote s = false := by
  induction r with
  | nil => exact h
  | cons c r ih => exact ih (hasTriple_of_cons h)

lemma literalTripleTail_close :
    literalTripleTail acc ('\'' :: '\'' :: '\'' :: s) = some (closeTriple '\'' acc s) := rfl

/-- Each character stands for itself, unless three quotes close the text. -/
lemma literalTripleTail_char (hquote : ∀ t, c :: s ≠ '\'' :: '\'' :: '\'' :: t)
    (hcode : needsEscape c = false) :
    literalTripleTail acc (c :: s) = literalTripleTail (c :: acc) s := by
  have hreturn : c ≠ '\r' := by rintro rfl; exact absurd hcode (by decide)
  by_cases hline : c = '\n'
  · subst c
    rfl
  · rw [literalTripleTail, if_pos (isPlain_of_not_needsEscape hcode hline)] <;> simp_all

lemma literalTripleTail_quotes {n : Nat} (hn : n ≤ 2) (hc : c ≠ '\'') :
    literalTripleTail acc (List.replicate n '\'' ++ c :: s) =
      literalTripleTail (List.replicate n '\'' ++ acc) (c :: s) :=
  read_quotes literalTripleTail
    (fun _ _ hs => literalTripleTail_char (by simpa using hs) (by decide)) hn hc

/-- A string without three apostrophes in a row is read up to the closing ones. -/
lemma literalTripleTail_plain {n : Nat} (hn : n ≤ 2) (acc : List Char)
    (hs : ∀ c ∈ s, needsEscape c = false)
    (htriple : hasTriple '\'' (List.replicate n '\'' ++ s) = false)
    (hrest : ∀ c ∈ rest.head?, c ≠ '\'') :
    literalTripleTail acc (List.replicate n '\'' ++ (s ++ ('\'' :: '\'' :: '\'' :: rest))) =
      some (String.ofList (acc.reverse ++ (List.replicate n '\'' ++ s)), rest) := by
  induction s generalizing n acc with
  | nil =>
    rw [List.nil_append, replicate_quotes, literalTripleTail_close,
      closeTriple_quotes hn hrest]
    simp
  | cons c s ih =>
    obtain ⟨hcode, hcodes⟩ := List.forall_mem_cons.mp hs
    by_cases hquote : c = '\''
    · subst c
      have hfew : n ≠ 2 := by
        rintro rfl
        simp [hasTriple] at htriple
      have hmore := ih (n := n + 1) (by omega) acc hcodes
      rw [List.replicate_succ'] at hmore
      simpa using hmore (by simpa using htriple)
    · have hafter := ih (n := 0) (by omega) (c :: (List.replicate n '\'' ++ acc)) hcodes
        (hasTriple_of_cons (hasTriple_of_append htriple))
      rw [List.cons_append, literalTripleTail_quotes hn hquote,
        literalTripleTail_char (by simp [hquote]) hcode]
      simpa using hafter

/-! ### Strings of every kind -/

lemma ne_of_contains {quote : Char} (h : s.contains quote = false) (hc : c ∈ s) : c ≠ quote := by
  rintro rfl
  simp [hc] at h

/-- What each way to write a string asks of the string. -/
lemma StringStyle.of_cases (s : List Char) :
    StringStyle.of s = .basic ∨ StringStyle.of s = .triple ∨
    (StringStyle.of s = .literal ∧ ∀ c ∈ s, c ≠ '\'' ∧ isPlain c = true) ∨
    (StringStyle.of s = .literalTriple ∧ (∀ c ∈ s, needsEscape c = false) ∧
      hasTriple '\'' s = false) := by
  unfold StringStyle.of
  extract_lets escapes lines
  have hcodes : escapes = false → ∀ c ∈ s, needsEscape c = false := fun h c hc => by
    simpa using List.any_eq_false.mp h c hc
  split_ifs with hbasic hliteral htriple hliteralTriple
  · exact .inl rfl
  · simp only [Bool.and_eq_true, Bool.not_eq_true'] at hliteral
    obtain ⟨⟨hescapes, hquote⟩, hlines⟩ := hliteral
    refine .inr (.inr (.inl ⟨rfl, fun c hc => ⟨ne_of_contains hquote hc, ?_⟩⟩))
    exact isPlain_of_not_needsEscape (hcodes hescapes c hc) (ne_of_contains hlines hc)
  · exact .inr (.inl rfl)
  · simp only [Bool.and_eq_true, Bool.not_eq_true'] at hliteralTriple
    obtain ⟨hescapes, hthree⟩ := hliteralTriple
    exact .inr (.inr (.inr ⟨rfl, hcodes hescapes, hthree⟩))
  · exact .inr (.inl rfl)
  · exact .inl rfl

/-- A line break that was put after the opening quotes is skipped, and no other one is. -/
lemma skipNewline_leadingLine (hr : s.contains '\n' = false → ∀ c ∈ r.head?, c ≠ '\n' ∧ c ≠ '\r') :
    skipNewline (leadingLine s ++ r) = r := by
  unfold leadingLine
  split_ifs with hline
  · rfl
  · have hnone : newline? r = none := by
      have hhead := hr (by simpa using hline)
      unfold newline?
      split
      · exact ((hhead _ rfl).1 rfl).elim
      · exact ((hhead _ rfl).2 rfl).elim
      · rfl
    rw [List.nil_append, skipNewline, hnone, Option.getD_none]

/-- The text between quotes does not begin with one. -/
lemma head?_basicText (s : List Char) : (basicText s).head? ≠ some '"' := by
  cases s with
  | nil => simp [basicText]
  | cons c s =>
    rw [basicText]
    split_ifs with hquote hline
    · simp
    · simp
    · cases he : escape? c with
      | some e =>
        rcases escape?_eq_some he with ⟨l, rfl, -⟩ | ⟨a, b, d, d', rfl, -⟩ <;> simp
      | none => simpa using hquote

/-- Between triple quotes only a line break of the string begins a line. -/
lemma head?_tripleText (hs : s.contains '\n' = false) :
    ∀ c ∈ (tripleText 0 s ++ '"' :: r).head?, c ≠ '\n' ∧ c ≠ '\r' := by
  intro d hd
  cases s with
  | nil =>
    cases hd
    decide
  | cons c s =>
    have hline : c ≠ '\n' := ne_of_contains hs List.mem_cons_self
    rw [tripleText] at hd
    split_ifs at hd with hquote hfew
    · cases hd
      decide
    · omega
    · cases he : escape? c with
      | some e =>
        rw [he] at hd
        rcases escape?_eq_some he with ⟨l, rfl, -⟩ | ⟨a, b, d, d', rfl, -⟩
        all_goals
          cases hd
          decide
      | none =>
        rw [he] at hd
        cases hd
        refine ⟨hline, ?_⟩
        rintro rfl
        cases he

/-- A string is read as it was written. -/
theorem string?_quoted (s : String) (hrest : EndsString rest) :
    string? ((quoted s).toList ++ rest) = some (s, rest) := by
  have hdouble : ∀ c ∈ rest.head?, c ≠ '"' := fun c hc => (hrest c hc).1
  have hsingle : ∀ c ∈ rest.head?, c ≠ '\'' := fun c hc => (hrest c hc).2
  rw [quoted, String.toList_ofList]
  rcases StringStyle.of_cases s.toList with h | h | ⟨h, hs⟩ | ⟨h, hs, htriple⟩
  all_goals rw [h, StringStyle.write]
  · have hread := basicTail_text s.toList [] rest
    rw [List.cons_append, List.cons_append, List.append_assoc, List.singleton_append, string?,
      hread]
    · simp
    · -- a second quote at once would open a string of three quotes
      intro t ht
      cases hs : basicText s.toList with
      | nil =>
        rw [hs] at ht
        exact hdouble '"' (by simp_all) rfl
      | cons c cs =>
        rw [hs] at ht
        exact head?_basicText s.toList (by simp_all)
  · have hread := tripleTail_text (n := 0) (by omega) s.toList [] hdouble
    rw [List.append_assoc, List.append_assoc, List.append_assoc]
    refine (congrArg (tripleTail [] false) (skipNewline_leadingLine head?_tripleText)).trans ?_
    simpa using hread
  · have hread := literalTail_plain hs [] rest
    rw [List.cons_append, List.cons_append, List.append_assoc, List.singleton_append, string?,
      hread]
    · simp
    · intro t ht
      cases hcs : s.toList with
      | nil => exact hsingle '\'' (by simp_all) rfl
      | cons c cs => exact (hs c (by simp_all)).1 (by simp_all)
  · have hread := literalTripleTail_plain (n := 0) (by omega) [] hs htriple hsingle
    rw [List.append_assoc, List.append_assoc, List.append_assoc]
    refine (congrArg (literalTripleTail []) (skipNewline_leadingLine ?_)).trans ?_
    · intro hlines c hc
      cases hcs : s.toList with
      | nil =>
        rw [hcs] at hc
        cases hc
        decide
      | cons d cs =>
        rw [hcs] at hc hs hlines
        cases hc
        refine ⟨ne_of_contains hlines List.mem_cons_self, ?_⟩
        rintro rfl
        exact absurd (hs _ List.mem_cons_self) (by decide)
    · simpa using hread

end Patchbay.Toml
