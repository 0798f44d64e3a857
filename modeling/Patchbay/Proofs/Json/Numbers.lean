import Mathlib.Data.List.TakeWhile
import Mathlib.Tactic.Common
import Patchbay.Json.Printer
import Patchbay.Json.Reading
import Patchbay.Proofs.Number.Digits
import Patchbay.Proofs.Results

/-!
# Numbers in JSON texts

A number that is read fits its range, and what follows it in a text does not matter as long as the
number cannot go on there. A whole number in range is read back from the text that is written for
it. Of a floating-point number this is said by `Number.ReadsBack`, since reading may miss the
closest number.
-/

namespace Patchbay

namespace Json

namespace Number

/-- A whole number fits a word, with a sign or without one. -/
def InRange : Number → Prop
  | .integer n => -(signedWordBound : Int) ≤ n ∧ n < wordBound
  | .float _ => True

def ReadsBack (n : Number) : Prop := Reading.number? n.text = .ok (n, [])

end Number

namespace Reading

variable {s r rest : List Char} {n : Number}

/-- No number goes on here. -/
def EndsNumber (rest : List Char) : Prop :=
  ∀ c ∈ rest.head?, c.isDigit = false ∧ c ≠ '.' ∧ c ≠ 'e' ∧ c ≠ 'E'

/-! ### Parts of a number -/

/-- Reading digits takes all that are there, and there is one at least. -/
lemma digits_ok {ds : List Char} (h : digits s = .ok (ds, r)) :
    ∃ c s', s = c :: s' ∧ c.isDigit ∧ ds = c :: s'.takeWhile Char.isDigit ∧
      r = s'.dropWhile Char.isDigit := by
  unfold digits at h
  split at h
  · cases h
  · split_ifs at h with hc
    cases h
    exact ⟨_, _, rfl, hc, rfl, rfl⟩

/-- What follows the digits is no digit, so they end where they did. -/
lemma takeWhile_append_of_ends (hrest : ∀ c ∈ rest.head?, c.isDigit = false) (s : List Char) :
    (s ++ rest).takeWhile Char.isDigit = s.takeWhile Char.isDigit ∧
      (s ++ rest).dropWhile Char.isDigit = s.dropWhile Char.isDigit ++ rest := by
  induction s with
  | nil =>
    cases rest with
    | nil => exact ⟨rfl, rfl⟩
    | cons c rest => simp [hrest c rfl]
  | cons c s ih => cases hc : c.isDigit <;> simp [hc, ih]

lemma digits_append {ds : List Char} (h : digits s = .ok (ds, r)) (hrest : EndsNumber rest) :
    digits (s ++ rest) = .ok (ds, r ++ rest) := by
  obtain ⟨c, s', rfl, hc, rfl, rfl⟩ := digits_ok h
  obtain ⟨htake, hdrop⟩ := takeWhile_append_of_ends (fun c hc => (hrest c hc).1) s'
  rw [List.cons_append, digits, if_pos hc, htake, hdrop]

lemma wholeDigits_append {ds : List Char} (h : wholeDigits s = .ok (ds, r))
    (hrest : EndsNumber rest) : wholeDigits (s ++ rest) = .ok (ds, r ++ rest) := by
  unfold wholeDigits at h ⊢
  obtain ⟨⟨ds', r'⟩, hds, h⟩ := bind_eq_ok_iff.mp h
  refine bind_eq_ok_iff.mpr ⟨_, digits_append hds hrest, ?_⟩
  dsimp only at h ⊢
  split_ifs at h ⊢
  · cases h
  · cases h
    rfl

lemma fractionDigits_append {ds : List Char} (h : fractionDigits s = .ok (ds, r))
    (hrest : EndsNumber rest) : fractionDigits (s ++ rest) = .ok (ds, r ++ rest) := by
  unfold fractionDigits at h
  split at h
  · rw [List.cons_append, fractionDigits]
    exact digits_append h hrest
  · rename_i hpoint
    cases h
    rw [fractionDigits]
    rintro s' hs
    cases s with
    | nil => exact (hrest '.' (by rw [List.nil_append] at hs; rw [hs]; rfl)).2.1 rfl
    | cons c s =>
      obtain ⟨rfl, -⟩ := List.cons.inj hs
      exact hpoint s rfl

lemma signedExponent_append {e : Int} (h : signedExponent s = .ok (e, r))
    (hrest : EndsNumber rest) : signedExponent (s ++ rest) = .ok (e, r ++ rest) := by
  unfold signedExponent at h
  split at h
  case h_1 | h_2 =>
    obtain ⟨⟨ds, r'⟩, hds, h⟩ := bind_eq_ok_iff.mp h
    cases h
    exact bind_eq_ok_iff.mpr ⟨_, digits_append hds hrest, rfl⟩
  case h_3 hminus hplus =>
    obtain ⟨⟨ds, r'⟩, hds, h⟩ := bind_eq_ok_iff.mp h
    cases h
    obtain ⟨c, s', rfl, -⟩ := digits_ok hds
    rw [signedExponent]
    · exact bind_eq_ok_iff.mpr ⟨_, digits_append hds hrest, rfl⟩
    · rintro s hs
      exact hminus s' (by rw [(List.cons.inj hs).1])
    · rintro s hs
      exact hplus s' (by rw [(List.cons.inj hs).1])

/-- There may be no exponent, and then what follows must not begin one. -/
lemma exponent?_append {e : Option Int} (h : exponent? s = .ok (e, r)) (hrest : EndsNumber rest) :
    exponent? (s ++ rest) = .ok (e, r ++ rest) := by
  cases s with
  | nil =>
    cases h
    cases rest with
    | nil => rfl
    | cons c rest =>
      obtain ⟨-, -, he, hE⟩ := hrest c rfl
      simp [exponent?, he, hE]
  | cons c s =>
    rw [exponent?] at h
    rw [List.cons_append, exponent?]
    split_ifs at h ⊢
    · obtain ⟨⟨e', r'⟩, he, h⟩ := bind_eq_ok_iff.mp h
      cases h
      exact bind_eq_ok_iff.mpr ⟨_, signedExponent_append he hrest, rfl⟩
    · cases h
      rfl

/-! ### Whole numbers in a text -/

/-- A number that was read to its end is read to the same place where something follows that can be
no part of it. -/
lemma unsignedNumber_append {negative : Bool} (h : unsignedNumber negative s = .ok (n, r))
    (hrest : EndsNumber rest) : unsignedNumber negative (s ++ rest) = .ok (n, r ++ rest) := by
  obtain ⟨⟨whole, s₁⟩, hwhole, h⟩ := bind_eq_ok_iff.mp h
  obtain ⟨⟨fraction, s₂⟩, hfraction, h⟩ := bind_eq_ok_iff.mp h
  obtain ⟨⟨exponent, s₃⟩, hexponent, h⟩ := bind_eq_ok_iff.mp h
  obtain ⟨m, hm, h⟩ := bind_eq_ok_iff.mp h
  cases h
  refine bind_eq_ok_iff.mpr ⟨_, wholeDigits_append hwhole hrest, ?_⟩
  refine bind_eq_ok_iff.mpr ⟨_, fractionDigits_append hfraction hrest, ?_⟩
  refine bind_eq_ok_iff.mpr ⟨_, exponent?_append hexponent hrest, ?_⟩
  exact bind_eq_ok_iff.mpr ⟨_, hm, rfl⟩

lemma unsignedNumber_head {negative : Bool} (h : unsignedNumber negative s = .ok (n, r)) :
    ∃ c s', s = c :: s' ∧ c.isDigit := by
  obtain ⟨⟨whole, s₁⟩, hwhole, -⟩ := bind_eq_ok_iff.mp h
  obtain ⟨⟨ds, r'⟩, hds, -⟩ := bind_eq_ok_iff.mp hwhole
  obtain ⟨c, s', hs, hc, -⟩ := digits_ok hds
  exact ⟨c, s', hs, hc⟩

/-- A number starts with a minus sign or a digit. -/
lemma number?_head (h : number? s = .ok (n, r)) :
    ∃ c s', s = c :: s' ∧ (c = '-' ∨ c.isDigit = true) := by
  unfold number? at h
  split at h
  · exact ⟨_, _, rfl, .inl rfl⟩
  · obtain ⟨c, s', hs, hc⟩ := unsignedNumber_head h
    exact ⟨c, s', hs, .inr hc⟩

/-- What follows a number does not matter where the number cannot go on. -/
lemma number?_append (h : number? s = .ok (n, r)) (hrest : EndsNumber rest) :
    number? (s ++ rest) = .ok (n, r ++ rest) := by
  obtain ⟨c, s', rfl, -⟩ := number?_head h
  by_cases hc : c = '-'
  · subst hc
    exact unsignedNumber_append h hrest
  · have hsign : ∀ t, number? (c :: t) = unsignedNumber false (c :: t) := by
      intro t
      rw [number?]
      rintro t' ht
      exact hc (List.cons.inj ht).1
    rw [hsign] at h
    rw [List.cons_append, hsign]
    exact unsignedNumber_append h hrest

/-- A whole number that fits no word is made a floating-point number, which has no range to fit. -/
lemma numberOfParts_inRange {negative : Bool} {whole fraction : List Char} {exponent : Option Int}
    (h : numberOfParts negative whole fraction exponent = .ok n) : n.InRange := by
  cases negative <;> simp only [numberOfParts, Bool.false_eq_true, if_true, if_false] at h <;>
    split_ifs at h with hword <;> cases h
  · obtain ⟨-, -, hword⟩ := hword
    unfold Number.InRange wordBound signedWordBound at *
    omega
  · trivial
  · obtain ⟨-, -, hword⟩ := hword
    unfold Number.InRange wordBound signedWordBound at *
    omega
  · trivial

/-- Every number that is read fits its range. -/
lemma number?_inRange (h : number? s = .ok (n, r)) : n.InRange := by
  have hparts : ∀ {negative s}, unsignedNumber negative s = .ok (n, r) → n.InRange := by
    intro negative s h
    obtain ⟨_, -, h⟩ := bind_eq_ok_iff.mp h
    obtain ⟨_, -, h⟩ := bind_eq_ok_iff.mp h
    obtain ⟨_, -, h⟩ := bind_eq_ok_iff.mp h
    obtain ⟨m, hm, h⟩ := bind_eq_ok_iff.mp h
    cases h
    exact numberOfParts_inRange hm
  unfold number? at h
  split at h
  · exact hparts h
  · exact hparts h

end Reading

/-! ### Whole numbers are read back -/

namespace Number

open Reading

/-- A whole number is written with its digits, and with a minus sign if it is negative. -/
lemma text_integer (n : Int) :
    (integer n).text = if n < 0 then '-' :: digitsOf n.natAbs else digitsOf n.natAbs := by
  rw [text, Int.toString_eq_repr, Int.repr_eq_if]
  by_cases hn : n < 0
  · rw [if_pos hn, if_neg (Int.not_le.mpr hn), show n.natAbs = (-n).toNat by omega]
    simp [digitsOf]
  · rw [if_neg hn, if_pos (Int.not_lt.mp hn), show n.natAbs = n.toNat by omega]
    simp [digitsOf]

/-- The digits of a number without a minus sign are read whole. -/
lemma unsignedNumber_digitsOf {negative : Bool} {m : Nat} {n : Number}
    (h : numberOfParts negative (digitsOf m) [] none = .ok n) :
    unsignedNumber negative (digitsOf m) = .ok (n, []) := by
  have hall : ∀ c ∈ digitsOf m, c.isDigit := fun c => isDigit_of_mem_digitsOf
  have hdigits : digits (digitsOf m) = .ok (digitsOf m, []) := by
    cases hm : digitsOf m with
    | nil => exact (Nat.toDigits_ne_nil hm).elim
    | cons c cs =>
      rw [hm] at hall
      have htail : ∀ d ∈ cs, d.isDigit := fun d hd => hall d (List.mem_cons_of_mem _ hd)
      rw [digits, if_pos (hall c List.mem_cons_self), List.takeWhile_eq_self_iff.mpr htail,
        List.dropWhile_eq_nil_iff.mpr htail]
  -- digits do not begin with a zero, unless they are those of zero
  have hzero : ¬ ((digitsOf m).head? = some '0' ∧ digitsOf m ≠ ['0']) := by
    rintro ⟨hhead, hne⟩
    obtain rfl : m = 0 := by
      by_contra hm
      exact head?_digitsOf hm hhead
    exact hne rfl
  have hwhole : wholeDigits (digitsOf m) = .ok (digitsOf m, []) := by
    refine bind_eq_ok_iff.mpr ⟨_, hdigits, ?_⟩
    dsimp only
    rw [if_neg hzero]
    rfl
  refine bind_eq_ok_iff.mpr ⟨_, hwhole, ?_⟩
  have hexponent : exponent? [] = .ok (none, []) := rfl
  refine bind_eq_ok_iff.mpr ⟨([], []), rfl, ?_⟩
  refine bind_eq_ok_iff.mpr ⟨_, hexponent, ?_⟩
  exact bind_eq_ok_iff.mpr ⟨n, h, rfl⟩

/-- A whole number in range is read back. -/
lemma readsBack_of_inRange {n : Int} (h : (integer n).InRange) : (integer n).ReadsBack := by
  obtain ⟨hlow, hhigh⟩ := h
  unfold signedWordBound at hlow
  unfold wordBound at hhigh
  rw [ReadsBack, text_integer]
  split_ifs with hn
  · -- the least signed word has no counterpart above zero, so the bound counts as well
    have hword : 0 < n.natAbs ∧ n.natAbs ≤ signedWordBound := by
      unfold signedWordBound
      omega
    have hparts : numberOfParts true (digitsOf n.natAbs) [] none = .ok (.integer n) := by
      simp only [numberOfParts, ofDigits_digitsOf, if_true, true_and, if_pos hword]
      rw [show -(n.natAbs : Int) = n by omega]
    exact unsignedNumber_digitsOf hparts
  · have hword : n.natAbs < wordBound := by
      unfold wordBound
      omega
    have hparts : numberOfParts false (digitsOf n.natAbs) [] none = .ok (.integer n) := by
      simp only [numberOfParts, ofDigits_digitsOf, Bool.false_eq_true, if_false, true_and,
        if_pos hword]
      rw [show (n.natAbs : Int) = n by omega]
    have hsign : number? (digitsOf n.natAbs) = unsignedNumber false (digitsOf n.natAbs) := by
      rw [number?]
      rintro s hs
      exact absurd (isDigit_of_mem_digitsOf (hs ▸ List.mem_cons_self)) (by decide)
    exact hsign.trans (unsignedNumber_digitsOf hparts)

end Number

end Json

end Patchbay
