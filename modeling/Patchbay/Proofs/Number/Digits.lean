import Mathlib.Data.List.Basic
import Mathlib.Tactic.Common
import Patchbay.Number.Natural

/-!
# Decimal digits

The digits of a natural number are read back as the number, by themselves and as a text that is
given in a variable or an argument.
-/

namespace Patchbay

lemma isDigit_of_mem_digitsOf {n : Nat} {c : Char} (h : c ∈ digitsOf n) : c.isDigit :=
  Nat.isDigit_of_mem_toDigits (by decide) (by decide) h

/-- The digits of a number stand for it. -/
lemma ofDigits_digitsOf (n : Nat) : ofDigits (digitsOf n) = n := by
  have hvalue : ∀ c ∈ digitsOf n, (digitValue? c).getD 0 = c.toNat - '0'.toNat := by
    intro c hc
    rw [digitValue?, if_pos (isDigit_of_mem_digitsOf hc)]
    rfl
  calc ofDigits (digitsOf n) = Nat.ofDigitChars 10 (digitsOf n) 0 := by
        rw [Nat.ofDigitChars_eq_foldl]
        exact List.foldl_ext _ _ _ fun m c hc => by rw [hvalue c hc]
    _ = n := Nat.ofDigitChars_ten_toDigits

/-- Only zero is written with a leading zero. -/
lemma head?_digitsOf {n : Nat} (h : n ≠ 0) : (digitsOf n).head? ≠ some '0' := by
  induction n using Nat.strongRecOn with
  | _ n ih =>
    rcases Nat.lt_or_ge n 10 with hn | hn
    · have hdigit : ∀ m < 10, m ≠ 0 → [Nat.digitChar m].head? ≠ some '0' := by decide
      rw [digitsOf, Nat.toDigits_of_lt_base hn]
      exact hdigit n hn h
    · rw [digitsOf, Nat.toDigits_of_base_le (by decide) hn,
        List.head?_append_of_ne_nil _ Nat.toDigits_ne_nil]
      exact ih (n / 10) (by omega) (by omega)

lemma ne_of_isDigit {c d : Char} (hc : c.isDigit) (hd : d.isDigit = false) : c ≠ d := by
  rintro rfl
  rw [hd] at hc
  cases hc

lemma toList_toString (n : Nat) : (toString n).toList = digitsOf n := Nat.toList_repr

lemma digitsOf_ne_nil (n : Nat) : digitsOf n ≠ [] := Nat.toDigits_ne_nil

/-- A number below a bound is read back from its decimal text. -/
lemma naturalOfText?_toString {bound n : Nat} (h : n < bound) :
    naturalOfText? bound (toString n) = some n := by
  have hall : (digitsOf n).all Char.isDigit = true :=
    List.all_eq_true.mpr fun c hc => isDigit_of_mem_digitsOf hc
  unfold naturalOfText?
  extract_lets ds
  have hds : ds = digitsOf n := by
    unfold ds
    rw [toList_toString]
    split
    · rename_i ds heq
      have hplus : '+'.isDigit := isDigit_of_mem_digitsOf (n := n) (by simp [heq])
      exact absurd hplus (by decide)
    · rfl
  have hn : ofDigits ds = n := by rw [hds, ofDigits_digitsOf]
  have hfits : ds ≠ [] ∧ ds.all Char.isDigit ∧ ofDigits ds < bound :=
    ⟨hds ▸ digitsOf_ne_nil n, hds ▸ hall, hn ▸ h⟩
  exact (if_pos hfits).trans (congrArg some hn)

end Patchbay
