import GovernanceLock.Text.Ascii
import GovernanceLock.Text.Blank

/-!
This module contains the facts about decimal digits that the writing and reading of numbers share.
-/

namespace GovernanceLock.Text

theorem isAsciiDigit_iff {c : Char} : isAsciiDigit c = true ↔ 48 ≤ c.toNat ∧ c.toNat ≤ 57 := by
  unfold isAsciiDigit
  simp only [Char.le_def, UInt32.le_iff_toNat_le, Char.reduceVal, UInt32.reduceToNat,
    Char.toNat_val, Bool.and_eq_true, decide_eq_true_eq]

theorem isAsciiDigit_of_isDigit {c : Char} (h : c.isDigit = true) : isAsciiDigit c = true := by
  unfold Char.isDigit at h
  unfold isAsciiDigit
  simpa [Char.le_def] using h

theorem isAsciiDigit_of_mem_toDigits {n : Nat} {c : Char} (h : c ∈ Nat.toDigits 10 n) :
    isAsciiDigit c = true :=
  isAsciiDigit_of_isDigit (Nat.isDigit_of_mem_toDigits (by decide) (by decide) h)

theorem digitsValue_toDigits (n : Nat) : digitsValue (Nat.toDigits 10 n) = n := by
  have h := Nat.ofDigitChars_ten_toDigits (n := n)
  rw [Nat.ofDigitChars_eq_foldl] at h
  unfold digitsValue
  simpa [Nat.mul_comm] using h

theorem isBlank_of_isAsciiDigit {c : Char} (h : isAsciiDigit c = true) : isBlank c = false := by
  rw [isAsciiDigit_iff] at h
  unfold isBlank
  simp only [Bool.or_eq_false_iff, Bool.and_eq_false_imp, decide_eq_true_eq,
    decide_eq_false_iff_not, Nat.not_le, beq_eq_false_iff_ne, ne_eq]
  omega

theorem isBlank_of_mem_toDigits {n : Nat} {c : Char} (h : c ∈ Nat.toDigits 10 n) :
    isBlank c = false :=
  isBlank_of_isAsciiDigit (isAsciiDigit_of_mem_toDigits h)

end GovernanceLock.Text
