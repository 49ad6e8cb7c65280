import Kumihan.Text.Decimal

/-!
# Numerals with leading zeros

## Main results

* `isDigit_of_mem_paddedDigits` — a padded numeral holds digits only.
* `paddedDigits_injective` — different numbers have different padded numerals.
-/

namespace Kumihan.Text

theorem isDigit_of_mem_paddedDigits {width n : Nat} {c : Char} (h : c ∈ paddedDigits width n) :
    c.isDigit = true := by
  rcases List.mem_append.mp h with h | h
  · rw [List.eq_of_mem_replicate h]
    rfl
  · exact Nat.isDigit_of_mem_toDigits (by decide) (by decide) h

theorem paddedDigits_ne_nil (width n : Nat) : paddedDigits width n ≠ [] := by
  unfold paddedDigits digits
  simp

/-- Leading zeros do not change the number that a numeral stands for. -/
theorem ofDigitChars_paddedDigits (width n : Nat) :
    Nat.ofDigitChars 10 (paddedDigits width n) 0 = n := by
  rw [paddedDigits, digits, Nat.ofDigitChars_append, Nat.ofDigitChars_replicate_zero,
    Nat.mul_zero, Nat.ofDigitChars_ten_toDigits]

theorem paddedDigits_injective {width m n : Nat} (h : paddedDigits width m = paddedDigits width n) :
    m = n := by
  rw [← ofDigitChars_paddedDigits width m, h, ofDigitChars_paddedDigits]

end Kumihan.Text
