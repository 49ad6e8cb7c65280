/-!
# Decimal numerals

Numbers in file names and anchors are written with leading zeros up to a least
width; a number that needs more digits is written in full.

## Main definitions

* `digits n` — the decimal digits of `n`.
* `padded width n` — the numeral of `n`, sign included, in at least `width` characters.
-/

namespace Kumihan.Text

/-- The decimal digits of a number, the most significant one first. -/
def digits (n : Nat) : List Char := Nat.toDigits 10 n

/-- The numeral of an integer. -/
def numeral : Int → List Char
  | .ofNat n => digits n
  | .negSucc n => '-' :: digits (n + 1)

/-- The digits of `n` behind as many zeros as the width asks for. -/
def paddedDigits (width n : Nat) : List Char :=
  List.replicate (width - (digits n).length) '0' ++ digits n

/-- The numeral of `n` in at least `width` characters.  The zeros stand between
the sign and the digits, and the sign counts as one character. -/
def padded (width : Nat) : Int → List Char
  | .ofNat n => paddedDigits width n
  | .negSucc n => '-' :: paddedDigits (width - 1) (n + 1)

end Kumihan.Text
