import Kumihan.Text.Printable

/-!
# Quoted text

Messages write a text between quotes, so that its beginning and end can be seen, and
spell out the characters that could not be.

## Main definitions

* `quoted s` — a text between quotes.
* `quotedBytes bs` — bytes between quotes.
-/

namespace Kumihan.Text

/-- The hexadecimal digits of a number, in lower case, with leading zeros. -/
def hexDigits (width n : Nat) : List Char :=
  let ds := Nat.toDigits 16 n
  List.replicate (width - ds.length) '0' ++ ds

/-- The quote that goes around a text: a single one, unless the text holds single
quotes and no double ones. -/
def chooseQuote (s : List Char) : Char :=
  if '\'' ∈ s && !('"' ∈ s) then '"' else '\''

/-- A character between quotes `q`. -/
def quoteChar (q c : Char) : List Char :=
  if c = q ∨ c = '\\' then ['\\', c]
  else if c = '\n' then ['\\', 'n']
  else if c = '\r' then ['\\', 'r']
  else if c = '\t' then ['\\', 't']
  else if isPrintable c then [c]
  else if c.toNat ≤ 0xFF then '\\' :: 'x' :: hexDigits 2 c.toNat
  else if c.toNat ≤ 0xFFFF then '\\' :: 'u' :: hexDigits 4 c.toNat
  else '\\' :: 'U' :: hexDigits 8 c.toNat

/-- A text between quotes. -/
def quotedChars (s : List Char) : List Char :=
  let q := chooseQuote s
  q :: s.flatMap (quoteChar q) ++ [q]

/-- A text between quotes. -/
def quoted (s : String) : String := String.ofList (quotedChars s.toList)

/-- A byte between quotes `q`: only ASCII stands for itself. -/
def quoteByte (q : Char) (b : UInt8) : List Char :=
  if b.toNat < 0x7F then quoteChar q (Char.ofNat b.toNat)
  else '\\' :: 'x' :: hexDigits 2 b.toNat

/-- Bytes between quotes. -/
def quotedBytes (bs : List UInt8) : List Char :=
  let q := chooseQuote (bs.map fun b => Char.ofNat b.toNat)
  'b' :: q :: bs.flatMap (quoteByte q) ++ [q]

end Kumihan.Text
