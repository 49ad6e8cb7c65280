import Kumihan.Text.Occurrence

/-!
# Lines of a text

A line ends at a line feed and nowhere else: the other line separators of
Unicode are ordinary characters of a line.

## Main definitions

* `lines s` — the lines of `s`, each without a carriage return at its end.
-/

namespace Kumihan.Text

/-- A line without the one carriage return that may end it. -/
def dropCarriageReturn : List Char → List Char
  | [] => []
  | ['\r'] => []
  | c :: s => c :: dropCarriageReturn s

/-- The list without an empty line at its end. -/
def dropEmptyEnd : List (List Char) → List (List Char)
  | [] => []
  | [[]] => []
  | l :: ls => l :: dropEmptyEnd ls

/-- The lines of a text.  A final line feed opens no further line, so the empty
text has none, and one carriage return at the end of a line is dropped. -/
def lines (s : List Char) : List (List Char) :=
  (dropEmptyEnd (splitOn '\n' s)).map dropCarriageReturn

end Kumihan.Text
