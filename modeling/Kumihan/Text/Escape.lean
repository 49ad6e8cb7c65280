/-!
# Escaping

Text that is put into markup is written with entities for the characters that
markup gives a meaning.

## Main definitions

* `escapeText` — for the text between two tags.
* `escapeAttribute` — for the value of an attribute between double quotes.
-/

namespace Kumihan.Text

/-- A character of text between two tags. -/
def escapeChar : Char → List Char
  | '&' => ['&', 'a', 'm', 'p', ';']
  | '<' => ['&', 'l', 't', ';']
  | '>' => ['&', 'g', 't', ';']
  | c => [c]

/-- A character of an attribute's value. -/
def escapeAttributeChar : Char → List Char
  | '"' => ['&', 'q', 'u', 'o', 't', ';']
  | c => escapeChar c

/-- Text as it is written between two tags. -/
def escapeText (s : String) : String := String.ofList (s.toList.flatMap escapeChar)

/-- Text as it is written in an attribute's value. -/
def escapeAttribute (s : String) : String := String.ofList (s.toList.flatMap escapeAttributeChar)

end Kumihan.Text
