import Kumihan.Yaml.Scalar

/-!
# Tags

Each node has a tag, which says what kind of value it is.  A scalar without quotes and
without a tag of its own takes the tag of the first kind that it has the form of.

## Main definitions

* `Tag`, `Tag.ofName`.
* `Tag.ofForm`, `Tag.ofPlain` — the tag that a scalar without quotes takes.
-/

namespace Kumihan.Yaml

/-- The kinds of values. -/
inductive Tag
  /-- Nothing. -/
  | null
  /-- True or false. -/
  | bool
  /-- A whole number. -/
  | int
  /-- A floating-point number. -/
  | float
  /-- Bytes. -/
  | binary
  /-- A day, with or without a time. -/
  | timestamp
  /-- A text. -/
  | str
  /-- A list. -/
  | seq
  /-- A mapping. -/
  | map
  /-- A set. -/
  | set
  /-- A list of pairs, written as a list of mappings with one entry each. -/
  | pairs
  /-- The key under which a mapping takes over the entries of others. -/
  | merge
  /-- The key of what a mapping stands for where a scalar is needed. -/
  | value
  /-- A kind that is not known. -/
  | other (name : String)
  deriving DecidableEq, Repr

namespace Tag

/-- What the names of the known tags begin with. -/
def common : String := "tag:yaml.org,2002:"

/-- The tag with a name. -/
def ofName (name : String) : Tag :=
  match (Text.cut? common.toList name.toList) with
  | some ([], kind) =>
    match String.ofList kind with
    | "null" => .null
    | "bool" => .bool
    | "int" => .int
    | "float" => .float
    | "binary" => .binary
    | "timestamp" => .timestamp
    | "str" => .str
    | "seq" => .seq
    | "map" => .map
    | "set" => .set
    | "omap" | "pairs" => .pairs
    | "merge" => .merge
    | "value" => .value
    | _ => .other name
  | _ => .other name

/-! ### The forms of scalars -/

/-- The text is one of the words, in small letters, in capitals, or with a capital
first letter. -/
def isWord (words : List String) (text : List Char) : Bool :=
  words.any fun word =>
    text == word.toList || text == word.toUpper.toList || text == word.capitalize.toList

/-- The character is a digit or an underscore. -/
def isDigitPart (c : Char) : Bool := c.isDigit || c == '_'

/-- The text begins with a digit and goes on with digits and underscores. -/
def isDigits : List Char → Bool
  | [] => false
  | c :: rest => c.isDigit && rest.all isDigitPart

/-- The text is one of at least one digit of a kind. -/
def isMade (p : Char → Bool) (text : List Char) : Bool := !text.isEmpty && text.all p

/-- The text is the number of minutes or seconds: below sixty, with one digit or two. -/
def isSixtieth : List Char → Bool
  | [a] => a.isDigit
  | [a, b] => '0' ≤ a && a ≤ '5' && b.isDigit
  | _ => false

/-- The text has a first part and others that count by sixties. -/
def isSexagesimal (first : List Char → Bool) (text : List Char) : Bool :=
  match Text.splitOn ':' text with
  | part :: more => first part && !more.isEmpty && more.all isSixtieth
  | [] => false

/-- The first digit of the text is not zero. -/
def isPositive (text : List Char) : Bool := isDigits text && text.head? != some '0'

/-- The text has the form of a whole number. -/
def isInteger (text : List Char) : Bool :=
  let size := (signedChars text).2
  match size with
  | '0' :: 'b' :: ds => isMade (fun c => c == '0' || c == '1' || c == '_') ds
  | '0' :: 'x' :: ds => isMade (fun c => (hexDigit? c).isSome || c == '_') ds
  | '0' :: ds => ds.all fun c => ('0' ≤ c && c ≤ '7') || c == '_'
  | _ => isPositive size || isSexagesimal isPositive size

/-- The text has the form of an exponent, whose sign is not left out. -/
def isExponent : List Char → Bool
  | [] => true
  | e :: sign :: ds =>
    (e == 'e' || e == 'E') && (sign == '-' || sign == '+') && isMade Char.isDigit ds
  | _ => false

/-- The text has the form of a floating-point number, which has a decimal point. -/
def isFloat (text : List Char) : Bool :=
  let isSigned := text.head?.any fun c => c == '-' || c == '+'
  match Text.cutAt? '.' (signedChars text).2 with
  | none => false
  | some ([], part) =>
    isWord ["inf"] part
      || (!isSigned &&
          (isOneOfNan part
            || (isDigits (part.takeWhile isDigitPart) && isExponent (part.dropWhile isDigitPart))))
  | some (whole, part) =>
    (isDigits whole && isExponent (part.dropWhile isDigitPart))
      || (isSexagesimal isDigits whole && part.all isDigitPart)
where
  /-- What stands behind the point of no number. -/
  isOneOfNan (part : List Char) : Bool := ["nan".toList, "NaN".toList, "NAN".toList].elem part

/-- The text has the form of a day, with or without a time. -/
def isTimestamp (text : List Char) : Bool := (Timestamp.read? text).any Timestamp.isFull

/-- The tag of the first kind that a text has the form of. -/
def ofForm (text : List Char) : Tag :=
  if isWord (trueWords ++ falseWords) text then .bool
  else if isFloat text then .float
  else if isInteger text then .int
  else if text = ['<', '<'] then .merge
  else if text = [] ∨ text = ['~'] ∨ isWord ["null"] text then .null
  else if isTimestamp text then .timestamp
  else if text = ['='] then .value
  else if [['!'], ['&'], ['*']].elem text then .other "yaml"
  else .str

/-- The tag of a scalar without quotes.  A line feed at its end does not count, unless nothing
stands before it. -/
def ofPlain (text : List Text.Letter) : Tag :=
  match Text.whole? text with
  | none | some ['\n'] => .str
  | some cs => ofForm (withoutFinalBreak cs)

end Tag

end Kumihan.Yaml
