import Kumihan.Markup.Typography

/-!
# Blemishes of a manuscript

A blemish is a character that should not be in a manuscript and can be removed
without a loss.  Each kind has the spots where it stands and the text without it.

## Main definitions

* `Blemish`, `Blemish.spots`, `Blemish.remove`.
* `punctuationSpots` — where a rule of punctuation will change the text.
-/

namespace Kumihan.Lint

open Markup (PunctuationRule)

/-- A place in a text, with what stands there. -/
structure Spot where
  /-- The number of the line. -/
  line : Nat
  /-- What stands there. -/
  text : List Char
  deriving DecidableEq, Repr

/-- How much something matters that is found in a manuscript. -/
inductive Severity
  /-- The book cannot be made, or not as it should be. -/
  | error
  /-- Something is likely not meant. -/
  | warning
  /-- Something will be changed. -/
  | info
  deriving DecidableEq, Repr

/-- The kinds of blemishes. -/
inductive Blemish
  /-- A byte order mark at the beginning. -/
  | byteOrderMark
  /-- A carriage return. -/
  | carriageReturn
  /-- A tab. -/
  | tab
  /-- Spaces at the end of a line. -/
  | trailingSpaces
  /-- A character without a width. -/
  | zeroWidth
  deriving DecidableEq, Repr

namespace Blemish

/-- The kinds in the order in which they are looked for. -/
def all : List Blemish := [byteOrderMark, carriageReturn, tab, trailingSpaces, zeroWidth]

/-- What is said of a kind. -/
def description : Blemish → String
  | byteOrderMark => "Byte order mark"
  | carriageReturn => "Carriage return (Windows line ending)"
  | tab => "Tab character"
  | trailingSpaces => "Trailing whitespace"
  | zeroWidth => "Zero-width space/joiner"

/-- How much a kind matters. -/
def severity : Blemish → Severity
  | byteOrderMark | carriageReturn | zeroWidth => .error
  | tab | trailingSpaces => .warning

/-! ### Single characters -/

/-- The character has no width. -/
def isZeroWidth (c : Char) : Bool := '\u200B' ≤ c && c ≤ '\u200D'

/-- The spots of the characters of a kind, the first line having the number `line`. -/
def charSpots (p : Char → Bool) : Nat → List Char → List Spot
  | _, [] => []
  | line, c :: s =>
    let more := charSpots p (if c = '\n' then line + 1 else line) s
    if p c then ⟨line, [c]⟩ :: more else more

/-! ### Ends of lines -/

/-- A line without the carriage return that may end it, and what was cut off. -/
def cutReturn (line : List Char) : List Char × List Char :=
  if line.getLast? = some '\r' then (line.dropLast, ['\r']) else (line, [])

/-- The spaces at the end of a text. -/
def endSpaces (s : List Char) : List Char := (s.reverse.takeWhile (· = ' ')).reverse

/-- A text without the spaces at its end. -/
def dropEndSpaces (s : List Char) : List Char := (s.reverse.dropWhile (· = ' ')).reverse

/-- The spaces at the end of a line.  A carriage return may stand behind them. -/
def trailing (line : List Char) : List Char := endSpaces (cutReturn line).1

/-- A line without the spaces at its end. -/
def withoutTrailing (line : List Char) : List Char :=
  let (body, ending) := cutReturn line
  dropEndSpaces body ++ ending

/-- The spots of the spaces at the ends of lines, the first of them having the number `line`. -/
def trailingSpots : Nat → List (List Char) → List Spot
  | _, [] => []
  | line, l :: ls =>
    let more := trailingSpots (line + 1) ls
    if (trailing l).isEmpty then more else ⟨line, trailing l⟩ :: more

/-- Lines with a line feed between any two. -/
def joinLines : List (List Char) → List Char
  | [] => []
  | [l] => l
  | l :: ls => l ++ '\n' :: joinLines ls

/-! ### All kinds -/

/-- The spots of a kind in a text, in their order. -/
def spots (b : Blemish) (s : List Char) : List Spot :=
  match b with
  | byteOrderMark => if s.head? = some '\uFEFF' then [⟨1, ['\uFEFF']⟩] else []
  | carriageReturn => charSpots (· == '\r') 1 s
  | tab => charSpots (· == '\t') 1 s
  | trailingSpaces => trailingSpots 1 (Text.splitOn '\n' s)
  | zeroWidth => charSpots isZeroWidth 1 s

/-- The text without the blemishes of a kind. -/
def remove (b : Blemish) (s : List Char) : List Char :=
  match b with
  | byteOrderMark => if s.head? = some '\uFEFF' then s.tail else s
  | carriageReturn => s.filter (· != '\r')
  | tab => s.filter (· != '\t')
  | trailingSpaces => joinLines ((Text.splitOn '\n' s).map withoutTrailing)
  | zeroWidth => s.filter (!isZeroWidth ·)

end Blemish

/-! ### Punctuation -/

/-- The occurrences of a pattern, none overlapping another, the first line having the number
`line`. -/
def occurrenceSpots (pat : List Char) (line : Nat) (s : List Char) : List Spot :=
  if _hpat : pat = [] then []
  else match _h : Text.cut? pat s with
    | none => []
    | some (before, after) =>
      let line := line + before.count '\n'
      ⟨line, pat⟩ :: occurrenceSpots pat (line + pat.count '\n') after
termination_by s.length
decreasing_by exact Text.length_lt_of_cut? _hpat _h

/-- The spots that a rule of punctuation will change. -/
def punctuationSpots (rule : PunctuationRule) (s : List Char) : List Spot :=
  occurrenceSpots rule.ascii 1 s

end Kumihan.Lint
