import Kumihan.Yaml.Source

/-!
# Reading a text from front to back

A cursor is a place in a text: what is still to be read, with the line and the
column.  The readers of lexemes move it.

Where a source is broken off, only a reader that looks further notices it.

## Main definitions

* `Cursor`, `Cursor.skip`.
* `Read` — readers, which move a cursor or fail.
* `Read.takeWhile`, `Read.lineBreak`, `Read.atSeparator` — the readers that others are made of.
-/

namespace Kumihan.Yaml

/-! ### Characters -/

/-- The character ends a line. -/
def isBreak (c : Char) : Bool := c == '\n' || c == '\u0085' || c == '\u2028' || c == '\u2029'

/-- The character is a space or a tab. -/
def isBlank (c : Char) : Bool := c == ' ' || c == '\t'

/-- The character separates words. -/
def isGap (c : Char) : Bool := isBlank c || isBreak c

/-- The character may stand in the name of an anchor, a directive or a handle. -/
def isNameChar (c : Char) : Bool := c.isAlphanum || c == '-' || c == '_'

/-- The character is one of those. -/
def isOneOf (cs : List Char) (c : Char) : Bool := cs.elem c

/-- The value of a hexadecimal digit. -/
def hexDigit? (c : Char) : Option Nat :=
  if c.isDigit then some (c.toNat - 48)
  else if 'a' ≤ c ∧ c ≤ 'f' then some (c.toNat - 87)
  else if 'A' ≤ c ∧ c ≤ 'F' then some (c.toNat - 55)
  else none

/-! ### Places -/

/-- A place in a text. -/
structure Cursor where
  /-- What is still to be read. -/
  rest : List Char
  /-- The number of characters before it. -/
  index : Nat := 0
  /-- The number of lines before it. -/
  line : Nat := 0
  /-- The number of characters before it in its line, byte order marks left out. -/
  column : Nat := 0
  /-- Why the text is broken off behind what is to be read. -/
  fault : Option Fault := none
  deriving DecidableEq, Repr, Inhabited

namespace Cursor

/-- The place one character further. -/
def next (c : Cursor) : Cursor :=
  match c.rest with
  | [] => c
  | ch :: rest =>
    if isBreak ch then { c with rest, index := c.index + 1, line := c.line + 1, column := 0 }
    else
      let column := if ch = '\uFEFF' then c.column else c.column + 1
      { c with rest, index := c.index + 1, column }

/-- The first place of a source. -/
def start (source : Source) : Cursor := { rest := source.text, fault := source.fault }

/-- The place `n` characters further. -/
def skip : Nat → Cursor → Cursor
  | 0, c => c
  | n + 1, c => skip n c.next

@[simp] theorem rest_next (c : Cursor) : c.next.rest = c.rest.tail := by
  obtain ⟨_ | ⟨ch, rest⟩, _, _, _, _⟩ := c
  · rfl
  · simp only [next]; split <;> rfl

/-- What is read is what lies behind the characters that were passed. -/
theorem rest_skip (n : Nat) (c : Cursor) : (c.skip n).rest = c.rest.drop n := by
  induction n generalizing c with
  | zero => rfl
  | succ n ih => simp [skip, ih]

end Cursor

/-! ### Readers -/

/-- A reader moves a cursor or fails. -/
abbrev Read := StateT Cursor (Except Fault)

namespace Read

/-- A reader that fails. -/
def fail {α : Type} (complaint : Complaint) : Read α := throw (.malformed complaint)

/-- The next `n` characters are looked at.  At the end of a text there may be fewer, but not where
it is broken off. -/
def need (n : Nat) : Read Unit := do
  let c ← get
  match c.fault with
  | some fault => if (c.rest.take n).length < n then throw fault
  | none => return

/-- The character `n` places further on. -/
def peek (n : Nat := 0) : Read (Option Char) := do
  need (n + 1)
  return (← get).rest[n]?

/-- The character `n` places further on is there and is of the kind. -/
def nextIs (p : Char → Bool) (n : Nat := 0) : Read Bool := return (← peek n).any p

/-- The text ends `n` places further on, or the character there is of the kind. -/
def endsWith (p : Char → Bool) (n : Nat := 0) : Read Bool := return (← peek n).all p

/-- Pass characters.  The one behind them is looked at. -/
def skip (n : Nat := 1) : Read Unit := do
  need (n + 1)
  modify (Cursor.skip n)

/-- The characters of a kind that stand next. -/
def takeWhile (p : Char → Bool) : Read (List Char) := do
  let word := (← get).rest.takeWhile p
  skip word.length
  return word

/-- Pass the characters of a kind. -/
def skipWhile (p : Char → Bool) : Read Unit := do
  let _ ← takeWhile p

/-- The number that the next `n` characters give as hexadecimal digits.  They are looked at up to
the first that is none, and not passed. -/
def hexNumber? (n : Nat) : Read (Option Nat) := do
  let digits := (((← get).rest.take n).map hexDigit?).takeWhile Option.isSome
  if digits.length < n then
    need (digits.length + 1)
    return none
  return some ((digits.filterMap id).foldl (16 * · + ·) 0)

/-- As many turns as there are characters left, and one more. -/
def turns : Read Nat := return (← get).rest.length + 1

/-- The end of a line, if it stands next, as a scalar holds it. -/
def lineBreak : Read (Option Char) := do
  match ← peek with
  | some c =>
    if isBreak c then
      skip
      return some (if c = '\u0085' then '\n' else c)
    else return none
  | none => return none

/-- A mark between documents stands next. -/
def atSeparator (marks : List Char := ['-', '.']) : Read Bool := do
  need 3
  match (← get).rest.take 3 with
  | [a, b, c] => if marks.elem a && a == b && b == c then endsWith isGap 3 else return false
  | _ => return false

/-- Pass the rest of a line, which may hold spaces and a comment. -/
def restOfLine (complaint : Complaint) : Read Unit := do
  skipWhile (· == ' ')
  if ← nextIs (· == '#') then skipWhile (!isBreak ·)
  unless ← endsWith isBreak do fail complaint
  let _ ← lineBreak

end Read

end Kumihan.Yaml
