import Kumihan.Text.Letter
import Kumihan.Yaml.Cursor
import Kumihan.Yaml.Token

/-!
# Lexemes

The readers of single tokens: directives, anchors, tags, and the scalars in their
four styles.  Every loop has as many turns as there are characters, which
is enough because each turn reads one at least.

## Main definitions

* `directive`, `anchorName`, `tagToken`.
* `blockScalar` — the text of a literal or folded scalar.
* `quotedScalar` — the text of a scalar in quotes.
* `plainScalar` — the text of a scalar without quotes.
-/

namespace Kumihan.Yaml

open Read
open Text (Letter letters)

/-! ### Names and tags -/

/-- The name of an anchor or alias, behind its first character. -/
def anchorName : Read String := do
  skip
  let name ← takeWhile isNameChar
  let closed ← endsWith fun c => isGap c || isOneOf ['?', ':', ',', ']', '}', '%', '@', '\x60'] c
  if name.isEmpty || !closed then fail .badAnchor
  return String.ofList name

/-- The character may stand in a tag as it is. -/
def isUriChar (c : Char) : Bool :=
  c.isAlphanum || isOneOf "-;/?:@&=+$,_.!~*'()[]".toList c

/-- The byte behind a percent sign. -/
def escapedByte : Read UInt8 := do
  skip
  match ← hexNumber? 2 with
  | some b =>
    skip 2
    return UInt8.ofNat b
  | none => fail .badTag

/-- The bytes behind the percent signs that stand next. -/
def escapedBytes : Nat → Read Text.Bytes
  | 0 => return []
  | n + 1 => do
    if ← nextIs (· == '%') then
      let b ← escapedByte
      return b :: (← escapedBytes n)
    else return []

/-- The characters of a tag. -/
def uriChars : Nat → Read (List Char)
  | 0 => return []
  | n + 1 => do
    let word ← takeWhile isUriChar
    if ← nextIs (· == '%') then
      match Text.decode (← escapedBytes (← turns)) with
      | .ok cs => return word ++ cs ++ (← uriChars n)
      | .error _ => fail .badTag
    else return word

/-- A tag without its handle. -/
def uri : Read String := do
  let start := (← get).index
  let cs ← uriChars (← turns)
  if (← get).index = start then fail .badTag
  return String.ofList cs

/-- The handle of a tag, between two exclamation marks or made of one. -/
def tagHandle : Read String := do
  unless ← nextIs (· == '!') do fail .badTag
  skip
  if ← nextIs (· == ' ') then return "!"
  let name ← takeWhile isNameChar
  unless ← nextIs (· == '!') do fail .badTag
  skip
  return "!" ++ String.ofList name ++ "!"

/-- The tag has a handle: there is another exclamation mark before it ends. -/
def hasHandle : Read Bool := do
  let word := ((← get).rest.drop 1).takeWhile fun c => c != ' ' && !isBreak c && c != '!'
  nextIs (· == '!') (word.length + 1)

/-- A tag, from its exclamation mark on. -/
def tagToken : Read Token := do
  let token ← do
    if ← nextIs (· == '<') 1 then
      skip 2
      let name ← uri
      unless ← nextIs (· == '>') do fail .badTag
      skip
      pure (Token.tag none name)
    else if ← endsWith isGap 1 then
      skip
      pure (.tag none "!")
    else if ← hasHandle then
      let handle ← tagHandle
      pure (.tag (some handle) (← uri))
    else
      skip
      pure (.tag (some "!") (← uri))
  unless ← endsWith fun c => c == ' ' || isBreak c do fail .badTag
  return token

/-! ### Directives -/

/-- A decimal number. -/
def number : Read Nat := do
  let digits ← takeWhile Char.isDigit
  if digits.isEmpty then fail .badDirective
  return digits.foldl (fun n c => 10 * n + (c.toNat - 48)) 0

/-- A directive, from its percent sign to the end of its line. -/
def directive : Read Directive := do
  let closed := endsWith fun c => c == ' ' || isBreak c
  skip
  let name ← takeWhile isNameChar
  if name.isEmpty || !(← closed) then fail .badDirective
  let result ← match String.ofList name with
    | "YAML" => do
      skipWhile (· == ' ')
      let major ← number
      unless ← nextIs (· == '.') do fail .badDirective
      skip
      let minor ← number
      unless ← closed do fail .badDirective
      pure (Directive.version major minor)
    | "TAG" => do
      skipWhile (· == ' ')
      let handle ← tagHandle
      unless ← nextIs (· == ' ') do fail .badDirective
      skipWhile (· == ' ')
      let meaning ← uri
      unless ← closed do fail .badDirective
      pure (.handle handle meaning)
    | _ => do
      skipWhile (!isBreak ·)
      pure .other
  restOfLine .badDirective
  return result

/-! ### Folding -/

/-- What stands for line endings between two words: one line feed alone is a
space, and of several the first is left out. -/
def folded (first : Char) (more : List Char) : List Char :=
  if first ≠ '\n' then first :: more
  else if more.isEmpty then [' '] else more

/-! ### Scalars in quotes -/

/-- The characters that a letter behind a backslash stands for. -/
def escapes : List (Char × Char) :=
  [('0', '\x00'), ('a', '\x07'), ('b', '\x08'), ('t', '\t'), ('\t', '\t'), ('n', '\n'),
   ('v', '\x0B'), ('f', '\x0C'), ('r', '\r'), ('e', '\x1B'), (' ', ' '), ('"', '"'),
   ('\\', '\\'), ('/', '/'), ('N', '\u0085'), ('_', '\u00A0'), ('L', '\u2028'), ('P', '\u2029')]

/-- The number of hexadecimal digits behind a letter that stands behind a backslash. -/
def codeLength? : Char → Option Nat
  | 'x' => some 2
  | 'u' => some 4
  | 'U' => some 8
  | _ => none

/-- The letter with the number that `n` hexadecimal digits give. -/
def coded (n : Nat) : Read Letter := do
  match ← hexNumber? n with
  | none => fail .badEscape
  | some code =>
    if code ≥ 0x110000 then throw (.unreadable (.noCharacter code))
    skip n
    return .ofCode code

/-- The line endings between two lines of a scalar in quotes. -/
def quotedBreaks : Nat → Read (List Char)
  | 0 => return []
  | n + 1 => do
    if ← atSeparator then fail .separatorInScalar
    skipWhile isBlank
    match ← lineBreak with
    | some c => return c :: (← quotedBreaks n)
    | none => return []

/-- What an escape stands for, behind its backslash. -/
def escaped : Read (List Letter) := do
  match ← peek with
  | none => fail .badEscape
  | some c =>
    match escapes.lookup c, codeLength? c with
    | some ch, _ =>
      skip
      return [.char ch]
    | none, some n =>
      skip
      return [← coded n]
    | none, none =>
      match ← lineBreak with
      | some _ => return letters (← quotedBreaks (← turns))
      | none => fail .badEscape

/-- What stands up to the next blank, the end of a line or the closing quote. -/
def quotedWord (double : Bool) : Nat → Read (List Letter)
  | 0 => return []
  | n + 1 => do
    let word := letters (← takeWhile fun c => !(isGap c || isOneOf ['\'', '"', '\\'] c))
    match ← peek with
    | some '\'' =>
      if double then
        skip
        return word ++ .char '\'' :: (← quotedWord double n)
      else if ← nextIs (· == '\'') 1 then
        skip 2
        return word ++ .char '\'' :: (← quotedWord double n)
      else return word
    | some '"' =>
      if double then return word
      skip
      return word ++ .char '"' :: (← quotedWord double n)
    | some '\\' =>
      skip
      if double then
        let ls ← escaped
        return word ++ ls ++ (← quotedWord double n)
      return word ++ .char '\\' :: (← quotedWord double n)
    | _ => return word

/-- The blanks and line endings between two words. -/
def quotedGap : Read (List Char) := do
  let blanks ← takeWhile isBlank
  if (← peek).isNone then fail .unclosedScalar
  match ← lineBreak with
  | some first => return folded first (← quotedBreaks (← turns))
  | none => return blanks

/-- The rest of a scalar in quotes, its closing quote passed. -/
def quotedRest (double : Bool) : Nat → Read (List Letter)
  | 0 => fail .unclosedScalar
  | n + 1 => do
    let word ← quotedWord double (← turns)
    if ← nextIs (· == if double then '"' else '\'') then
      skip
      return word
    let gap := letters (← quotedGap)
    return word ++ gap ++ (← quotedRest double n)

/-- The text of a scalar in quotes. -/
def quotedScalar (double : Bool) : Read (List Letter) := do
  skip
  quotedRest double (← turns)

/-! ### Scalars without quotes -/

/-- The line endings between two lines of a scalar without quotes, or none if a mark
between documents ends it. -/
def plainBreaks : Nat → Read (Option (List Char))
  | 0 => return some []
  | n + 1 => do
    skipWhile (· == ' ')
    match ← lineBreak with
    | none => return some []
    | some c =>
      if ← atSeparator then return none
      return (← plainBreaks n).map (c :: ·)

/-- What stands between two words of a scalar without quotes, and whether a line ends
there.  Nothing stands there if the scalar ends. -/
def plainGap : Read (List Char × Bool) := do
  let spaces ← takeWhile (· == ' ')
  match ← lineBreak with
  | none => return (spaces, false)
  | some first =>
    if ← atSeparator then return ([], true)
    match ← plainBreaks (← turns) with
    | none => return ([], true)
    | some more => return (folded first more, true)

/-- The word of a scalar without quotes.  A colon ends it only before a gap, and inside
brackets (`flow`) their marks end it as well. -/
def plainWord (flow : Bool) : List Char → List Char
  | [] => []
  | c :: rest =>
    let closes (d : Char) : Bool := isGap d || (flow && isOneOf [',', '[', ']', '\x7b', '\x7d'] d)
    if isGap c || (c == ':' && rest.head?.all closes)
        || (flow && isOneOf [',', '?', '[', ']', '\x7b', '\x7d'] c) then []
    else c :: plainWord flow rest

/-- The words of a scalar without quotes behind the gap `gap`, and whether the last gap
that was read holds the end of a line, for which `broke` stands at first. -/
def plainRest (flow : Bool) (indent : Int) (gap : List Char) (broke : Bool) :
    Nat → Read (List Char × Bool)
  | 0 => return ([], broke)
  | n + 1 => do
    let comment ← nextIs (· == '#')
    let word := plainWord flow (← get).rest
    if ← nextIs (· == ':') word.length then need (word.length + 2)
    if comment || word.isEmpty then return ([], broke)
    skip word.length
    let (gap', broke') ← plainGap
    let outdented := !flow && decide (((← get).column : Int) < indent)
    if gap'.isEmpty || outdented || (← nextIs (· == '#')) then return (gap ++ word, broke')
    let (more, broke'') ← plainRest flow indent gap' broke' n
    return (gap ++ word ++ more, broke'')

/-- The text of a scalar without quotes, and whether a line ends behind it. -/
def plainScalar (flow : Bool) (indent : Int) : Read (List Char × Bool) := do
  plainRest flow indent [] false (← turns)

/-! ### Block scalars -/

/-- What becomes of the line endings behind a block scalar. -/
inductive Chomping
  /-- All are left out. -/
  | strip
  /-- The first one is kept. -/
  | clip
  /-- All are kept. -/
  | keep
  deriving DecidableEq, Repr

/-- The sign of a way of chomping. -/
def chomping? : Char → Option Chomping
  | '+' => some .keep
  | '-' => some .strip
  | _ => none

/-- The way of chomping, if its sign stands next. -/
def chompingSign : Read (Option Chomping) := do
  match (← peek).bind chomping? with
  | some how =>
    skip
    return some how
  | none => return none

/-- The depth of the indentation, if a digit gives it. -/
def indentDigit : Read (Option Nat) := do
  match ← peek with
  | some c =>
    if c == '0' then fail .badBlockHeader
    if !c.isDigit then return none
    skip
    return some (c.toNat - 48)
  | none => return none

/-- The signs on the first line of a block scalar, in either order. -/
def blockHeader : Read (Chomping × Option Nat) := do
  let result ← do
    match ← chompingSign with
    | some how => pure (how, ← indentDigit)
    | none =>
      match ← indentDigit with
      | some depth => pure ((← chompingSign).getD .clip, some depth)
      | none => pure (Chomping.clip, none)
  unless ← endsWith fun c => c == ' ' || isBreak c do fail .badBlockHeader
  restOfLine .badBlockHeader
  return result

/-- The empty lines that stand next, and the greatest column that is reached in
them and before the first word, `deepest` if none is greater. -/
def leadingBreaks (deepest : Nat) : Nat → Read (List Char × Nat)
  | 0 => return ([], deepest)
  | n + 1 => do
    skipWhile (· == ' ')
    let deepest := max deepest (← get).column
    match ← lineBreak with
    | some c =>
      let (more, deepest) ← leadingBreaks deepest n
      return (c :: more, deepest)
    | none => return ([], deepest)

/-- Pass spaces up to a column. -/
def indentTo (indent : Nat) : Read Unit := do
  let c ← get
  skip ((c.rest.take (indent - c.column)).takeWhile (· == ' ')).length

/-- The empty lines that stand next, with the indentation of the line behind them. -/
def blockBreaks (indent : Nat) : Nat → Read (List Char)
  | 0 => return []
  | n + 1 => do
    indentTo indent
    match ← lineBreak with
    | some c => return c :: (← blockBreaks indent n)
    | none => return []

/-- The lines of a block scalar behind the empty lines `breaks`.  Between two lines of
a folded scalar that begin with a word, the line endings are folded. -/
def blockLines (fold : Bool) (how : Chomping) (indent : Nat) (breaks : List Char) :
    Nat → Read (List Char)
  | 0 => return []
  | n + 1 => do
    let startsWord ← nextIs (!isBlank ·)
    let line ← takeWhile (!isBreak ·)
    let ending ← lineBreak
    let breaks' ← blockBreaks indent (← turns)
    if (← get).column = indent && (← peek).isSome then
      let joined := fold && startsWord && ending == some '\n' && (← nextIs (!isBlank ·))
      let between := if !joined then ending.toList else if breaks'.isEmpty then [' '] else []
      return breaks ++ line ++ between ++ (← blockLines fold how indent breaks' n)
    match how with
    | .strip => return breaks ++ line
    | .clip => return breaks ++ line ++ ending.toList
    | .keep => return breaks ++ line ++ ending.toList ++ breaks'

/-- The text of a block scalar within a block at column `outer`. -/
def blockScalar (fold : Bool) (outer : Int) : Read (List Char) := do
  skip
  let (how, depth) ← blockHeader
  let least := (outer + 1).toNat.max 1
  let (breaks, indent) ← do
    match depth with
    | none =>
      let (breaks, deepest) ← leadingBreaks 0 (← turns)
      pure (breaks, max least deepest)
    | some depth =>
      let indent := least + depth - 1
      pure (← blockBreaks indent (← turns), indent)
  if (← get).column = indent && (← peek).isSome then
    blockLines fold how indent breaks (← turns)
  else
    return if how = .keep then breaks else []

end Kumihan.Yaml
