import Kumihan.Yaml.Lexeme

/-!
# From characters to tokens

A key of a mapping is often known as one only when the colon behind it is read.
So the scanner remembers where a key might have begun, one place for each level of
brackets, and puts the mark of the key there when the colon comes.  A key that is
remembered has to end in its own line and within 1024 characters.

## Main definitions

* `PendingKey` — a place where a key might have begun.
* `Scanner` — the scanner between two tokens.
* `Scan.step` — the next token, with the marks that stand before it.
* `scan` — the tokens of a text, and the fault that ends them early.
-/

namespace Kumihan.Yaml

/-- A place where a key might have begun. -/
structure PendingKey where
  /-- The number of tokens before it. -/
  position : Nat
  /-- Nothing but a key can stand there. -/
  required : Bool
  /-- The place in the text. -/
  cursor : Cursor
  deriving Repr

/-- A key that begins at the place and has not ended by now is none. -/
def PendingKey.isStale (key : PendingKey) (now : Cursor) : Bool :=
  key.cursor.line != now.line || now.index - key.cursor.index > 1024

/-- The scanner between two tokens. -/
structure Scanner where
  /-- The place in the text. -/
  cursor : Cursor
  /-- The tokens so far. -/
  tokens : Array Token := #[]
  /-- The column of the innermost block, or `-1` outside of all of them. -/
  indent : Int := -1
  /-- The columns of the blocks around it, the inner ones first. -/
  outer : List Int := []
  /-- A key may begin here. -/
  keyAllowed : Bool := true
  /-- The place where a key might have begun within the innermost brackets. -/
  pending : Option PendingKey := none
  /-- The places for the brackets around them, the inner ones first. -/
  outerPending : List (Option PendingKey) := []
  deriving Repr

/-- The place is within brackets. -/
def Scanner.inFlow (s : Scanner) : Bool := !s.outerPending.isEmpty

/-- Steps of the scanner. -/
abbrev Scan := StateT Scanner (Except Fault)

namespace Scan

/-- A step that fails. -/
def fail {α : Type} (complaint : Complaint) : Scan α := throw (.malformed complaint)

/-- Read a lexeme. -/
def read {α : Type} (r : Read α) : Scan α := do
  let s ← get
  let (a, cursor) ← r.run s.cursor
  set { s with cursor }
  return a

/-- Add a token. -/
def emit (t : Token) : Scan Unit := modify fun s => { s with tokens := s.tokens.push t }

/-- Say whether a key may begin at the next place. -/
def allowKey (allowed : Bool) : Scan Unit := modify fun s => { s with keyAllowed := allowed }

/-! ### Keys -/

/-- The place of a key once it is too late for it. -/
def expired (now : Cursor) : Option PendingKey → Except Fault (Option PendingKey)
  | none => .ok none
  | some key =>
    if !key.isStale now then .ok (some key)
    else if key.required then .error (.malformed .keyWithoutValue)
    else .ok none

/-- Forget the places where it is too late for a key. -/
def dropStale : Scan Unit := do
  let s ← get
  let pending ← expired s.cursor s.pending
  let outerPending ← show Except Fault _ from s.outerPending.mapM (expired s.cursor)
  set { s with pending, outerPending }

/-- Forget the place where a key might have begun. -/
def dropPending : Scan Unit := do
  let s ← get
  if s.pending.any (·.required) then fail .keyWithoutValue
  set { s with pending := none }

/-- Remember this place as one where a key might begin. -/
def markPending : Scan Unit := do
  if (← get).keyAllowed then
    dropPending
    modify fun s =>
      let required := !s.inFlow && s.indent = s.cursor.column
      { s with pending := some ⟨s.tokens.size, required, s.cursor⟩ }

/-! ### Indentation -/

/-- The blocks that end before a column: the columns of those that are left, and how many
have ended. -/
def closed (column indent : Int) : List Int → Int × List Int × Nat
  | [] => (indent, [], 0)
  | o :: outer =>
    if indent > column then
      let (indent, outer, n) := closed column o outer
      (indent, outer, n + 1)
    else (indent, o :: outer, 0)

/-- End the blocks whose column is greater. -/
def unwind (column : Int) : Scan Unit := modify fun s =>
  if s.inFlow then s
  else
    let (indent, outer, n) := closed column s.indent s.outer
    { s with indent, outer, tokens := s.tokens ++ Array.replicate n .blockEnd }

/-- Begin a block at a column if none is open there, with a mark before the token at
the position. -/
def openBlock (column : Nat) (mark : Token) (position : Nat) : Scan Unit := modify fun s =>
  if s.indent < (column : Int) then
    { s with
      indent := (column : Int)
      outer := s.indent :: s.outer
      tokens := s.tokens.insertIdxIfInBounds position mark }
  else s

/-- The mark of a block or of something in it, if it may stand here. -/
def blockMark (mark : Token) (complaint : Complaint) : Scan Unit := do
  let s ← get
  unless s.inFlow do
    unless s.keyAllowed do fail complaint
    openBlock s.cursor.column mark s.tokens.size

/-! ### Tokens -/

/-- What ends a document: all of its blocks end with it. -/
def atDocumentEnd : Scan Unit := do
  unwind (-1)
  dropPending
  allowKey false

/-- A mark between documents. -/
def documentMark (t : Token) : Scan Unit := do
  atDocumentEnd
  read (Read.skip 3)
  emit t

/-- An opening bracket. -/
def openFlow (t : Token) : Scan Unit := do
  markPending
  modify fun s => { s with outerPending := s.pending :: s.outerPending, pending := none }
  allowKey true
  read Read.skip
  emit t

/-- A closing bracket. -/
def closeFlow (t : Token) : Scan Unit := do
  dropPending
  modify fun s =>
    { s with pending := s.outerPending.head?.join, outerPending := s.outerPending.tail }
  allowKey false
  read Read.skip
  emit t

/-- A comma. -/
def comma : Scan Unit := do
  allowKey true
  dropPending
  read Read.skip
  emit .comma

/-- A dash before an entry. -/
def blockEntry : Scan Unit := do
  blockMark .blockSequence .misplacedEntry
  allowKey true
  dropPending
  read Read.skip
  emit .entry

/-- A question mark before a key. -/
def explicitKey : Scan Unit := do
  blockMark .blockMapping .misplacedKey
  allowKey !(← get).inFlow
  dropPending
  read Read.skip
  emit .key

/-- A colon before a value.  If a key might have begun before it, it has. -/
def mappingValue : Scan Unit := do
  match (← get).pending with
  | some key =>
    modify fun s =>
      { s with
        pending := none
        tokens := s.tokens.insertIdxIfInBounds key.position .key }
    unless (← get).inFlow do
      openBlock key.cursor.column .blockMapping key.position
    allowKey false
  | none =>
    blockMark .blockMapping .misplacedValue
    allowKey !(← get).inFlow
    dropPending
  read Read.skip
  emit .value

/-- A lexeme with which a key may begin. -/
def keyLexeme (r : Read Token) : Scan Unit := do
  markPending
  allowKey false
  emit (← read r)

/-- A block scalar. -/
def block (fold : Bool) : Scan Unit := do
  allowKey true
  dropPending
  let outer := (← get).indent
  emit (.scalar (Text.letters (← read (blockScalar fold outer))) false)

/-- A scalar without quotes. -/
def plain : Scan Unit := do
  markPending
  allowKey false
  let s ← get
  let (text, broke) ← read (plainScalar s.inFlow (s.indent + 1))
  if broke then allowKey true
  emit (.scalar (Text.letters text) true)

/-! ### The next token -/

/-- Pass spaces, comments and line endings.  Outside of brackets, a key may begin on a new line. -/
def skipGap : Nat → Scan Unit
  | 0 => return
  | n + 1 => do
    read (Read.skipWhile (· == ' '))
    if ← read (Read.nextIs (· == '#')) then read (Read.skipWhile (!isBreak ·))
    if (← read Read.lineBreak).isSome then
      unless (← get).inFlow do allowKey true
      skipGap n

/-- The character behind the next one separates words, or there is none. -/
def gapBehind : Scan Bool := read (Read.endsWith isGap 1)

/-- A mark between documents, made of the character, stands at the beginning of the line. -/
def atMark (mark c : Char) : Scan Bool := do
  if c = mark && (← get).cursor.column = 0 then read (Read.atSeparator [mark]) else return false

/-- The mark of a key or value stands next.  Outside of brackets, a gap has to follow. -/
def atIndicator (mark c : Char) : Scan Bool := do
  if c ≠ mark then return false
  if (← get).inFlow then return true
  gapBehind

/-- The characters that mean something at the beginning of a token. -/
def indicators : List Char := "-?:,[]\x7b\x7d#&*!|>'\"%@\x60".toList

/-- A scalar without quotes may begin with the character.  Of some characters only the one behind it
tells. -/
def startsPlain (c : Char) : Scan Bool := do
  if isGap c || isOneOf indicators c then
    let alone ← gapBehind
    return !alone && (c == '-' || (!(← get).inFlow && (c == '?' || c == ':')))
  return true

/-- A token that begins with the character, which stands next. -/
def token (c : Char) : Scan Unit := do
  let flow := (← get).inFlow
  if c = '%' && (← get).cursor.column = 0 then
    atDocumentEnd
    emit (.directive (← read directive))
  else if ← atMark '-' c then documentMark .documentStart
  else if ← atMark '.' c then documentMark .documentEnd
  else if c = '[' then openFlow .flowSequence
  else if c = '\x7b' then openFlow .flowMapping
  else if c = ']' then closeFlow .flowSequenceEnd
  else if c = '\x7d' then closeFlow .flowMappingEnd
  else if c = ',' then comma
  else if ← pure (c == '-') <&&> gapBehind then blockEntry
  else if ← atIndicator '?' c then explicitKey
  else if ← atIndicator ':' c then mappingValue
  else if c = '*' then keyLexeme (.alias <$> anchorName)
  else if c = '&' then keyLexeme (.anchor <$> anchorName)
  else if c = '!' then keyLexeme tagToken
  else if c = '|' && !flow then block false
  else if c = '>' && !flow then block true
  else if c = '\'' then keyLexeme ((.scalar · false) <$> quotedScalar false)
  else if c = '"' then keyLexeme ((.scalar · false) <$> quotedScalar true)
  else if ← startsPlain c then plain
  else fail (.strayCharacter c)

/-- Pass what stands before the next token, with a byte order mark at the very beginning. -/
def toToken : Scan Unit := do
  if (← get).cursor.index = 0 then
    if ← read (Read.nextIs (· == '\uFEFF')) then read Read.skip
  skipGap (← read Read.turns)
  dropStale
  unwind (← get).cursor.column

/-- The token that stands next, or the end of the text, at which the answer is false. -/
def tokenOrEnd : Scan Bool := do
  match (← get).cursor.rest with
  | [] =>
    atDocumentEnd
    return false
  | c :: _ =>
    token c
    return true

/-- The next token, with the marks that stand before it.  The answer is false at the end
of the text. -/
def step : Scan Bool := do
  toToken
  tokenOrEnd

/-- The number of tokens in front of which nothing can be put any more.  A reader of tokens
that asks for the next one makes the scanner take its next step. -/
def settled (s : Scanner) : Nat :=
  let keys := (s.pending :: s.outerPending).filterMap id
  (keys.filter (!·.isStale s.cursor)).foldl (fun n key => min n key.position) s.tokens.size

/-- The tokens of at most `n` steps, and the fault that ends them early.  With a fault, only
those tokens are given that can be read before the step that fails has to be taken;
`reached` of them are known to be readable before the next step. -/
def steps : Nat → (reached : Nat) → Scanner → List Token × Option Fault
  | 0, _, s => (s.tokens.toList, none)
  | n + 1, reached, s =>
    let reached := max reached (settled s)
    match step.run s with
    | .error fault => (s.tokens.toList.take reached, some fault)
    | .ok (false, s) => (s.tokens.toList, none)
    | .ok (true, s) => steps n reached s

end Scan

/-- The tokens of a text, and the fault that ends them early.  Each token but those
at the end has at least one character, so there are enough turns. -/
def scan (source : Source) : List Token × Option Fault :=
  Scan.steps (source.text.length + 1) 0 { cursor := .start source }

end Kumihan.Yaml
