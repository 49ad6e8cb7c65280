import Kumihan.Text.Utf8

/-!
# Text files that are read piece by piece

A text file is read in blocks of bytes, and its characters are handed out in pieces of at
most a given number.  So what is wrong with the end of a file does not show before the end
is asked for, and a fault is placed within the bytes that are looked at with it.

## Main definitions

* `TextFile` — a text file that is being read.
* `TextFile.read` — the next piece.
* `TextFile.pieces` — all pieces up to a fault.
-/

namespace Kumihan.Text

/-- A text file that is being read. -/
structure TextFile where
  /-- The bytes to come. -/
  bytes : Bytes
  /-- The bytes of a character that the last block has left open. -/
  opened : Bytes := []
  /-- The last block ends with a carriage return, which a line feed may follow. -/
  returned : Bool := false
  /-- The characters that have been read but not handed out. -/
  ready : List Char := []
  /-- The number of bytes of the last block. -/
  blockBytes : Nat := 0
  /-- The number of characters that it gave. -/
  blockChars : Nat := 0
  deriving DecidableEq, Repr

namespace TextFile

/-- The least number of bytes of a block. -/
def blockSize : Nat := 8192

/-- The number of bytes of the next block when `n` characters are wanted: as many as they would
take if they were like those of the last block, but no fewer than a block has. -/
def nextSize (f : TextFile) (n : Nat) : Nat :=
  let wanted := if f.blockChars = 0 then n else f.blockBytes * n / f.blockChars
  max blockSize (max n wanted)

/-- The line endings of a block as line feeds.  A carriage return at its end is held back
until the next block is there, unless it is the last one. -/
def withNewlines (returned last : Bool) (cs : List Char) : List Char × Bool :=
  let cs := if returned && (last || !cs.isEmpty) then '\r' :: cs else cs
  if cs.isEmpty then ([], returned && !last)
  else if !last && cs.getLast? == some '\r' then (unifyNewlines cs.dropLast, true)
  else (unifyNewlines cs, false)

/-- The bytes are two that half of a surrogate pair begins with.  No character does, but that only
shows when a third byte is there, or none is to come. -/
def opensHalf : Bytes → Bool
  | [lead, next] => lead == 0xED && 0xA0 ≤ next && next ≤ 0xBF
  | _ => false

/-- The next block is read, from which `n` characters are wanted.  A block without bytes is the
last one. -/
def readBlock (f : TextFile) (n : Nat) : Except DecodeFault TextFile :=
  let block := f.bytes.take (f.nextSize n)
  let bytes := f.opened ++ block
  let (cs, ending) := readChars 0 bytes
  let (ready, returned) := withNewlines f.returned block.isEmpty cs
  let next : TextFile :=
    { bytes := f.bytes.drop block.length, returned, ready
      blockBytes := block.length, blockChars := ready.length }
  match ending with
  | .fault fault =>
    let opened := bytes.drop fault.start
    if opensHalf opened && !block.isEmpty then .ok { next with opened } else .error fault
  | .clean => .ok next
  | .within _ opened =>
    if block.isEmpty then (match ending.atEnd with
      | some fault => .error fault
      | none => .ok next)
    else .ok { next with opened }

/-- The next `n` characters, or fewer at the end of the file, in at most `turns` blocks. -/
def readIn : (turns : Nat) → TextFile → Nat → Except DecodeFault (List Char × TextFile)
  | 0, f, n => .ok (f.ready.take n, { f with ready := f.ready.drop n })
  | turns + 1, f, n => do
    let cs := f.ready.take n
    let rest := n - cs.length
    if rest = 0 then return (cs, { f with ready := f.ready.drop n })
    let f' ← f.readBlock rest
    if f'.blockBytes = 0 && f'.blockChars = 0 then return (cs, f')
    let (more, f) ← readIn turns f' rest
    return (cs ++ more, f)

/-- The next `n` characters, or fewer at the end of the file.  Every block but the last two has
bytes, so there are enough turns. -/
def read (f : TextFile) (n : Nat) : Except DecodeFault (List Char × TextFile) :=
  readIn (f.bytes.length + 2) f n

/-- At most `turns` pieces of `n` characters, and the fault that ends them early. -/
def piecesIn (n : Nat) : (turns : Nat) → TextFile → List (List Char) × Option DecodeFault
  | 0, _ => ([], none)
  | turns + 1, f =>
    match f.read n with
    | .error fault => ([], some fault)
    | .ok ([], _) => ([], none)
    | .ok (piece, f) =>
      let (more, fault) := piecesIn n turns f
      (piece :: more, fault)

/-- The pieces of `n` characters in which a file is read, and the fault that ends them early.
Each piece has a byte at least, so there are enough turns. -/
def pieces (n : Nat) (bs : Bytes) : List (List Char) × Option DecodeFault :=
  piecesIn n (bs.length + 1) { bytes := bs }

end TextFile

end Kumihan.Text
