import Kumihan.Text.File
import Kumihan.Yaml.Fault

/-!
# Sources

A source is what is read of a file: its text, up to where it is unfit to be read.  A file is
read piece by piece, and the whole of a piece has to be fit before a character of it is
looked at; the first two pieces count as one.

## Main definitions

* `isAcceptable` — the characters that a text may hold.
* `Source`, `Source.ofFile`.
-/

namespace Kumihan.Yaml

/-- The character may stand in a text at all. -/
def isAcceptable (c : Char) : Bool :=
  c == '\t' || c == '\n' || c == '\r' || (' ' ≤ c && c ≤ '~') || c == '\u0085'
    || (0xA0 ≤ c.toNat && c.toNat ≤ 0xFFFD) || 0x10000 ≤ c.toNat

/-- What is read of a file. -/
structure Source where
  /-- The text. -/
  text : List Char
  /-- Why it is broken off, if the file goes on. -/
  fault : Option Fault := none
  deriving DecidableEq, Repr, Inhabited

namespace Source

/-- The greatest number of characters of a piece. -/
def pieceSize : Nat := 4096

/-- The source that pieces give, of which `fault` is the end. -/
def ofPieces (fault : Option Fault) : List (List Char) → Source
  | [] => { text := [], fault }
  | piece :: more =>
    match piece.find? (!isAcceptable ·) with
    | some c => { text := [], fault := some (.malformed (.unprintable c)) }
    | none =>
      let source := ofPieces fault more
      { source with text := piece ++ source.text }

/-- The source that a file is. -/
def ofFile (bs : Text.Bytes) : Source :=
  let (pieces, broken) := Text.TextFile.pieces pieceSize bs
  let fault := broken.map Fault.undecodable
  match pieces with
  | first :: second :: more => ofPieces fault ((first ++ second) :: more)
  | pieces => if fault.isSome then { text := [], fault } else ofPieces none pieces

end Source

end Kumihan.Yaml
