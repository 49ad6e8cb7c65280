import Kumihan.Epub.Documents
import Kumihan.Files.Archive

/-!
# Containers

A package is written as an archive: the media type first, then the documents that
describe the package, then its items in their order.

The documents cannot hold control characters.  A statement about the book that holds one is
left out; elsewhere the package cannot be written.

## Main definitions

* `WriteFault`.
* `Package.fault?` — why a package cannot be written.
* `Package.container` — the files of the container.
-/

namespace Kumihan.Epub

open Text (Bytes)

/-- Why a package cannot be written. -/
inductive WriteFault
  /-- A statement about the book is no text but a value of another kind. -/
  | noText (kind : String)
  /-- A text holds a character that documents cannot hold. -/
  | unspeakable
  /-- A text holds half of a surrogate pair. -/
  | unencodable (fault : Text.EncodeFault)
  deriving DecidableEq, Repr

/-- What is said of the fault. -/
def WriteFault.message : WriteFault → String
  | noText kind => "Argument must be bytes or unicode, got " ++ Text.quoted kind
  | unspeakable =>
    "All strings must be XML compatible: Unicode or ASCII, no NULL bytes or control characters"
  | unencodable fault => fault.message

/-- The character may stand in a document. -/
def isSpeakable (c : Char) : Bool :=
  c == '\t' || c == '\n' || c == '\r' || (' ' ≤ c && c.toNat ≠ 0xFFFE && c.toNat ≠ 0xFFFF)

/-- The text may stand in a document. -/
def speakable (s : String) : Bool := s.toList.all isSpeakable

/-- Bytes that stand for a text may stand in a document: they are in ASCII. -/
def speakableBytes (bs : Bytes) : Bool :=
  bs.all fun b => b.toNat < 128 && isSpeakable (Char.ofNat b.toNat)

/-- Why a value cannot be written in a document, if it cannot. -/
def valueFault? : Data.Value → Option WriteFault
  | .text s => if speakable s then none else some .unspeakable
  | .unpaired s => (Text.encodeFault? s).map .unencodable
  | .bytes bs => if speakableBytes bs then none else some .unspeakable
  | v => some (.noText v.kind)

/-- The statement may stand in a document. -/
def Metadatum.speakable (m : Metadatum) : Bool :=
  (valueFault? m.value).isNone && (m.attributes.getD []).all fun (_, v) => Epub.speakable v

namespace Package

/-- The statement that is no text, if there is one. -/
def wordless? (p : Package) : Option WriteFault :=
  p.metadata.findSome? fun m =>
    match valueFault? m.value with
    | some (.noText kind) => some (.noText kind)
    | _ => none

/-- Why some of the texts cannot be written, if one cannot. -/
def textFault? (texts : List String) : Option WriteFault :=
  if texts.all speakable then none else some .unspeakable

/-- Why the list of the items and the guide cannot be written, if they cannot. -/
def listFault? (p : Package) : Option WriteFault :=
  textFault?
    (p.items.flatMap (fun item => [item.id, item.file, item.mediaType])
      ++ p.guide.flatMap fun g => [g.title, g.href])

/-- Why the identifier cannot be written, if it cannot. -/
def identifierFault? (p : Package) : Option WriteFault :=
  (p.metadata.find? (·.name = "identifier")).bind (valueFault? ·.value)

/-- Why the navigation cannot be written, if it cannot. -/
def navigationFault? (p : Package) : Option WriteFault :=
  textFault?
    (p.toc.flatMap (fun entry => [entry.title, entry.href, entry.id]) ++ [p.title, p.language])

/-- Why the package cannot be written, if it cannot. -/
def fault? (p : Package) : Option WriteFault :=
  p.wordless? <|> p.listFault? <|> p.identifierFault? <|> p.navigationFault?

/-- What an item holds when the package is written. -/
def contentOf (p : Package) (item : Item) : Bytes :=
  match item.payload with
  | .bytes bs => bs
  | .text s => Text.encode s.toList
  | .generated =>
    Text.encode (if item.id = "ncx" then ncxDocument p else navDocument p).toList

/-- The files of the container, written at the given moment. -/
def container (p : Package) (modified : String) : Except WriteFault Files.Archive :=
  match p.fault? with
  | some fault => .error fault
  | none =>
    let kept := { p with metadata := p.metadata.filter (·.speakable) }
    .ok <|
      [("mimetype", Text.encode "application/epub+zip".toList),
       ("META-INF/container.xml", Text.encode containerDocument.toList),
       (packageDir ++ "/content.opf", Text.encode (packageDocument kept modified).toList)]
      ++ p.items.map fun item => (packageDir ++ "/" ++ item.file, p.contentOf item)

end Package

end Kumihan.Epub
