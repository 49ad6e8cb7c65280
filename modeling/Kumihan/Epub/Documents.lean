import Kumihan.Data.Printed
import Kumihan.Epub.Package
import Kumihan.Text.Escape

/-!
# The documents of a container

Beside its items, a container has documents that describe it: where its package
document is, what it holds, and how a reader moves through it.

## Main definitions

* `Xml`, `Xml.render` — documents as trees.
* `containerDocument`, `packageDocument`, `ncxDocument`, `navDocument`.
-/

namespace Kumihan.Epub

/-! ### Documents as trees -/

/-- A part of a document. -/
inductive Xml
  /-- A text. -/
  | text (s : String)
  /-- An element with its attributes and what lies in it. -/
  | element (name : String) (attributes : List (String × String)) (children : List Xml)
  deriving Repr, Inhabited

/-- An attribute as it is written. -/
def attributeText : String × String → String
  | (name, value) =>
    " " ++ name ++ "=\"" ++ Text.escapeAttribute value ++ "\""

namespace Xml

mutual

/-- A part of a document as it is written. -/
def render : Xml → String
  | text s => Text.escapeText s
  | element name attributes children =>
    let opening := "<" ++ name ++ String.join (attributes.map attributeText)
    match children with
    | [] => opening ++ "/>"
    | children => opening ++ ">" ++ renderAll children ++ "</" ++ name ++ ">"

/-- Parts of a document as they are written. -/
def renderAll : List Xml → String
  | [] => ""
  | x :: xs => render x ++ renderAll xs

end

/-- A document as it is written. -/
def document (root : Xml) : String :=
  "<?xml version=\"1.0\" encoding=\"utf-8\"?>\n" ++ root.render ++ "\n"

/-- An element that holds nothing but a text. -/
def field (name : String) (attributes : List (String × String)) (value : String) : Xml :=
  element name attributes (if value.isEmpty then [] else [.text value])

end Xml

/-! ### The documents -/

/-- The directory of a container that the package's files are in. -/
def packageDir : String := "EPUB"

/-- Where the package document is. -/
def containerDocument : String :=
  Xml.document <|
    .element "container"
      [("version", "1.0"), ("xmlns", "urn:oasis:names:tc:opendocument:xmlns:container")]
      [.element "rootfiles" []
        [.element "rootfile"
          [("full-path", packageDir ++ "/content.opf"),
           ("media-type", "application/oebps-package+xml")] []]]

/-- What a statement says, as documents write it.  Bytes stand for the text that they are in ASCII.
-/
def Metadatum.text (m : Metadatum) : String :=
  match m.value with
  | .bytes bs => String.ofList (bs.map fun b => Char.ofNat b.toNat)
  | value => value.spelled

/-- A statement about the book. -/
def metadatumElement (m : Metadatum) : Xml :=
  let attributes := m.attributes.getD []
  let value := m.text
  if m.vocabulary = some "DC" then .field ("dc:" ++ m.name) attributes value
  else .field "meta" attributes value

/-- A line of the list of items.  The navigation and the cover are marked as what they
are. -/
def manifestElement (item : Item) : Xml :=
  let properties :=
    if item.id = "nav" then [("properties", "nav")]
    else if item.id = "cover-image" then [("properties", "cover-image")]
    else []
  .element "item"
    ([("href", item.file), ("id", item.id), ("media-type", item.mediaType)] ++ properties) []

/-- What the book is and what it holds, with the moment at which it was written. -/
def packageDocument (p : Package) (modified : String) : String :=
  Xml.document <|
    .element "package"
      [("xmlns", "http://www.idpf.org/2007/opf"), ("unique-identifier", "id"), ("version", "3.0")]
      [.element "metadata" [("xmlns:dc", "http://purl.org/dc/elements/1.1/")]
        (.field "meta" [("property", "dcterms:modified")] modified
          :: p.metadata.map metadatumElement),
       .element "manifest" [] (p.items.map manifestElement),
       .element "spine" [("toc", "ncx")]
        (p.spine.map fun id => .element "itemref" [("idref", id)] []),
       .element "guide" []
        (p.guide.map fun g =>
          .element "reference" [("type", g.type), ("title", g.title), ("href", g.href)] [])]

/-- What the book is identified by, as a text. -/
def Package.identifier (p : Package) : String :=
  ((p.metadata.find? (·.name = "identifier")).map (·.text)).getD ""

/-- The language of the book. -/
def Package.language (p : Package) : String :=
  ((p.metadata.find? (·.name = "language")).map (·.text)).getD ""

/-- The navigation for older readers. -/
def ncxDocument (p : Package) : String :=
  let label (s : String) : Xml := .element "navLabel" [] [.field "text" [] s]
  Xml.document <|
    .element "ncx" [("xmlns", "http://www.daisy.org/z3986/2005/ncx/"), ("version", "2005-1")]
      [.element "head" [] [.element "meta" [("content", p.identifier), ("name", "dtb:uid")] []],
       .element "docTitle" [] [.field "text" [] p.title],
       .element "navMap" []
        (p.toc.map fun entry =>
          .element "navPoint" [("id", entry.id)]
            [label entry.title, .element "content" [("src", entry.href)] []])]

/-- A list of links. -/
def linkList (links : List (String × String)) : Xml :=
  .element "ol" []
    (links.map fun (href, label) =>
      .element "li" [] [.element "a" [("href", href)] [.text label]])

/-- The navigation. -/
def navDocument (p : Package) : String :=
  Xml.document <|
    .element "html"
      [("xmlns", "http://www.w3.org/1999/xhtml"), ("xmlns:epub", "http://www.idpf.org/2007/ops"),
       ("lang", p.language), ("xml:lang", p.language)]
      [.element "head" [] [.field "title" [] p.title],
       .element "body" []
        [.element "nav" [("epub:type", "toc"), ("id", "id"), ("role", "doc-toc")]
          [.field "h2" [] p.title, linkList (p.toc.map fun entry => (entry.href, entry.title))],
         .element "nav" [("epub:type", "landmarks"), ("hidden", "hidden")]
          [linkList (p.guide.map fun g => (g.href, g.title))]]]

end Kumihan.Epub
