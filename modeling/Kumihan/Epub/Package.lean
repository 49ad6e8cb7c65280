import Kumihan.Data.Value
import Kumihan.Plan.Basic
import Kumihan.Text.Decimal
import Kumihan.Text.Quoted
import Kumihan.Files.Path
import Kumihan.Book.Picture
import Kumihan.Book.Placement
import Kumihan.Epub.MediaType

/-!
# Packages

A package is the book before it is written: its items in the order in which they
are added, its metadata, and the four lists that a reading system walks, namely the
spine, the table of contents, the guide, and what is still pending of the first
two until the package is finalized.

## Main definitions

* `Item`, `Metadatum`, `GuideEntry`, `NavEntry`, `Package`.
* `Package.ofPlan` — the package that a plan opens.
* `Package.addResource`, `addCoverImage`, `addImage`, `addPage`, `finalize`.
-/

namespace Kumihan.Epub

open Kumihan.Book

/-- What an item holds. -/
inductive Payload
  /-- Bytes as they were read. -/
  | bytes (bs : List UInt8)
  /-- A text, which is stored as UTF-8. -/
  | text (s : String)
  /-- A document that is only made when the package is written. -/
  | generated
  deriving DecidableEq, Repr

/-- The number of bytes of a payload, before anything is generated. -/
def Payload.size : Payload → Nat
  | bytes bs => bs.length
  | text s => s.utf8ByteSize
  | generated => 0

/-- A file of the package. -/
structure Item where
  /-- The name by which the spine refers to it. -/
  id : String
  /-- The file in the package. -/
  file : String
  /-- The media type. -/
  mediaType : String
  /-- What it holds. -/
  payload : Payload
  deriving DecidableEq, Repr

/-- A statement about the book as a whole. -/
structure Metadatum where
  /-- The vocabulary, if the statement belongs to one. -/
  vocabulary : Option String
  /-- The term of the vocabulary. -/
  name : String
  /-- What is said. -/
  value : Data.Value
  /-- The attributes, if there are any. -/
  attributes : Option (List (String × String))
  deriving Repr

/-- An entry of the guide. -/
structure GuideEntry where
  /-- What the page is. -/
  type : String
  /-- Its label. -/
  title : String
  /-- Its file. -/
  href : String
  deriving DecidableEq, Repr

/-- An entry of the navigation. -/
structure NavEntry where
  /-- The file. -/
  href : String
  /-- The label. -/
  title : String
  /-- The name of the entry. -/
  id : String
  deriving DecidableEq, Repr

/-- Why a package refuses an operation. -/
inductive PackageFault
  /-- The picture's type is not supported. -/
  | unsupportedPicture (fault : UnsupportedPicture)
  /-- A page is given a role that does not exist. -/
  | unknownRole (name : String)
  /-- The package is finalized a second time. -/
  | alreadyFinalized
  deriving DecidableEq, Repr

/-- What is said of a refusal. -/
def PackageFault.message : PackageFault → String
  | unsupportedPicture fault => fault.message
  | unknownRole name => Text.quoted name
  | alreadyFinalized => "EpubPackage already finalized"

/-- A book before it is written. -/
structure Package where
  /-- The label of pages without a title. -/
  title : String
  /-- The statements about the book. -/
  metadata : List Metadatum
  /-- The items in the order in which they were added. -/
  items : List Item := []
  /-- The landmarks. -/
  guide : List GuideEntry := []
  /-- The pages in reading order, once the package is finalized. -/
  spine : List String := []
  /-- The navigation, once the package is finalized. -/
  toc : List NavEntry := []
  /-- The pages in reading order. -/
  pendingSpine : List String := []
  /-- The navigation. -/
  pendingNav : List NavEntry := []
  /-- The packaged pictures and the names of their items. -/
  images : List (String × String) := []
  /-- The number of items that came without a name. -/
  unnamed : Nat := 0
  /-- The package is finalized. -/
  finalized : Bool := false
  deriving Repr

namespace Package

/-- The package that a plan opens: its statements and no items. -/
def ofPlan (plan : BookPlan) : Package :=
  { title := plan.title
    metadata :=
      [ ⟨some "OPF", "generator", .text "",
          some [("name", "generator"), ("content", plan.generator)]⟩,
        ⟨some "DC", "identifier", plan.identifier, some [("id", "id")]⟩,
        ⟨some "DC", "title", .text plan.title, none⟩,
        ⟨some "DC", "language", .text plan.lang, none⟩,
        ⟨some "DC", "creator", .text plan.author, some [("id", "creator")]⟩ ] }

/-- An item goes to the end.  One without a media type is given the one that its file's name tells,
and one without a name the next free one. -/
def addItem (p : Package) (item : Item) : Package :=
  let item :=
    if item.mediaType.isEmpty then { item with mediaType := guessedMediaType item.file } else item
  if item.id.isEmpty then
    { p with
      items := p.items ++ [{ item with id := "static_" ++ String.ofList (Text.digits p.unnamed) }]
      unnamed := p.unnamed + 1 }
  else { p with items := p.items ++ [item] }

/-- A file that is packaged as it is. -/
def addResource (p : Package) (id file mediaType : String) (payload : Payload) : Package :=
  p.addItem ⟨id, file, mediaType, payload⟩

/-- The cover.  Whatever its file was called, it is packaged under one name. -/
def addCoverImage (p : Package) (file : String) (payload : Payload) :
    Except PackageFault (String × Package) :=
  match mediaType file with
  | .error fault => .error (.unsupportedPicture fault)
  | .ok mediaType =>
    let name := "cover-image" ++ Files.Path.extension file
    let p := p.addItem ⟨"cover-image", "image/" ++ name, mediaType, payload⟩
    .ok (name, { p with
      metadata := p.metadata ++
        [⟨none, "meta", .text "", some [("name", "cover"), ("content", "cover-image")]⟩] })

/-- The picture is packaged. -/
def hasImage (p : Package) (file : String) : Bool := (p.images.lookup file).isSome

/-- The name of the picture that is packaged next. -/
def nextImageId (p : Package) : String :=
  "img-" ++ String.ofList (Text.paddedDigits 4 (p.images.length + 1))

/-- A picture of the manuscript.  It is packaged once; asked for again, the
package answers with the item it has. -/
def addImage (p : Package) (file : String) (payload : Payload) :
    Except PackageFault (String × Package) :=
  match p.images.lookup file with
  | some id => .ok (id, p)
  | none =>
    match mediaType file with
    | .error fault => .error (.unsupportedPicture fault)
    | .ok mediaType =>
      let id := p.nextImageId
      let p := p.addItem ⟨id, "image/" ++ file, mediaType, payload⟩
      .ok (id, { p with images := p.images ++ [(file, id)] })

/-- The name of the item of a page: its file's, without directories and
extension. -/
def pageId (file : String) : String :=
  Files.Path.withoutExtension (Files.Path.baseName file)

/-- A page that is asked for. -/
structure PageRequest where
  /-- The file. -/
  file : String
  /-- The document. -/
  content : String
  /-- The label; without one, or with an empty one, the book's title stands in. -/
  title : Option String := none
  /-- The name of the role. -/
  role : Option String := none
  /-- The page is listed in the navigation. -/
  inNav : Bool := false
  deriving DecidableEq, Repr

/-- The label of a page. -/
def label (p : Package) (page : PageRequest) : String :=
  match page.title with
  | some title => if title.isEmpty then p.title else title
  | none => p.title

/-- The page becomes an item and goes to the end of the reading order. -/
def addPageItem (p : Package) (page : PageRequest) : Package :=
  let id := pageId page.file
  let p := p.addItem ⟨id, page.file, "application/xhtml+xml", .text page.content⟩
  { p with pendingSpine := p.pendingSpine ++ [id] }

/-- The page is listed in the navigation, if it asks for it. -/
def addPageNav (p : Package) (page : PageRequest) : Package :=
  if page.inNav then
    { p with
      pendingNav := p.pendingNav ++ [⟨page.file, p.label page, "nav-" ++ pageId page.file⟩] }
  else p

/-- A page.  A role that does not exist is only noticed when the page is already in
its place, and then the navigation does not list it. -/
def addPage (p : Package) (page : PageRequest) : Package × Option PackageFault :=
  let p := p.addPageItem page
  match page.role with
  | none => (p.addPageNav page, none)
  | some name =>
    if name.isEmpty then (p.addPageNav page, none)
    else match Role.ofName? name with
      | none => (p, some (.unknownRole name))
      | some role =>
        let entry : GuideEntry := ⟨role.guideType, p.label page, page.file⟩
        (addPageNav { p with guide := p.guide ++ [entry] } page, none)

/-- The reading order and the navigation are settled, and the two documents that
hold them become items. -/
def finalize (p : Package) : Except PackageFault Package :=
  if p.finalized then .error .alreadyFinalized
  else
    let p := { p with toc := p.pendingNav, spine := p.pendingSpine, finalized := true }
    let p := p.addItem ⟨"ncx", "toc.ncx", "application/x-dtbncx+xml", .generated⟩
    .ok (p.addItem ⟨"nav", "nav.xhtml", "application/xhtml+xml", .generated⟩)

end Package

end Kumihan.Epub
