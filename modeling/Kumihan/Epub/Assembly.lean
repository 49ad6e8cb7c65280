import Kumihan.Plan.Source

/-!
# Putting a book together

Everything a book is made from is read before anything is written.  The package is
filled in the order of the manuscript: a picture becomes an item when the first page
that shows it does.  A failure leaves the package as it was then.

## Main definitions

* `Inputs`, `readInputs` — what is read before the manuscript.
* `openPackage` — the package with its style sheets and its cover.
* `place` — the package with one more page.
* `Assembly`, `assembleLoaded`, `assemble` — the finished package, or how far it came.
-/

namespace Kumihan.Epub

open Book (CompiledBook Placement Role compileRecords compileText layout mediaType)
open Files (Disk)
open Text (Bytes letters)

/-! ### What is read -/

/-- What is read before the manuscript. -/
structure Inputs where
  /-- The picture of the cover. -/
  cover : Bytes
  /-- The style of most pages. -/
  bookStyle : Bytes
  /-- The style of the pages that a picture fills. -/
  fitStyle : Bytes
  /-- The picture that keeps a page in place. -/
  keepSpace : Bytes
  deriving DecidableEq, Repr

/-- What is read before the manuscript.  Only characters make the type of a picture, so halves in
its name can be spelled out. -/
def readInputs (disk : Disk) (plan : LoadedPlan) (pictureDir : String) :
    Except Failure Inputs := do
  let _ ← (mediaType (Text.spelled plan.coverImage)).mapError Failure.picture
  let cover ← readPicture disk (letters pictureDir.toList) plan.coverImage
  let bookStyle ← readArtifact disk plan.dir Book.bookStyleFile
  let fitStyle ← readArtifact disk plan.dir Book.fitStyleFile
  let keepSpace ← readArtifact disk plan.dir Book.keepSpaceFile
  return { cover, bookStyle, fitStyle, keepSpace }

/-! ### The package -/

/-- The label of the cover. -/
def coverTitle : String := "表紙"

/-- The file of the page with the cover. -/
def coverFile : String := "xhtml/p-cover.xhtml"

/-- The package with its style sheets and its cover.  The page of the cover has a name and a role
that a package accepts, so that adding it cannot fail (`addPage_of_role_accepted`). -/
def openPackage (plan : BookPlan) (inputs : Inputs) : Except Failure Package := do
  let p := Package.ofPlan plan
  let p := p.addResource "book-style" ("style/" ++ Book.bookStyleFile) "text/css"
    (.bytes inputs.bookStyle)
  let p := p.addResource "fit-style" ("style/" ++ Book.fitStyleFile) "text/css"
    (.bytes inputs.fitStyle)
  let p := p.addResource "keep-space" ("image/" ++ Book.keepSpaceFile) "image/jpeg"
    (.bytes inputs.keepSpace)
  let (name, p) ← (p.addCoverImage plan.coverImage (.bytes inputs.cover)).mapError .package
  return (p.addPage
    { file := coverFile, content := Book.coverPage plan name, title := some coverTitle
      role := some Role.cover.name, inNav := true }).1

/-- The package with a picture of the manuscript, which is read if it is not there yet. -/
def withPicture (disk : Disk) (pictureDir : String) (p : Package) (file : String) :
    Except Failure Package :=
  if p.hasImage file then .ok p
  else match mediaType file with
    | .error fault => .error (.picture fault)
    | .ok _ => do
      let bs ← readPicture disk (letters pictureDir.toList) (letters file.toList)
      let (_, p) ← (p.addImage file (.bytes bs)).mapError Failure.package
      return p

/-- The pages of a kind have a title of their own. -/
def isTitled : Book.ActionKind → Bool
  | .titledBody | .afterword => true
  | _ => false

/-- What a package is asked for a placement, if it is one of a page. -/
def pageRequest? (plan : BookPlan) (book : CompiledBook) (u : Placement) :
    Option Package.PageRequest := do
  let file ← u.file
  let role := u.role.map Role.name
  let a := u.action
  match a.kind with
  | .glyphImage => none
  | .toc =>
    some
      { file, role, content := book.tocMarkup.getD "", title := some plan.tocName, inNav := true }
  | .prefaceImage | .titlePage => some { file, role, content := Book.fullPage plan a.content }
  | .image | .colophonImage => some { file, role, content := Book.imagePage plan a.content }
  | .body | .titledBody | .afterword | .copyright | .bibliography | .colophonText =>
    some
      { file, role, content := Book.contentPage plan a.content, title := a.title
        inNav := isTitled a.kind && a.title.any (!·.isEmpty) }

/-- The picture that a placement shows. -/
def picture? (u : Placement) : Option String :=
  match u.action.kind with
  | .glyphImage | .prefaceImage | .titlePage | .image | .colophonImage => some u.action.content
  | _ => none

/-- The package with one more placement: its picture and its page.  The role of a placement is one
that a package accepts, so that adding the page cannot fail (`addPage_of_role_accepted`). -/
def place (disk : Disk) (pictureDir : String) (plan : BookPlan) (book : CompiledBook)
    (p : Package) (u : Placement) : Except Failure Package := do
  let p ← match picture? u with
    | some file => withPicture disk pictureDir p file
    | none => pure p
  match pageRequest? plan book u with
  | some page => return (p.addPage page).1
  | none => return p

/-! ### Log -/

/-- A record of the assembly. -/
def record (message : String) : Log.Record := ⟨.info, .building, message⟩

/-- What is reported of a placement. -/
def placementRecord (u : Placement) : Log.Record :=
  let a := u.action
  let file := u.file.getD ""
  match a.kind with
  | .glyphImage => record s!"Inserted glyph image `{a.content}`"
  | .toc => record "Inserted TOC"
  | .prefaceImage | .titlePage =>
    record s!"Inserted {a.kind.name} image `{a.content}` as {file}"
  | .image | .colophonImage => record s!"Inserted {a.kind.name} `{a.content}` as {file}"
  | .body | .titledBody | .afterword | .copyright | .bibliography | .colophonText =>
    let number := String.ofList (Text.paddedDigits 3 (u.number.getD 0))
    record s!"Inserted {a.kind.name} content with paragraph number `{number}`"

/-! ### Assembly -/

/-- How far a book has been put together. -/
structure Assembly where
  /-- The package, once it is opened. -/
  package : Option Package := none
  /-- What is reported to the log. -/
  records : List Log.Record := []
  /-- Why it did not come further. -/
  failure : Option Failure := none

/-- Placements put into a package one after the other by `place`, up to the first that fails. -/
def placeAll (place : Package → Placement → Except Failure Package) (p : Package) :
    List Placement → Assembly
  | [] => { package := some p }
  | u :: us =>
    match place p u with
    | .error failure => { package := some p, failure := some failure }
    | .ok p =>
      let rest := placeAll place p us
      { rest with records := placementRecord u :: rest.records }

/-- The reading order of the package is settled. -/
def Assembly.finish (a : Assembly) : Assembly :=
  match a.package, a.failure with
  | some p, none =>
    match p.finalize with
    | .ok p => { a with package := some p }
    | .error fault => { a with failure := some (.package fault) }
  | _, _ => a

/-- The package of a compiled book. -/
def assembleBook (disk : Disk) (pictureDir : String) (plan : BookPlan) (inputs : Inputs)
    (book : CompiledBook) : Assembly :=
  match layout book.actions with
  | .error fault => { failure := some (.duplicatePage fault) }
  | .ok placements =>
    let laidOut := record s!"Laid out {placements.length} units"
    match openPackage plan inputs with
    | .error failure => { records := [laidOut], failure := some failure }
    | .ok p =>
      let a := (placeAll (place disk pictureDir plan book) p placements).finish
      { a with
        records := laidOut :: record s!"Inserted cover `{plan.coverImage}`" :: a.records }

/-- A compiled book that cannot be written, because of a text of its plan.  Its pages are laid out,
but no package is opened for them. -/
def refuseBook (book : CompiledBook) (fault : Text.EncodeFault) : Assembly :=
  match layout book.actions with
  | .error fault => { failure := some (.duplicatePage fault) }
  | .ok placements =>
    { records := [record s!"Laid out {placements.length} units"]
      failure := some (.unencodable fault) }

/-- The package of the book that a loaded plan describes. -/
def assembleLoaded (disk : Disk) (pictureDir : String) (plan : LoadedPlan) : Assembly :=
  match readInputs disk plan pictureDir with
  | .error failure => { failure := some failure }
  | .ok inputs =>
    match plan.readText disk with
    | .error failure => { failure := some failure }
    | .ok raw =>
      let records := compileRecords plan.shown raw
      match compileText plan.shown raw with
      | .error fault => { records, failure := some (.compile fault) }
      | .ok book =>
        let a := match plan.textFault? book.tocMarkup.isSome with
          | some fault => refuseBook book fault
          | none => assembleBook disk pictureDir plan.shown inputs book
        { a with records := records ++ a.records }

/-- The package of the book that a plan describes. -/
def assemble (disk : Disk) (pictureDir : String) (plan : BookPlan) : Assembly :=
  assembleLoaded disk pictureDir plan.loaded

end Kumihan.Epub
