/-!
# Actions

A manuscript is composed into a list of actions: each is one page of the book to
come, or the picture of a character that some page needs.

## Main definitions

* `ActionKind`, `Action`.
* `ActionKind.isNumbered` — the kinds that share the numbers of the body pages.
* `ActionKind.isLinked` — the kinds that a table of contents links to.
* `ActionKind.holdsImage` — the kinds whose content is the name of a picture.
-/

namespace Kumihan.Book

/-- What an action puts into the book. -/
inductive ActionKind
  /-- The table of contents. -/
  | toc
  /-- A picture of the front matter. -/
  | prefaceImage
  /-- The picture of the title page. -/
  | titlePage
  /-- Text without a chapter title. -/
  | body
  /-- Text under a chapter title. -/
  | titledBody
  /-- A full-page picture. -/
  | image
  /-- The afterword. -/
  | afterword
  /-- The picture of the colophon. -/
  | colophonImage
  /-- The text of the colophon. -/
  | colophonText
  /-- The copyright page. -/
  | copyright
  /-- The bibliography. -/
  | bibliography
  /-- The picture of a character, which needs no page of its own. -/
  | glyphImage
  deriving DecidableEq, Repr, Inhabited

namespace ActionKind

/-- All kinds. -/
def all : List ActionKind :=
  [toc, prefaceImage, titlePage, body, titledBody, image, afterword, colophonImage, colophonText,
   copyright, bibliography, glyphImage]

/-- The name of a kind, as messages write it. -/
def name : ActionKind → String
  | toc => "toc"
  | prefaceImage => "preface-image"
  | titlePage => "title-page"
  | body => "body"
  | titledBody => "body-with-chapter-title"
  | image => "image"
  | afterword => "afterword"
  | colophonImage => "colophon-image"
  | colophonText => "colophon-text"
  | copyright => "copyright"
  | bibliography => "bibliography"
  | glyphImage => "glyph-image"

/-- The kind of a name. -/
def ofName? (name : String) : Option ActionKind := all.find? (·.name == name)

/-- The kinds of the body pages, which are numbered together.  The text of the
colophon is among them, so that its page gets a name of its own. -/
def isNumbered : ActionKind → Bool
  | body | titledBody | image | afterword | copyright | bibliography | colophonText => true
  | toc | prefaceImage | titlePage | colophonImage | glyphImage => false

/-- The kinds that the table of contents links to. -/
def isLinked : ActionKind → Bool
  | titledBody | copyright | afterword => true
  | toc | prefaceImage | titlePage | body | image | colophonImage | colophonText | bibliography
  | glyphImage => false

/-- The kinds whose content names a picture. -/
def holdsImage : ActionKind → Bool
  | prefaceImage | titlePage | image | colophonImage | glyphImage => true
  | toc | body | titledBody | afterword | colophonText | copyright | bibliography => false

end ActionKind

/-- One page of the book to come, or one picture for it. -/
structure Action where
  /-- What is put into the book. -/
  kind : ActionKind
  /-- The body of the page, or the name of the picture. -/
  content : String := ""
  /-- The title of the page. -/
  title : Option String := none
  deriving DecidableEq, Repr, Inhabited

end Kumihan.Book
