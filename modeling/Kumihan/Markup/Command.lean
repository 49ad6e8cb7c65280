/-!
# Commands

The directive names of the markup, and the three classes of line that carry no
name.

## Main definitions

* `Command` — what a line asks for.
* `Command.name` — the name as it is written, or the class in angle brackets.
* `Command.written` — the commands that a manuscript can name.
* `Command.ofName?` — the command of a name.
-/

namespace Kumihan.Markup

/-- What one line of a manuscript asks for. -/
inductive Command
  /-- The table of contents stands here. -/
  | toc
  /-- A chapter opens. -/
  | chapter
  /-- A full-page picture. -/
  | image
  /-- The picture of the title page. -/
  | titlePage
  /-- A picture of the front matter. -/
  | prefaceImage
  /-- The afterword opens. -/
  | afterword
  /-- The bibliography opens. -/
  | bibliography
  /-- A right-aligned signature. -/
  | fill
  /-- The picture of the colophon. -/
  | colophon
  /-- A line of the table of contents. -/
  | tocChapter
  /-- A line of text that holds pictures of characters. -/
  | glyph
  /-- A paragraph without an indent. -/
  | noIndent
  /-- The bibliography closes. -/
  | endBibliography
  /-- The copyright page closes. -/
  | endCopyright
  /-- The text of the colophon closes. -/
  | endColophonText
  /-- The afterword closes. -/
  | endAfterword
  /-- A rule of hyphens, which only the typist sees. -/
  | pageBreak
  /-- An empty line. -/
  | blank
  /-- A paragraph. -/
  | text
  deriving DecidableEq, Repr, Inhabited

namespace Command

/-- The name of a command as a manuscript writes it.  The line classes have names
in angle brackets, which no directive can be called. -/
def name : Command → String
  | toc => "toc"
  | chapter => "chapter"
  | image => "img"
  | titlePage => "title-page"
  | prefaceImage => "preface-img"
  | afterword => "atogaki"
  | bibliography => "bibliography"
  | fill => "fill"
  | colophon => "colophon"
  | tocChapter => "toc-chapter"
  | glyph => "gaiji"
  | noIndent => "no-indent"
  | endBibliography => "end-bibliography"
  | endCopyright => "end-copyright"
  | endColophonText => "end-colophon-text"
  | endAfterword => "end-atogaki"
  | pageBreak => "<page-break>"
  | blank => "<blank>"
  | text => "<text>"

/-- The commands that can be written in brackets. -/
def written : List Command :=
  [toc, chapter, image, titlePage, prefaceImage, afterword, bibliography, fill, colophon,
   tocChapter, glyph, noIndent, endBibliography, endCopyright, endColophonText, endAfterword]

/-- The line classes. -/
def lineClasses : List Command := [pageBreak, blank, text]

/-- The command that a manuscript means by a name. -/
def ofName? (name : String) : Option Command := written.find? (·.name == name)

theorem ofName?_name {c : Command} (h : c ∈ written) : ofName? c.name = some c := by
  revert c; decide

end Command

end Kumihan.Markup
