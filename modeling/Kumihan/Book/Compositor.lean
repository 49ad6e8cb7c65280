import Kumihan.Log
import Kumihan.Markup.Directive
import Kumihan.Book.Action
import Kumihan.Book.Fragment

/-!
# Composing pages

The compositor takes the directives of a manuscript in their order, gathers
fragments in a galley, and empties the galley into a page where a directive closes
one.  What is in the galley decides how it may be closed:

* *idle* — text without a title: front matter, or what follows a picture;
* *chapter* — text that opens with the heading of a chapter;
* *afterword* — text that opens with the heading of the afterword.

An empty galley makes no page.  Two directives bend the rule that a galley is titled
exactly when it opens with a chapter heading: a chapter also titles the text before
it that continues an earlier chapter, and an afterword leaves the text before
it untitled whatever it opens with.  A bibliography always makes a titled page.

## Main definitions

* `Compositor` — the galley, the titles and the next anchor.
* `Compositor.feed` — one directive: the compositor after it, and the actions it makes.
* `Compositor.feedAll`, `Composition`, `compose` — a whole manuscript.
-/

namespace Kumihan.Book

open Kumihan.Markup

/-- What the galley of a compositor holds. -/
inductive Mode
  /-- Text without a title, or nothing. -/
  | idle
  /-- A chapter, from its heading on. -/
  | chapter
  /-- The afterword, from its heading on. -/
  | afterword
  deriving DecidableEq, Repr, Inhabited

/-- The name of a mode. -/
def Mode.name : Mode → String
  | idle => "idle"
  | chapter => "chapter"
  | afterword => "afterword"

/-- A compositor between two directives. -/
structure Compositor where
  /-- What the galley holds. -/
  mode : Mode := .idle
  /-- The number of the next heading's anchor. -/
  next : Nat := 1
  /-- The chapter titles so far. -/
  titles : List String := []
  /-- The fragments that no page has taken yet. -/
  galley : List Fragment := []
  /-- The title of the heading that the galley opens with. -/
  pending : Option String := none
  /-- The line of the galley's first fragment. -/
  openedAt : Int := 0
  deriving DecidableEq, Repr, Inhabited

namespace Compositor

/-! ### The galley -/

/-- A fragment from line `line` goes to the end of the galley. -/
def push (c : Compositor) (fragment : Fragment) (line : Int) : Compositor :=
  { c with
    galley := c.galley ++ [fragment]
    openedAt := if c.galley.isEmpty then line else c.openedAt }

/-- The compositor with an empty galley. -/
def clear (c : Compositor) : Compositor :=
  { c with mode := .idle, galley := [], pending := none }

/-- The markup of the galley. -/
def content (c : Compositor) : String := render c.galley

/-! ### Closing a page -/

/-- A picture closes the galley: a chapter keeps its title, other text has none. -/
def closeForImage (c : Compositor) : Compositor × List Action :=
  if c.galley.isEmpty then ({ c with mode := .idle }, [])
  else match c.mode with
    | .chapter => (c.clear, [{ kind := .titledBody, content := c.content, title := c.pending }])
    | .idle | .afterword => (c.clear, [{ kind := .body, content := c.content }])

/-- A chapter closes the galley.  Text that does not open with a chapter heading
continues the latest chapter, if there is one. -/
def closeForChapter (c : Compositor) : Compositor × List Action :=
  if c.galley.isEmpty then ({ c with mode := .idle }, [])
  else match c.mode, c.titles.getLast? with
    | .chapter, _ =>
      (c.clear, [{ kind := .titledBody, content := c.content, title := c.pending }])
    | .idle, some latest | .afterword, some latest =>
      (c.clear, [{ kind := .titledBody, content := c.content, title := some latest }])
    | .idle, none | .afterword, none => (c.clear, [{ kind := .body, content := c.content }])

/-- An afterword closes the galley without a title. -/
def closeForAfterword (c : Compositor) : Compositor × List Action :=
  if c.galley.isEmpty then ({ c with mode := .idle }, [])
  else (c.clear, [{ kind := .body, content := c.content }])

/-- A bibliography closes the galley under a title, even if it is empty: the
pending title of a chapter, or else the bibliography's own, which becomes a chapter
title, or else the latest chapter title. -/
def closeForBibliography (c : Compositor) (argument : String) : Compositor × List Action :=
  let pending := if c.mode = .chapter then c.pending else none
  match pending with
  | some title => (c.clear, [{ kind := .titledBody, content := c.content, title := some title }])
  | none =>
    if argument.isEmpty then
      (c.clear, [{ kind := .titledBody, content := c.content, title := c.titles.getLast? }])
    else
      ({ c.clear with titles := c.titles ++ [argument] },
        [{ kind := .titledBody, content := c.content, title := some argument }])

/-- An end marker closes the galley into a page of its own kind, even if it is
empty.  Only an afterword that was opened as one keeps its title. -/
def closeAs (c : Compositor) (kind : ActionKind) : Compositor × List Action :=
  let title := if c.mode = .afterword ∧ kind = .afterword then c.pending else none
  (c.clear, [{ kind, content := c.content, title }])

/-! ### Directives -/

/-- A chapter opens with its heading. -/
def openChapter (c : Compositor) (title : String) (line : Int) : Compositor :=
  { c.push (.chapterHeading c.next title) line with
    mode := .chapter
    next := c.next + 1
    titles := c.titles ++ [title]
    pending := some title }

/-- The afterword opens with its heading. -/
def openAfterword (c : Compositor) (title : String) (line : Int) : Compositor :=
  { c.push (.afterwordHeading c.next title) line with
    mode := .afterword
    next := c.next + 1
    pending := some title }

/-- One directive: the compositor after it, and the actions it makes. -/
def feed (c : Compositor) (d : Directive) : Compositor × List Action :=
  match d.command with
  | .toc => (c, [{ kind := .toc, content := d.argument }])
  | .titlePage => (c, [{ kind := .titlePage, content := d.argument }])
  | .prefaceImage => (c, [{ kind := .prefaceImage, content := d.argument }])
  | .colophon => (c, [{ kind := .colophonImage, content := d.argument }])
  | .glyph =>
    (c.push (.ofText d.argument) d.line,
      d.glyphs.map fun name => { kind := .glyphImage, content := name })
  | .chapter =>
    let (closed, actions) := c.closeForChapter
    (closed.openChapter d.argument d.line, actions)
  | .image =>
    let (closed, actions) := c.closeForImage
    (closed, actions ++ [{ kind := .image, content := d.argument }])
  | .afterword =>
    let (closed, actions) := c.closeForAfterword
    (closed.openAfterword d.argument d.line, actions)
  | .bibliography => c.closeForBibliography d.argument
  | .endBibliography => c.closeAs .bibliography
  | .endCopyright => c.closeAs .copyright
  | .endColophonText => c.closeAs .colophonText
  | .endAfterword => c.closeAs .afterword
  | .fill => (c.push (.fill d.argument) d.line, [])
  | .noIndent => (c.push (.paragraph false d.argument) d.line, [])
  | .blank => (c.push .blank d.line, [])
  | .text => (c.push (.ofText d.argument) d.line, [])
  | .tocChapter | .pageBreak => (c, [])

/-- The directives of a manuscript, one after the other. -/
def feedAll (c : Compositor) : List Directive → Compositor × List Action
  | [] => (c, [])
  | d :: ds =>
    let (c₁, actions) := c.feed d
    let (c₂, more) := c₁.feedAll ds
    (c₂, actions ++ more)

@[simp] theorem feedAll_nil (c : Compositor) : c.feedAll [] = (c, []) := rfl

@[simp] theorem feedAll_cons (c : Compositor) (d : Directive) (ds : List Directive) :
    c.feedAll (d :: ds) =
      (((c.feed d).1.feedAll ds).1, (c.feed d).2 ++ ((c.feed d).1.feedAll ds).2) := rfl

/-- The line from which on text would be lost, were the manuscript to end here. -/
def leftoverLine (c : Compositor) : Int := if c.content.isEmpty then 0 else c.openedAt

/-! ### Log -/

/-- What is reported when an action is made. -/
def actionRecord (a : Action) : Log.Record :=
  ⟨.debug, .composing, "Added " ++ a.kind.name ++ " action"⟩

/-- What is reported of one directive. -/
def feedRecords (c : Compositor) (d : Directive) : List Log.Record :=
  ⟨.debug, .composing,
    "Line " ++ String.ofList (Text.numeral d.line) ++ ": " ++ d.command.name⟩
    :: (c.feed d).2.map actionRecord

/-- What is reported of the directives of a manuscript. -/
def feedAllRecords (c : Compositor) : List Directive → List Log.Record
  | [] => []
  | d :: ds => c.feedRecords d ++ (c.feed d).1.feedAllRecords ds

/-- What is reported at the end of a manuscript: a galley that nothing has closed. -/
def finishRecords (c : Compositor) : List Log.Record :=
  if c.content.isEmpty then []
  else [⟨.warning, .composing,
    "Text from line " ++ String.ofList (Text.numeral c.openedAt)
      ++ " onwards is not closed by any directive and was discarded"⟩]

end Compositor

/-! ### Manuscripts -/

/-- A manuscript, composed. -/
structure Composition where
  /-- The actions in the order in which the manuscript makes them. -/
  actions : List Action
  /-- The chapter titles. -/
  titles : List String
  /-- The number that the next heading's anchor would have. -/
  next : Nat
  /-- The text that no directive closes. -/
  leftover : String
  /-- The line where that text begins, or zero. -/
  leftoverLine : Int
  deriving DecidableEq, Repr

/-- What a compositor has made of the directives it was fed. -/
def Composition.ofRun (run : Compositor × List Action) : Composition :=
  { actions := run.2
    titles := run.1.titles
    next := run.1.next
    leftover := run.1.content
    leftoverLine := run.1.leftoverLine }

/-- The composition of a list of directives. -/
def composeDirectives (ds : List Directive) : Composition :=
  .ofRun (({} : Compositor).feedAll ds)

/-- The composition of a text in full-width punctuation. -/
def compose (s : List Char) : Except UnknownDirective Composition :=
  match Directive.ofText s with
  | (ds, none) => .ok (composeDirectives ds)
  | (_, some fault) => .error fault

/-- What is reported while a text is composed.  A line that cannot be read ends
the report. -/
def composeRecords (s : List Char) : List Log.Record :=
  let (ds, fault) := Directive.ofText s
  let fed := ({} : Compositor).feedAllRecords ds
  match fault with
  | some _ => fed
  | none => fed ++ (({} : Compositor).feedAll ds).1.finishRecords

end Kumihan.Book
