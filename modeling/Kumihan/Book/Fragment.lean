import Kumihan.Text.Decimal
import Kumihan.Markup.Typography

/-!
# Fragments

The pieces of markup from which the body of a page is put together.

## Main definitions

* `Fragment` — a paragraph, a blank one, a signature or a heading.
* `Fragment.render` — the markup of a fragment.
* `render fs` — the markup of a body, its fragments one after the other.
-/

namespace Kumihan.Book

open Kumihan

/-- A piece of the body of a page. -/
inductive Fragment
  /-- One line of text, with or without an indent of one ideographic space. -/
  | paragraph (indent : Bool) (text : String)
  /-- An empty line. -/
  | blank
  /-- A right-aligned signature. -/
  | fill (text : String)
  /-- The heading of a chapter with the number of its anchor. -/
  | chapterHeading (number : Int) (title : String)
  /-- The heading of the afterword with the number of its anchor. -/
  | afterwordHeading (number : Int) (title : String)
  deriving DecidableEq, Repr

/-- The paragraph of a line of text.  Lines that open with a bracket or with a
space of their own take no indent. -/
def Fragment.ofText (text : String) : Fragment :=
  .paragraph (!Markup.opensFlush text.toList) text

/-- The name of the anchor that headings carry and the table of contents links to. -/
def anchor (number : Int) : String := "mokuji-" ++ String.ofList (Text.padded 4 number)

/-- The markup of an empty line. -/
def blankParagraph : String := "<p><br/></p>\n"

namespace Fragment

/-- The markup of a fragment. -/
def render : Fragment → String
  | paragraph true text => "<p>　" ++ text ++ "</p>\n"
  | paragraph false text => "<p>" ++ text ++ "</p>\n"
  | blank => blankParagraph
  | fill text =>
    blankParagraph ++ "<div class=\"align-end\">\n<p>" ++ text ++ "</p>\n</div>\n"
  | chapterHeading number title =>
    "<p class=\"mfont font-1em30\" id=\"" ++ anchor number ++ "\">" ++ title ++ "</p>\n"
      ++ blankParagraph
  | afterwordHeading number title =>
    "<p class=\"mfont font-1em30\" id=\"" ++ anchor number ++ "\">　" ++ title ++ "</p>\n"
      ++ blankParagraph

end Fragment

/-- The markup of a body. -/
def render (fragments : List Fragment) : String := String.join (fragments.map Fragment.render)

end Kumihan.Book
