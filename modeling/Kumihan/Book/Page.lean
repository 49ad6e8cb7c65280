import Kumihan.Text.Escape
import Kumihan.Plan.Basic
import Kumihan.Book.Fragment

/-!
# Pages

Every page of a book is a document of one of five forms.  The fields of the plan are
escaped; the body of a page stands in it as it is, since a manuscript may hold
markup of its own.

## Main definitions

* `pageOpening` — the part that all forms share.
* `contentPage`, `imagePage`, `fullPage`, `coverPage`, `tocPage` — the five forms.
-/

namespace Kumihan.Book

/-- The file of the picture that keeps the first page in place. -/
def keepSpaceFile : String := "keep-space.jpg"

/-- The style sheet of most pages. -/
def bookStyleFile : String := "book-style.css"

/-- The style sheet of the pages that a picture fills. -/
def fitStyleFile : String := "fit-style.css"

/-- The beginning of a document, up to its title. -/
def pageOpening (plan : BookPlan) (direction : String) : String :=
  "<?xml version=\"1.0\" encoding=\"UTF-8\"?>\n"
    ++ "<!DOCTYPE html>\n"
    ++ "<html\n"
    ++ " xmlns=\"http://www.w3.org/1999/xhtml\"\n"
    ++ " xmlns:epub=\"http://www.idpf.org/2007/ops\"\n"
    ++ " xml:lang=\"" ++ Text.escapeAttribute plan.lang ++ "\"\n"
    ++ " class=\"" ++ direction ++ "\"\n"
    ++ ">\n"
    ++ "<head>\n"
    ++ "<meta charset=\"UTF-8\"/>\n"
    ++ "<title>" ++ Text.escapeText plan.title ++ "</title>\n"

/-- The reference to a style sheet. -/
def styleLink (file : String) : String :=
  "<link rel=\"stylesheet\" type=\"text/css\" href=\"../style/" ++ file ++ "\"/>\n"

/-- The line with the picture that keeps the page in place. -/
def keepSpaceLine : String :=
  "<p class=\"dummy\"><img class=\"keep-space\" src=\"../image/" ++ keepSpaceFile ++ "\"/></p>\n"

/-- The line with a picture that is fitted to the page. -/
def fittedImage (image : String) : String :=
  "<p><img class=\"fit\" src=\"../image/" ++ image ++ "\" alt=\"\"/></p>\n"

/-- The end of a document. -/
def pageClosing : String := "</body>\n</html>"

/-- A page of text. -/
def contentPage (plan : BookPlan) (body : String) : String :=
  pageOpening plan "vrtl"
    ++ styleLink bookStyleFile
    ++ "</head>\n"
    ++ "<body class=\"p-honmon top-left-on\">\n"
    ++ keepSpaceLine
    ++ "<div class=\"main\">\n"
    ++ body
    ++ "</div>\n"
    ++ pageClosing

/-- A page with a picture on it. -/
def imagePage (plan : BookPlan) (image : String) : String :=
  pageOpening plan "hltr"
    ++ styleLink bookStyleFile
    ++ "</head>\n"
    ++ "<body class=\"p-image middle-center-on\">\n"
    ++ keepSpaceLine
    ++ "<div class=\"main\">\n"
    ++ fittedImage image
    ++ "</div>\n"
    ++ pageClosing

/-- A page that a picture fills. -/
def fullPage (plan : BookPlan) (image : String) : String :=
  pageOpening plan "hltr"
    ++ styleLink fitStyleFile
    ++ "<meta name=\"viewport\" content=\"width=2048, height=1444\"/>\n"
    ++ "</head>\n"
    ++ "<body class=\"p-image\">\n"
    ++ "<div class=\"main align-center\">\n"
    ++ fittedImage image
    ++ "</div>\n"
    ++ pageClosing

/-- The cover. -/
def coverPage (plan : BookPlan) (image : String) : String :=
  pageOpening plan "hltr"
    ++ styleLink bookStyleFile
    ++ "</head>\n"
    ++ "<body epub:type=\"cover\" class=\"p-cover\">\n"
    ++ "<div class=\"main\">\n"
    ++ fittedImage image
    ++ "</div>\n"
    ++ pageClosing

/-- The table of contents. -/
def tocPage (plan : BookPlan) (entries : String) : String :=
  pageOpening plan "vrtl"
    ++ styleLink bookStyleFile
    ++ "</head>\n"
    ++ "<body class=\"p-toc top-left-off\">\n"
    ++ keepSpaceLine
    ++ "<div class=\"main\">\n"
    ++ "<div class=\"start-2em\">\n"
    ++ "<p>　<span class=\"mfont font-1em30\">" ++ Text.escapeText plan.tocName ++ "</span></p>\n"
    ++ blankParagraph
    ++ "<div class=\"font-1em10\">\n"
    ++ entries
    ++ "</div>\n"
    ++ "</div>\n"
    ++ "</div>\n"
    ++ pageClosing

end Kumihan.Book
