/-!
# Style sheets

The two style sheets that come with the program.  A book may bring its own in their place.

## Main definitions

* `StyleSheet`, `StyleSheet.render`.
* `bookStyle`, `fitStyle`.
-/

namespace Kumihan.Epub

/-- One part of a style sheet. -/
inductive StyleItem
  /-- The encoding. -/
  | charset (name : String)
  /-- A remark. -/
  | comment (text : String)
  /-- An empty line. -/
  | blank
  /-- What some elements look like: properties and their values. -/
  | rule (selectors : List String) (declarations : List (String × String))
  deriving DecidableEq, Repr

/-- A style sheet. -/
abbrev StyleSheet := List StyleItem

/-- The lines of a part. -/
def StyleItem.lines : StyleItem → List String
  | charset name => ["@charset \"" ++ name ++ "\";"]
  | comment text => ["/* " ++ text ++ " */"]
  | blank => [""]
  | rule selectors declarations =>
    (String.intercalate ", " selectors ++ " \x7b")
      :: declarations.map (fun (name, value) => "  " ++ name ++ ": " ++ value ++ ";") ++ ["\x7d"]

/-- A style sheet as it is written. -/
def StyleSheet.render (sheet : StyleSheet) : String :=
  String.join ((sheet.flatMap StyleItem.lines).map (· ++ "\n"))

/-- The style of the pages with text. -/
def bookStyle : StyleSheet :=
  [.charset "UTF-8",
   .blank,
   .comment "Writing mode",
   .rule ["html.vrtl"]
     [("-epub-writing-mode", "vertical-rl"), ("-webkit-writing-mode", "vertical-rl"),
      ("writing-mode", "vertical-rl")],
   .rule ["html.hltr"]
     [("-epub-writing-mode", "horizontal-tb"), ("-webkit-writing-mode", "horizontal-tb"),
      ("writing-mode", "horizontal-tb")],
   .blank,
   .rule ["body"]
     [("margin", "0"), ("padding", "0"), ("font-family", "serif"), ("line-height", "1.75"),
      ("text-align", "justify")],
   .blank,
   .rule ["p"] [("margin", "0"), ("padding", "0")],
   .blank,
   .comment "Page kinds",
   .rule ["body.p-honmon", "body.p-toc"] [("line-break", "strict"), ("word-break", "normal")],
   .rule ["body.p-image", "body.p-cover"] [("margin", "0"), ("padding", "0")],
   .rule [".main"] [("display", "block")],
   .blank,
   .comment "Zero-size spacer keeping first-line alignment in reading systems",
   .rule ["p.dummy"] [("display", "none")],
   .rule ["img.keep-space"] [("width", "0"), ("height", "0")],
   .blank,
   .comment "Images",
   .rule ["img.fit"] [("max-width", "100%"), ("max-height", "100%")],
   .rule ["img.gaiji"] [("width", "1em"), ("height", "1em"), ("vertical-align", "text-bottom")],
   .blank,
   .comment "Headings and type",
   .rule [".mfont"] [("font-family", "sans-serif"), ("font-weight", "bold")],
   .rule [".font-1em30"] [("font-size", "1.3em")],
   .rule [".font-1em10"] [("font-size", "1.1em")],
   .blank,
   .comment "Alignment",
   .rule [".align-end"] [("text-align", "end")],
   .rule [".align-center"] [("text-align", "center")],
   .rule [".start-2em"] [("margin-block-start", "2em")],
   .rule [".h-indent-1em"] [("text-indent", "-1em"), ("padding-inline-start", "1em")],
   .blank,
   .comment "Vertical placement",
   .rule [".top-left-on"] [("display", "block")],
   .rule [".top-left-off"] [("display", "block")],
   .rule [".middle-center-on"]
     [("display", "flex"), ("align-items", "center"), ("justify-content", "center"),
      ("height", "100vh")]]

/-- The style of the pages with one picture. -/
def fitStyle : StyleSheet :=
  [.charset "UTF-8",
   .blank,
   .rule ["html", "body"]
     [("margin", "0"), ("padding", "0"), ("width", "100%"), ("height", "100%")],
   .blank,
   .rule ["body.p-image"] [("overflow", "hidden")],
   .blank,
   .rule [".main"] [("width", "100%"), ("height", "100%")],
   .blank,
   .rule [".align-center"] [("text-align", "center")],
   .blank,
   .rule ["p"] [("margin", "0"), ("padding", "0")],
   .blank,
   .rule ["img.fit"] [("width", "100%"), ("height", "100%"), ("object-fit", "contain")]]

end Kumihan.Epub
