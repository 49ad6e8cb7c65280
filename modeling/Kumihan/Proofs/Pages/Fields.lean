import Kumihan.Book.Page
import Kumihan.Proofs.Text.Escaped

/-!
# What is put into a page

A page is a template with holes.  The fields of the plan are escaped where they fill a hole, so they
open no tag; a reader that looks for the tag around a field finds that field, whatever it holds, and
can read it back.  The last hole takes the body of the page, a picture's name or the entries of the
table of contents, and takes them as they are.

## Main definitions

* `PageForm`, `PageForm.page` — the five forms of a page.
* `Piece`, `fill`, `PageForm.template` — templates, and the one of each form.
* `between?`, `Carries` — a field is found between two marks and is read back.

## Main results

* `page_eq_fill` — a page is its template with the holes filled.
* `cut?_fill` — a mark of a template is where the mark first occurs in what is filled in.
* `pages_carryFields` — **no field of a plan breaks a page, and the rest stands as it is.**
-/

namespace Kumihan.Book

open Text (attributeMarks cut? neverBegins neverBegins_append neverBegins_of_notMem textMarks
  unescapeInTurn)

/-! ### Templates -/

/-- The forms of a page. -/
inductive PageForm
  /-- A page of text. -/
  | content
  /-- A page with a picture on it. -/
  | image
  /-- A page that a picture fills. -/
  | full
  /-- The cover. -/
  | cover
  /-- The table of contents. -/
  | contents
  deriving DecidableEq, Repr

/-- The page of a form, with what it is made for. -/
def PageForm.page : PageForm → BookPlan → String → String
  | content => contentPage
  | image => imagePage
  | full => fullPage
  | cover => coverPage
  | contents => tocPage

/-- A field of a plan that stands on pages. -/
inductive PlanField
  /-- The language. -/
  | lang
  /-- The title. -/
  | title
  /-- The heading of the table of contents. -/
  | tocName
  deriving DecidableEq, Repr

namespace PlanField

/-- What a plan says in a field. -/
def value (plan : BookPlan) : PlanField → String
  | lang => plan.lang
  | title => plan.title
  | tocName => plan.tocName

/-- A field as it is written on a page: the language stands in an attribute. -/
def written (plan : BookPlan) : PlanField → String
  | lang => Text.escapeAttribute plan.lang
  | title => Text.escapeText plan.title
  | tocName => Text.escapeText plan.tocName

/-- What stands before a field. -/
def opening : PlanField → String
  | lang => " xml:lang=\""
  | title => "<title>"
  | tocName => "<span class=\"mfont font-1em30\">"

/-- What a field ends before. -/
def closing : PlanField → String
  | lang => "\""
  | title => "</title>"
  | tocName => "</span>"

/-- The characters that are special where a field stands. -/
def marks : PlanField → List Char
  | lang => attributeMarks
  | title | tocName => textMarks

end PlanField

/-- A piece of a template. -/
inductive Piece
  /-- Markup that is the same on all pages. -/
  | fixed (markup : String)
  /-- A hole for a field of the plan. -/
  | field (f : PlanField)
  /-- The hole for what the page is made for. -/
  | hole
  deriving DecidableEq, Repr

/-- A piece with its hole filled. -/
def Piece.fill (plan : BookPlan) (insert : String) : Piece → String
  | fixed markup => markup
  | field f => f.written plan
  | hole => insert

/-- A template with its holes filled, in one pass: what fills a hole is not looked at again. -/
def fill (plan : BookPlan) (insert : String) (pieces : List Piece) : List Char :=
  pieces.flatMap fun piece => (piece.fill plan insert).toList

/-- The direction of the text on a page. -/
def PageForm.direction : PageForm → String
  | content | contents => "vrtl"
  | image | full | cover => "hltr"

/-- A field between its marks. -/
def PlanField.pieces (f : PlanField) : List Piece :=
  [.fixed f.opening, .field f, .fixed f.closing]

/-- The beginning of all templates, up to the language. -/
def piecesToLang : List Piece :=
  [.fixed "<?xml version=\"1.0\" encoding=\"UTF-8\"?>\n", .fixed "<!DOCTYPE html>\n",
    .fixed "<html\n", .fixed " xmlns=\"http://www.w3.org/1999/xhtml\"\n",
    .fixed " xmlns:epub=\"http://www.idpf.org/2007/ops\"\n"]

/-- What stands between the language and the title. -/
def PageForm.piecesToTitle (form : PageForm) : List Piece :=
  [.fixed "\n", .fixed " class=\"", .fixed form.direction, .fixed "\"\n", .fixed ">\n",
    .fixed "<head>\n", .fixed "<meta charset=\"UTF-8\"/>\n"]

/-- The reference to a style sheet. -/
def styleLinkPieces (file : String) : List Piece :=
  [.fixed "<link rel=\"stylesheet\" type=\"text/css\" href=\"../style/", .fixed file,
    .fixed "\"/>\n"]

/-- The line with the picture that keeps the page in place. -/
def keepSpacePieces : List Piece :=
  [.fixed "<p class=\"dummy\"><img class=\"keep-space\" src=\"../image/", .fixed keepSpaceFile,
    .fixed "\"/></p>\n"]

/-- What stands between the title and the heading of the contents. -/
def piecesToHeading : List Piece :=
  .fixed "\n" :: styleLinkPieces bookStyleFile
    ++ [.fixed "</head>\n", .fixed "<body class=\"p-toc top-left-off\">\n"] ++ keepSpacePieces
    ++ [.fixed "<div class=\"main\">\n", .fixed "<div class=\"start-2em\">\n", .fixed "<p>　"]

/-- What stands between the title and the mark before the last hole. -/
def PageForm.piecesToMark : PageForm → List Piece
  | content =>
    .fixed "\n" :: styleLinkPieces bookStyleFile
      ++ [.fixed "</head>\n", .fixed "<body class=\"p-honmon top-left-on\">\n"] ++ keepSpacePieces
  | image =>
    .fixed "\n" :: styleLinkPieces bookStyleFile
      ++ [.fixed "</head>\n", .fixed "<body class=\"p-image middle-center-on\">\n"]
      ++ keepSpacePieces ++ [.fixed "<div class=\"main\">\n"]
  | full =>
    .fixed "\n" :: styleLinkPieces fitStyleFile
      ++ [.fixed "<meta name=\"viewport\" content=\"width=2048, height=1444\"/>\n",
        .fixed "</head>\n", .fixed "<body class=\"p-image\">\n",
        .fixed "<div class=\"main align-center\">\n"]
  | cover =>
    .fixed "\n" :: styleLinkPieces bookStyleFile
      ++ [.fixed "</head>\n", .fixed "<body epub:type=\"cover\" class=\"p-cover\">\n",
        .fixed "<div class=\"main\">\n"]
  | contents =>
    piecesToHeading ++ PlanField.tocName.pieces ++ [.fixed "</p>\n", .fixed blankParagraph]

/-- The mark before the last hole. -/
def PageForm.mark : PageForm → String
  | content => "<div class=\"main\">\n"
  | image | full | cover => "<p><img class=\"fit\" src=\"../image/"
  | contents => "<div class=\"font-1em10\">\n"

/-- What stands behind the last hole. -/
def PageForm.closing : PageForm → String
  | content => "</div>\n" ++ pageClosing
  | image | full | cover => "\" alt=\"\"/></p>\n" ++ "</div>\n" ++ pageClosing
  | contents => "</div>\n" ++ "</div>\n" ++ "</div>\n" ++ pageClosing

/-- The template of a form up to the title. -/
def PageForm.front (form : PageForm) : List Piece :=
  piecesToLang ++ PlanField.lang.pieces ++ form.piecesToTitle

/-- The template of a form up to the last hole. -/
def PageForm.frame (form : PageForm) : List Piece :=
  form.front ++ PlanField.title.pieces ++ form.piecesToMark

/-- The template of a form. -/
def PageForm.template (form : PageForm) : List Piece :=
  form.frame ++ [.fixed form.mark, .hole, .fixed form.closing]

/-- **A page is its template** with the holes filled. -/
theorem page_eq_fill (form : PageForm) (plan : BookPlan) (insert : String) :
    (form.page plan insert).toList = fill plan insert form.template := by
  -- the pages write a mark and what stands beside it as one literal
  have hheading : "<p>　<span class=\"mfont font-1em30\">".toList
      = "<p>　".toList ++ "<span class=\"mfont font-1em30\">".toList := by decide +kernel
  have hlang : "\"\n".toList = "\"".toList ++ "\n".toList := by decide +kernel
  have htitle : "</title>\n".toList = "</title>".toList ++ "\n".toList := by decide +kernel
  have hname : "</span></p>\n".toList = "</span>".toList ++ "</p>\n".toList := by decide +kernel
  unfold fill PageForm.template PageForm.frame PageForm.front piecesToLang PageForm.piecesToTitle
    PageForm.direction PageForm.mark PageForm.closing
  cases form
  all_goals
    unfold PageForm.page PageForm.piecesToMark
    unfold contentPage imagePage fullPage coverPage tocPage pageOpening fittedImage styleLink
      keepSpaceLine piecesToHeading styleLinkPieces keepSpacePieces PlanField.pieces
      PlanField.opening PlanField.closing
    simp only [List.flatMap_append, List.flatMap_cons, List.flatMap_nil, Piece.fill,
      PlanField.written, String.toList_append, List.append_assoc, List.append_nil, hheading, hlang,
      htitle, hname]

/-! ### Finding a mark -/

/-- No mark begins in a piece, whatever fills its hole: a field of the plan opens no tag, and of
what the page is made for nothing is known. -/
def Piece.avoids (mark : String) : Piece → Bool
  | fixed markup => neverBegins mark.toList markup.toList
  | field _ => mark.toList.head? = some '<'
  | hole => false

/-- No mark begins in the pieces, whatever fills their holes. -/
def Avoids (mark : String) (pieces : List Piece) : Prop :=
  ∀ piece ∈ pieces, piece.avoids mark = true

/-- The letters with which the tags begin that a mark is in. -/
def markLetters : List Char := ['t', 'd', 'p', 's']

namespace Avoids

variable {c : Char} {m l : List Char} {mark : String} {pieces pieces' : List Piece}

theorem nil : Avoids mark [] := fun _ h => absurd h List.not_mem_nil

theorem fixed (h : neverBegins m l = true) (hrest : Avoids (String.ofList m) pieces) :
    Avoids (String.ofList m) (.fixed (String.ofList l) :: pieces) := by
  refine List.forall_mem_cons.mpr ⟨?_, hrest⟩
  simpa only [Piece.avoids, String.toList_ofList] using h

/-- Markup with none of these tags has no mark in it, however the mark goes on. -/
theorem untagged (hc : c ∈ markLetters)
    (h : (markLetters.all fun c => neverBegins ['<', c] l) = true)
    (hrest : Avoids (String.ofList ('<' :: c :: m)) pieces) :
    Avoids (String.ofList ('<' :: c :: m)) (.fixed (String.ofList l) :: pieces) :=
  .fixed (Text.neverBegins_of_prefix ⟨m, rfl⟩ (List.all_eq_true.mp h c hc)) hrest

theorem field {f : PlanField} (hrest : Avoids (String.ofList ('<' :: m)) pieces) :
    Avoids (String.ofList ('<' :: m)) (.field f :: pieces) := by
  refine List.forall_mem_cons.mpr ⟨?_, hrest⟩
  simp [Piece.avoids]

theorem append (h : Avoids mark pieces) (h' : Avoids mark pieces') :
    Avoids mark (pieces ++ pieces') :=
  List.forall_mem_append.mpr ⟨h, h'⟩

end Avoids

section

variable {mark : String} (plan : BookPlan) (insert : String) {piece : Piece} {pieces : List Piece}

theorem lt_notMem_written (f : PlanField) : '<' ∉ (f.written plan).toList := by
  cases f with
  | lang => exact Text.lt_notMem_escapeAttribute plan.lang
  | title => exact Text.lt_notMem_escapeText plan.title
  | tocName => exact Text.lt_notMem_escapeText plan.tocName

theorem neverBegins_piece (h : piece.avoids mark = true) :
    neverBegins mark.toList (piece.fill plan insert).toList = true := by
  cases piece with
  | fixed markup => exact h
  | field f =>
    obtain ⟨m, hm⟩ : ∃ m, mark.toList = '<' :: m :=
      ⟨_, List.eq_cons_of_mem_head? (of_decide_eq_true h)⟩
    rw [hm]
    exact neverBegins_of_notMem (lt_notMem_written plan f)
  | hole => contradiction

theorem neverBegins_fill (h : Avoids mark pieces) :
    neverBegins mark.toList (fill plan insert pieces) = true := by
  induction pieces with
  | nil => rfl
  | cons piece pieces ih =>
    obtain ⟨hpiece, hpieces⟩ := List.forall_mem_cons.mp h
    exact neverBegins_append (neverBegins_piece plan insert hpiece) (ih hpieces)

/-- What the page is made for makes no difference to pieces that avoid a mark. -/
theorem fill_of_avoids (h : Avoids mark pieces) (insert' : String) :
    fill plan insert pieces = fill plan insert' pieces := by
  refine List.flatMap_congr fun piece hpiece => ?_
  cases piece with
  | fixed markup => rfl
  | field f => rfl
  | hole => exact absurd (h _ hpiece) Bool.false_ne_true

/-- **A mark of a template** is where it first occurs on the page. -/
theorem cut?_fill (hmark : mark.toList ≠ []) (h : Avoids mark pieces) (behind : List Piece) :
    cut? mark.toList (fill plan insert (pieces ++ .fixed mark :: behind))
      = some (fill plan insert pieces, fill plan insert behind) := by
  have hparts : fill plan insert (pieces ++ .fixed mark :: behind)
      = fill plan insert pieces ++ (mark.toList ++ fill plan insert behind) := by
    unfold fill
    rw [List.flatMap_append, List.flatMap_cons]
    rfl
  rw [hparts, Text.cut?_of_neverBegins hmark (neverBegins_fill plan insert h)]

end

/-! ### The marks of the forms -/

/-- **Before the title** there is no tag that a mark is in. -/
theorem avoids_front {c : Char} {m : List Char} (hc : c ∈ markLetters) (form : PageForm) :
    Avoids (String.ofList ('<' :: c :: m)) form.front := by
  unfold PageForm.front
  refine .append (.append ?_ ?_) ?_
  · iterate 5 refine .untagged hc (by decide) ?_
    exact .nil
  · exact .untagged hc (by decide) (.field (.untagged hc (by decide) .nil))
  · cases form
    all_goals
      iterate 7 refine .untagged hc (by decide) ?_
      exact .nil

/-- **Before the heading** of the contents there is no other tag of its kind. -/
theorem avoids_heading : Avoids PlanField.tocName.opening
    (PageForm.contents.front ++ PlanField.title.pieces ++ piecesToHeading) := by
  refine .append (.append (avoids_front (by decide) _) ?_) ?_
  · exact .fixed (by decide) (.field (.fixed (by decide) .nil))
  · iterate 12 refine .fixed (by decide) ?_
    exact .nil

/-- **Before the last hole** the mark of a form stands once. -/
theorem avoids_mark (form : PageForm) : Avoids form.mark form.frame := by
  have hfront : Avoids form.mark form.front := by
    cases form <;> exact avoids_front (by decide) _
  have htitle : Avoids form.mark PlanField.title.pieces := by
    cases form <;> exact .fixed (by decide) (.field (.fixed (by decide) .nil))
  refine .append (.append hfront htitle) ?_
  cases form with
  | content =>
    iterate 9 refine .fixed (by decide) ?_
    exact .nil
  | image =>
    iterate 10 refine .fixed (by decide) ?_
    exact .nil
  | full =>
    iterate 8 refine .fixed (by decide) ?_
    exact .nil
  | cover =>
    iterate 7 refine .fixed (by decide) ?_
    exact .nil
  | contents =>
    refine .append (.append ?_ ?_) ?_
    · iterate 12 refine .fixed (by decide) ?_
      exact .nil
    · exact .fixed (by decide) (.field (.fixed (by decide) .nil))
    · exact .fixed (by decide) (.fixed (by decide) .nil)

/-! ### Fields -/

/-- The text from the first `opening` in some markup to the next `closing`. -/
def between? (opening closing markup : List Char) : Option (List Char) :=
  (cut? opening markup).bind fun (_, behind) => (cut? closing behind).map (·.1)

/-- A field of the plan stands in some markup between its two marks: what is written there opens no
tag, and is the field once the special characters are read again. -/
def Carries (plan : BookPlan) (f : PlanField) (markup : String) : Prop :=
  ∃ written, between? f.opening.toList f.closing.toList markup.toList = some written
    ∧ '<' ∉ written ∧ unescapeInTurn f.marks written = (f.value plan).toList

/-- A field is escaped for the place where it stands. -/
theorem unescape_written (plan : BookPlan) (f : PlanField) :
    unescapeInTurn f.marks (f.written plan).toList = (f.value plan).toList := by
  cases f with
  | lang => exact Text.unescape_escapeAttribute plan.lang
  | title => exact Text.unescape_escapeText plan.title
  | tocName => exact Text.unescape_escapeText plan.tocName

/-- A field does not end before it is written as a whole. -/
theorem neverBegins_closing (plan : BookPlan) (f : PlanField) :
    neverBegins f.closing.toList (f.written plan).toList = true := by
  cases f with
  | lang =>
    have hquote : '"' ∉ (Text.escapeAttribute plan.lang).toList := by
      rw [Text.escapeAttribute, String.toList_ofList]
      exact Text.quote_notMem_escape plan.lang.toList
    exact neverBegins_of_notMem hquote
  | title => exact neverBegins_of_notMem (lt_notMem_written plan .title)
  | tocName => exact neverBegins_of_notMem (lt_notMem_written plan .tocName)

/-- **A field of a template** is carried by the page, if its mark comes first there. -/
theorem carries_of_template {plan : BookPlan} {f : PlanField} {markup insert : String}
    {before behind : List Piece}
    (hmarkup : markup.toList = fill plan insert (before ++ (f.pieces ++ behind)))
    (hbefore : Avoids f.opening before) : Carries plan f markup := by
  have hopening : f.opening.toList ≠ [] := by cases f <;> decide +kernel
  have hclosing : f.closing.toList ≠ [] := by cases f <;> decide +kernel
  have hfield : fill plan insert (.field f :: .fixed f.closing :: behind)
      = (f.written plan).toList ++ (f.closing.toList ++ fill plan insert behind) := by
    unfold fill
    simp only [List.flatMap_cons, Piece.fill]
  have hcut := cut?_fill plan insert hopening hbefore (.field f :: .fixed f.closing :: behind)
  have hend := Text.cut?_of_neverBegins hclosing (neverBegins_closing plan f)
    (fill plan insert behind)
  refine ⟨(f.written plan).toList, ?_, lt_notMem_written plan f, unescape_written plan f⟩
  unfold between?
  rw [hmarkup]
  unfold PlanField.pieces
  rw [List.cons_append, List.cons_append, List.cons_append, List.nil_append, hcut, hfield]
  simp only [Option.bind_some, hend, Option.map_some]

theorem carries_lang (form : PageForm) (plan : BookPlan) (insert : String) :
    Carries plan .lang (form.page plan insert) := by
  have hpage := page_eq_fill form plan insert
  simp only [PageForm.template, PageForm.frame, PageForm.front, List.append_assoc] at hpage
  refine carries_of_template hpage ?_
  iterate 5 refine .fixed (by decide) ?_
  exact .nil

theorem carries_title (form : PageForm) (plan : BookPlan) (insert : String) :
    Carries plan .title (form.page plan insert) := by
  have hpage := page_eq_fill form plan insert
  simp only [PageForm.template, PageForm.frame, List.append_assoc] at hpage
  exact carries_of_template hpage (avoids_front (by decide) form)

theorem carries_tocName (plan : BookPlan) (entries : String) :
    Carries plan .tocName (tocPage plan entries) := by
  have hpage : (tocPage plan entries).toList = _ := page_eq_fill .contents plan entries
  have htemplate : PageForm.contents.template
      = (PageForm.contents.front ++ PlanField.title.pieces ++ piecesToHeading)
        ++ (PlanField.tocName.pieces ++ [.fixed "</p>\n", .fixed blankParagraph,
          .fixed PageForm.contents.mark, .hole, .fixed PageForm.contents.closing]) := by
    simp only [PageForm.template, PageForm.frame, PageForm.piecesToMark, List.append_assoc,
      List.cons_append, List.nil_append]
  rw [htemplate] at hpage
  exact carries_of_template hpage avoids_heading

/-! ### All pages -/

/-- **No field of a plan breaks a page.**  On a page of every form the title and the language, and
on the table of contents its heading, are found between their marks, open no tag and are read back.
What the page is made for stands as it is behind its mark, wherever the mark occurs again, and
nothing else depends on it. -/
theorem pages_carryFields (plan : BookPlan) (form : PageForm) :
    (∃ front, ∀ insert, cut? form.mark.toList (form.page plan insert).toList
        = some (front, insert.toList ++ form.closing.toList))
      ∧ ∀ insert, Carries plan .title (form.page plan insert)
        ∧ Carries plan .lang (form.page plan insert)
        ∧ (form = .contents → Carries plan .tocName (form.page plan insert)) := by
  have hmark : form.mark.toList ≠ [] := by cases form <;> decide +kernel
  have hframe := avoids_mark form
  refine ⟨⟨fill plan "" form.frame, fun insert => ?_⟩, fun insert => ⟨?_, ?_, ?_⟩⟩
  · have hbehind : fill plan insert [.hole, .fixed form.closing]
        = insert.toList ++ form.closing.toList := by
      unfold fill
      simp only [List.flatMap_cons, List.flatMap_nil, Piece.fill, List.append_nil]
    rw [page_eq_fill, PageForm.template, cut?_fill plan insert hmark hframe, hbehind,
      fill_of_avoids plan insert hframe ""]
  · exact carries_title form plan insert
  · exact carries_lang form plan insert
  · rintro rfl
    exact carries_tocName plan insert

end Kumihan.Book
