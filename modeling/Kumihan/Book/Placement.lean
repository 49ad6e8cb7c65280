import Kumihan.Text.Decimal
import Kumihan.Book.Action

/-!
# Placing pages

Every action but the picture of a character is a page with a file name of its own.
The pages of the body are numbered together, the pictures of the front matter have
numbers of their own, and three kinds of page can occur once.

Some pages carry a role, which reading systems list as landmarks of the book.

## Main definitions

* `Role`, `Placement`.
* `layout` — the placements of a list of actions.
-/

namespace Kumihan.Book

/-- What a page is to the reader of a book. -/
inductive Role
  /-- The cover. -/
  | cover
  /-- The table of contents. -/
  | toc
  /-- A picture of the front matter. -/
  | preface
  /-- The title page. -/
  | titlePage
  /-- Where the text begins. -/
  | text
  /-- The afterword. -/
  | afterword
  /-- The copyright page. -/
  | copyright
  /-- The bibliography. -/
  | bibliography
  /-- The colophon. -/
  | colophon
  deriving DecidableEq, Repr, Inhabited

namespace Role

/-- All roles. -/
def all : List Role :=
  [cover, toc, preface, titlePage, text, afterword, copyright, bibliography, colophon]

/-- The name of a role. -/
def name : Role → String
  | cover => "cover"
  | toc => "toc"
  | preface => "preface"
  | titlePage => "title-page"
  | text => "text"
  | afterword => "afterword"
  | copyright => "copyright"
  | bibliography => "bibliography"
  | colophon => "colophon"

/-- The role of a name. -/
def ofName? (name : String) : Option Role := all.find? (·.name == name)

/-- The type under which the guide of a book lists a role. -/
def guideType : Role → String
  | copyright => "copyright-page"
  | role => role.name

end Role

/-- The action of a page, and where its page is put. -/
structure Placement where
  /-- The action. -/
  action : Action
  /-- The file of the page; the picture of a character has none. -/
  file : Option String
  /-- The number of the page in its sequence. -/
  number : Option Nat := none
  /-- What the page is to the reader. -/
  role : Option Role := none
  deriving DecidableEq, Repr, Inhabited

/-- Two pages of a kind that can occur once. -/
structure DuplicatePage where
  /-- The kind. -/
  kind : ActionKind
  deriving DecidableEq, Repr

/-- What is said of a duplicate page. -/
def DuplicatePage.message (fault : DuplicatePage) : String :=
  "more than one " ++ fault.kind.name ++ " unit in the text"

/-- The file of a page that can occur once. -/
def fixedFile? : ActionKind → Option String
  | .toc => some "xhtml/p-toc.xhtml"
  | .titlePage => some "xhtml/p-titlepage.xhtml"
  | .colophonImage => some "xhtml/p-colophon.xhtml"
  | _ => none

/-- The file of the body page with a number. -/
def bodyFile (number : Nat) : String :=
  "xhtml/p-" ++ String.ofList (Text.paddedDigits 3 number) ++ ".xhtml"

/-- The file of the front matter page with a number. -/
def prefaceFile (number : Nat) : String :=
  "xhtml/p-fmatter-" ++ String.ofList (Text.paddedDigits 3 number) ++ ".xhtml"

/-- The role that every page of a kind carries. -/
def fixedRole? : ActionKind → Option Role
  | .toc => some .toc
  | .prefaceImage => some .preface
  | .titlePage => some .titlePage
  | .colophonImage => some .colophon
  | .afterword => some .afterword
  | _ => none

/-- The role of the first page of the main text, by its kind. -/
def firstTextRole? : ActionKind → Option Role
  | .body | .titledBody | .image => some .text
  | .copyright => some .copyright
  | .bibliography => some .bibliography
  | .colophonText => some .colophon
  | _ => none

/-- How far the pages are placed. -/
structure Layout where
  /-- The number of the next body page. -/
  nextBody : Nat := 1
  /-- The number of the next picture of the front matter. -/
  nextPreface : Nat := 1
  /-- The main text has begun. -/
  textStarted : Bool := false
  /-- The kinds that have had their one page. -/
  used : List ActionKind := []
  deriving DecidableEq, Repr, Inhabited

/-- One action: its placement, and how far the pages are placed then. -/
def Layout.place (l : Layout) (a : Action) : Except DuplicatePage (Placement × Layout) :=
  match a.kind with
  | .glyphImage => .ok ({ action := a, file := none }, l)
  | .toc | .titlePage | .colophonImage =>
    if a.kind ∈ l.used then .error ⟨a.kind⟩
    else .ok ({ action := a, file := fixedFile? a.kind, role := fixedRole? a.kind },
      { l with used := a.kind :: l.used })
  | .prefaceImage =>
    .ok ({ action := a, file := some (prefaceFile l.nextPreface), number := some l.nextPreface
           role := fixedRole? a.kind },
      { l with nextPreface := l.nextPreface + 1 })
  | .body | .titledBody | .image | .afterword | .copyright | .bibliography | .colophonText =>
    let role := if l.textStarted then fixedRole? a.kind
      else (firstTextRole? a.kind).or (fixedRole? a.kind)
    .ok ({ action := a, file := some (bodyFile l.nextBody), number := some l.nextBody, role },
      { l with
        nextBody := l.nextBody + 1
        textStarted := l.textStarted || (firstTextRole? a.kind).isSome })

/-- The placements of actions, from some point on. -/
def layoutFrom : Layout → List Action → Except DuplicatePage (List Placement)
  | _, [] => .ok []
  | l, a :: as =>
    match l.place a with
    | .error fault => .error fault
    | .ok (placement, l') =>
      match layoutFrom l' as with
      | .error fault => .error fault
      | .ok placements => .ok (placement :: placements)

/-- The placements of the actions of a book, one for each, in their order. -/
def layout (actions : List Action) : Except DuplicatePage (List Placement) :=
  layoutFrom {} actions

end Kumihan.Book
