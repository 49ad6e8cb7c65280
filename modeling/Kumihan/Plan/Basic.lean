import Kumihan.Data.Value

/-!
# Book plans

A plan says what a book is called, who wrote it, and where its manuscript and its
cover are.

The file of a plan can name halves of surrogate pairs, so the texts of a plan that is loaded are
texts in letters.  A book is made of texts that can be written.

## Main definitions

* `BookPlan` — a plan whose texts can be written.
* `LoadedPlan` — a plan as it is loaded.
* `LoadedPlan.shown`, `BookPlan.loaded` — the one as the other.
* `LoadedPlan.textFault?` — why no book can be written of a loaded plan.
-/

namespace Kumihan

open Text (Letter letters)

/-- What is known of a book before its manuscript is read. -/
structure BookPlan where
  /-- The title. -/
  title : String
  /-- The author. -/
  author : String
  /-- The language, as a language tag. -/
  lang : String
  /-- The program that the book names as its maker. -/
  generator : String
  /-- The heading of the table of contents. -/
  tocName : String
  /-- The picture of the cover. -/
  coverImage : String
  /-- The file of the manuscript. -/
  raw : String
  /-- What the book is identified by. -/
  identifier : Data.Value
  /-- The directory that relative files are looked up in. -/
  dir : String := "."
  deriving Repr, Inhabited

/-- A plan as it is loaded, with all letters of its texts. -/
structure LoadedPlan where
  /-- The title. -/
  title : List Letter
  /-- The author. -/
  author : List Letter
  /-- The language, as a language tag. -/
  lang : List Letter
  /-- The program that the book names as its maker. -/
  generator : List Letter
  /-- The heading of the table of contents. -/
  tocName : List Letter
  /-- The picture of the cover. -/
  coverImage : List Letter
  /-- The file of the manuscript. -/
  raw : List Letter
  /-- What the book is identified by. -/
  identifier : Data.Value
  /-- The directory that relative files are looked up in. -/
  dir : String := "."
  deriving Repr, Inhabited

/-- A loaded plan with its texts as they are shown. -/
def LoadedPlan.shown (plan : LoadedPlan) : BookPlan where
  title := Text.spelled plan.title
  author := Text.spelled plan.author
  lang := Text.spelled plan.lang
  generator := Text.spelled plan.generator
  tocName := Text.spelled plan.tocName
  coverImage := Text.spelled plan.coverImage
  raw := Text.spelled plan.raw
  identifier := plan.identifier
  dir := plan.dir

/-- A plan whose texts can be written, as a loaded one. -/
def BookPlan.loaded (plan : BookPlan) : LoadedPlan where
  title := letters plan.title.toList
  author := letters plan.author.toList
  lang := letters plan.lang.toList
  generator := letters plan.generator.toList
  tocName := letters plan.tocName.toList
  coverImage := letters plan.coverImage.toList
  raw := letters plan.raw.toList
  identifier := plan.identifier
  dir := plan.dir

/-- A plan whose texts can be written is shown as it is. -/
@[simp] theorem BookPlan.shown_loaded (plan : BookPlan) : plan.loaded.shown = plan := by
  simp [loaded, LoadedPlan.shown]

/-- Why no book can be written of a plan: the first text of its pages or its metadata that cannot
be.  The heading of the table of contents is only written if there is one. -/
def LoadedPlan.textFault? (plan : LoadedPlan) (hasToc : Bool) : Option Text.EncodeFault :=
  ([plan.lang, plan.title] ++ (if hasToc then [plan.tocName] else [])
    ++ [plan.generator, plan.author]).findSome? Text.encodeFault?

@[simp] theorem BookPlan.textFault?_loaded (plan : BookPlan) (hasToc : Bool) :
    plan.loaded.textFault? hasToc = none := by
  cases hasToc <;> simp [loaded, LoadedPlan.textFault?]

end Kumihan
