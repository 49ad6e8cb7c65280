import Kumihan.Book.Compositor
import Kumihan.Book.Contents

/-!
# Compiled manuscripts

A manuscript is compiled in one pass: its punctuation is normalized, its lines are
composed into actions, and its table of contents is written and, where the book
has one, linked to the pages.

## Main definitions

* `CompileFault` — why a manuscript cannot be compiled.
* `CompiledBook`, `compileText`.
-/

namespace Kumihan.Book

open Kumihan.Markup

/-- Why a manuscript cannot be compiled. -/
inductive CompileFault
  /-- A line names no known directive. -/
  | unknownDirective (fault : UnknownDirective)
  /-- The table of contents does not fit the pages. -/
  | tocMismatch (fault : TocMismatch)
  deriving DecidableEq, Repr

/-- A manuscript, compiled. -/
structure CompiledBook where
  /-- The actions. -/
  actions : List Action
  /-- The chapter titles. -/
  titles : List String
  /-- The table of contents with open numbers. -/
  skeleton : Skeleton
  /-- The page with the table of contents, if the book has one. -/
  tocMarkup : Option String
  /-- The text that no directive closes. -/
  leftover : String
  deriving DecidableEq, Repr

/-- The manuscript asks for a table of contents. -/
def asksForToc (actions : List Action) : Bool := actions.any (·.kind = .toc)

/-- The compilation of a manuscript. -/
def compileText (plan : BookPlan) (raw : String) : Except CompileFault CompiledBook :=
  let s := normalize raw.toList
  match compose s with
  | .error fault => .error (.unknownDirective fault)
  | .ok c =>
    let skeleton := buildSkeleton plan s
    let book : CompiledBook :=
      { actions := c.actions, titles := c.titles, skeleton, tocMarkup := none
        leftover := c.leftover }
    if asksForToc c.actions then
      match skeleton.resolve c.actions with
      | .error fault => .error (.tocMismatch fault)
      | .ok markup => .ok { book with tocMarkup := some markup }
    else .ok book

/-- What is reported of a finished compilation. -/
def CompiledBook.records (b : CompiledBook) : List Log.Record :=
  (if b.tocMarkup.isNone then
      [⟨.debug, .compiling, "No #toc# marker; skipping TOC resolution"⟩]
    else [])
    ++ [⟨.info, .compiling,
      s!"Compiled {b.actions.length} actions, {b.titles.length} chapters, "
        ++ s!"{b.skeleton.entries.length} TOC entries"⟩]

/-- What is reported while a manuscript is compiled.  A fault ends the report. -/
def compileRecords (plan : BookPlan) (raw : String) : List Log.Record :=
  let s := normalize raw.toList
  composeRecords s ++
    match compileText plan raw with
    | .error (.unknownDirective _) => []
    | .error (.tocMismatch _) => (buildSkeleton plan s).records
    | .ok book => book.skeleton.records ++ book.records

end Kumihan.Book
