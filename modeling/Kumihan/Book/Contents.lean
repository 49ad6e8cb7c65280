import Kumihan.Log
import Kumihan.Text.Occurrence
import Kumihan.Book.Action
import Kumihan.Book.Page

/-!
# The table of contents

The page with the table of contents links to pages whose numbers are only known
when the whole manuscript is composed.  So it is made in two passes that do not
know of each other: one reads the entries off the text and writes a placeholder
for every number, the other numbers the composed pages.

## Main definitions

* `TocEntry`, `scanEntries` — the entries that a text declares.
* `Skeleton`, `buildSkeleton` — the page with placeholders.
* `linkTargets` — the numbers of the pages that entries link to.
* `Skeleton.resolve` — the page with the numbers in place.
-/

namespace Kumihan.Book

/-! ### Entries -/

/-- A line of the table of contents. -/
structure TocEntry where
  /-- The number of the heading's anchor; an empty line has none. -/
  number : Option Nat
  /-- The words of the line. -/
  title : String
  /-- The line is that of the afterword. -/
  afterword : Bool := false
  deriving DecidableEq, Repr, Inhabited

/-- What stands between `marker`, which the text begins with, and the last `#` of
its first line, and the text behind that `#`. -/
def markedName? (marker s : List Char) : Option (List Char × List Char) :=
  if marker.isPrefixOf s then
    let body := s.drop marker.length
    let line := body.takeWhile (· ≠ '\n')
    match Text.cutLast? '#' line with
    | some (name, tail) => some (name, tail ++ body.dropWhile (· ≠ '\n'))
    | none => none
  else none

theorem length_lt_of_cutLast? {c : Char} {s before after : List Char}
    (h : Text.cutLast? c s = some (before, after)) : after.length < s.length := by
  induction s generalizing before after with
  | nil => simp [Text.cutLast?] at h
  | cons d s ih =>
    simp only [Text.cutLast?] at h
    split at h
    · next hcut =>
      obtain ⟨-, rfl⟩ := by simpa using h
      have := ih hcut
      simp only [List.length_cons]
      omega
    · split at h
      · obtain ⟨-, rfl⟩ := by simpa using h
        simp
      · simp at h

/-- Behind a marked name less text is left. -/
theorem length_lt_of_markedName? {marker s name rest : List Char}
    (h : markedName? marker s = some (name, rest)) : rest.length < s.length := by
  unfold markedName? at h
  split at h
  · simp only at h
    split at h
    · next hcut =>
      simp only [Option.some.injEq, Prod.mk.injEq] at h
      obtain ⟨-, rfl⟩ := h
      have hlt := length_lt_of_cutLast? hcut
      generalize hbody : s.drop marker.length = body at hlt ⊢
      have hle : body.length ≤ s.length := by simp [← hbody]
      have hsplit : (body.takeWhile (· ≠ '\n')).length + (body.dropWhile (· ≠ '\n')).length
          = body.length := by
        rw [← List.length_append, List.takeWhile_append_dropWhile]
      rw [List.length_append]
      omega
    · simp at h
  · simp at h

/-- The names that `marker` marks in a text, read from the left. -/
def markedNames (marker s : List Char) : List (List Char) :=
  match _h : markedName? marker s with
  | some (name, rest) => name :: markedNames marker rest
  | none =>
    match s with
    | [] => []
    | _ :: rest => markedNames marker rest
termination_by s.length
decreasing_by
  · exact length_lt_of_markedName? _h
  · simp

/-- What opens the declaration of an entry. -/
def entryMarker : List Char := "#toc-chapter,".toList

/-- What opens the afterword. -/
def afterwordMarker : List Char := "#atogaki,".toList

/-- The name that stands for an empty line. -/
def phantomName : List Char := "phantom".toList

/-- The entries of a list of names, numbered from `n` on, and the next number. -/
def numberEntries : List (List Char) → Nat → List TocEntry × Nat
  | [], n => ([], n)
  | name :: names, n =>
    if name = phantomName then
      let (entries, next) := numberEntries names n
      ({ number := none, title := "" } :: entries, next)
    else
      let (entries, next) := numberEntries names (n + 1)
      ({ number := some n, title := String.ofList name } :: entries, next)

/-- The entries that a text declares.  The afterword, if there is one, is last. -/
def scanEntries (s : List Char) : List TocEntry :=
  let (entries, next) := numberEntries (markedNames entryMarker s) 1
  match (markedNames afterwordMarker s).head? with
  | some name =>
    entries ++ [{ number := some next, title := String.ofList name, afterword := true }]
  | none => entries

/-! ### The page with placeholders -/

/-- What stands for a number that is not known yet. -/
def placeholder : List Char := "REPLACE_ME".toList

/-- The link of an entry: `page` is the number of the page, or a placeholder. -/
def entryLink (page : String) (number : Nat) (title : String) : String :=
  "<a href=\"p-" ++ page ++ ".xhtml#" ++ anchor number ++ "\" class=\"" ++ anchor number ++ "\">"
    ++ title ++ "</a>"

/-- The markup of an entry. -/
def TocEntry.render (page : String) (entry : TocEntry) : String :=
  match entry.number, entry.afterword with
  | none, _ => blankParagraph
  | some number, false => "<p>" ++ entryLink page number entry.title ++ "</p>\n"
  | some number, true =>
    blankParagraph ++ "<div class=\"h-indent-1em\">\n"
      ++ "<p>　" ++ entryLink page number entry.title ++ "</p>\n"
      ++ "</div>\n"

/-- A table of contents whose page numbers are open. -/
structure Skeleton where
  /-- The entries. -/
  entries : List TocEntry
  /-- The markup of the page. -/
  markup : String
  deriving DecidableEq, Repr, Inhabited

/-- The number of placeholders on the page. -/
def Skeleton.placeholderCount (s : Skeleton) : Nat := Text.countOf placeholder s.markup.toList

/-- The table of contents that a text declares. -/
def buildSkeleton (plan : BookPlan) (s : List Char) : Skeleton :=
  let entries := scanEntries s
  { entries
    markup := tocPage plan
      (String.join (entries.map (TocEntry.render (String.ofList placeholder)))) }

/-- What is reported of a skeleton. -/
def Skeleton.records (s : Skeleton) : List Log.Record :=
  [⟨.debug, .contents, s!"TOC skeleton has {s.entries.length} entries, {s.placeholderCount} links"⟩]

/-! ### Page numbers -/

/-- The numbers of the linked pages among the actions, the next body page being
number `n`. -/
def linkTargetsFrom : Nat → List Action → List Nat
  | _, [] => []
  | n, a :: as =>
    if a.kind.isNumbered then
      if a.kind.isLinked then n :: linkTargetsFrom (n + 1) as else linkTargetsFrom (n + 1) as
    else linkTargetsFrom n as

/-- The numbers of the pages that a table of contents links to, in the order of the
actions. -/
def linkTargets (actions : List Action) : List Nat := linkTargetsFrom 1 actions

/-- A table of contents and the pages do not fit together. -/
structure TocMismatch where
  /-- The number of links. -/
  placeholders : Nat
  /-- The number of pages that could be linked to. -/
  targets : Nat
  deriving DecidableEq, Repr

/-- What is said of a mismatch. -/
def TocMismatch.message (fault : TocMismatch) : String :=
  s!"TOC has {fault.placeholders} linked entries but the text has {fault.targets} TOC-linked units"

/-- The placeholders filled from the left, each with the next number. -/
def fillPlaceholders (markup : List Char) (targets : List Nat) : List Char :=
  targets.foldl
    (fun s target => Text.replaceFirst placeholder (Text.paddedDigits 3 target) s) markup

/-- The page with the numbers of the pages in place. -/
def Skeleton.resolve (s : Skeleton) (actions : List Action) : Except TocMismatch String :=
  let targets := linkTargets actions
  if s.placeholderCount = targets.length then
    .ok (String.ofList (fillPlaceholders s.markup.toList targets))
  else .error ⟨s.placeholderCount, targets.length⟩

end Kumihan.Book
