import Kumihan.Proofs.Contents.Linking
import Kumihan.Proofs.Lint.Findings

/-!
# What is found and what is made

A linter reads a manuscript as the compilation does, but by loops of its own: it goes on behind
a line that names no directive, it counts the entries with a link instead of the placeholders of
a page, and it looks for a table of contents among the directives instead of the actions.

## Main definitions

* `Finding.unknownDirective?`, `Finding.tocMismatch?`, `Finding.unclosedAt?` — what a finding
  says of the book.

## Main results

* `ofLines_readLines` — both readings of the lines.
* `asksForToc_composeDirectives` — both tests for a table of contents.
* `compileText_eq_unknownDirective_iff`, `compileText_eq_tocMismatch_iff` — when a manuscript
  does not compile.
* `checkMarkup_of_read` — what is found in a text all of whose lines can be read.
* `run_agrees_compileText` — **a run finds what keeps the manuscript from being compiled, and
  the text that is lost.**
-/

namespace Kumihan.Lint

open Book
open Files (Disk)
open Markup (Command Directive UnknownDirective normalize)

/-! ### What a finding says of the book -/

/-- The line that names no directive. -/
def Finding.unknownDirective? (f : Finding) : Option UnknownDirective :=
  match f.issue with
  | .unknownDirective name => some { name, line := f.line }
  | _ => none

/-- What is wrong with the table of contents. -/
def Finding.tocMismatch? (f : Finding) : Option TocMismatch :=
  match f.issue with
  | .tocMismatch fault => some fault
  | _ => none

/-- The line from which on text is not closed. -/
def Finding.unclosedAt? (f : Finding) : Option Int :=
  match f.issue with
  | .unclosedText => some f.line
  | _ => none

section

variable {f : Finding} (h : f.issue.concernsBook = false)

include h

theorem unknownDirective?_of_concernsBook : f.unknownDirective? = none := by
  obtain ⟨line, issue⟩ := f
  cases issue with
  | unknownDirective name => contradiction
  | _ => rfl

theorem tocMismatch?_of_concernsBook : f.tocMismatch? = none := by
  obtain ⟨line, issue⟩ := f
  cases issue with
  | tocMismatch fault => contradiction
  | _ => rfl

theorem unclosedAt?_of_concernsBook : f.unclosedAt? = none := by
  obtain ⟨line, issue⟩ := f
  cases issue with
  | unclosedText => contradiction
  | _ => rfl

end

/-! ### Lines -/

/-- **Both readings of lines.**  The one that stops has the first fault of the one that goes on,
and if there is none, the same directives. -/
theorem ofLines_readLines (ls : List (List Char)) (n : Int) :
    (Directive.ofLines ls n).2 = (readLines ls n).2.head?
      ∧ ((readLines ls n).2 = [] → (Directive.ofLines ls n).1 = (readLines ls n).1) := by
  induction ls generalizing n with
  | nil => exact ⟨rfl, fun _ => rfl⟩
  | cons l ls ih =>
    obtain ⟨hfault, hsame⟩ := ih (n + 1)
    rw [Directive.ofLines, readLines]
    cases Directive.ofLine l n with
    | error fault => exact ⟨rfl, fun h => absurd h (List.cons_ne_nil _ _)⟩
    | ok d => exact ⟨hfault, fun h => congrArg (d :: ·) (hsame h)⟩

/-! ### Tables of contents -/

@[simp] theorem asksForToc_append (as bs : List Action) :
    asksForToc (as ++ bs) = (asksForToc as || asksForToc bs) := List.any_append

/-- What a directive makes where it stands is a table of contents if it asks for one. -/
theorem asksForToc_marks (d : Directive) : asksForToc (marks d) = decide (d.command = .toc) := by
  unfold marks
  cases d.command with
  | glyph => simp [asksForToc]
  | _ => rfl

/-- The page that a boundary makes holds text, and a table of contents does not. -/
theorem asksForToc_page? (s : Segment) (latest : Option String) (content : String) :
    asksForToc (s.page? latest content).toList = false := by
  cases hpage : s.page? latest content with
  | none => rfl
  | some a =>
    have hkind : a.kind ≠ .toc := by
      intro htoc
      have htext := (Segment.holdsText_content_of_page? hpage).1
      rw [htoc] at htext
      contradiction
    simpa [asksForToc] using hkind

/-- **Both tests for a table of contents.** -/
theorem asksForToc_composeDirectives (ds : List Directive) :
    asksForToc (composeDirectives ds).actions = ds.any (·.command = .toc) := by
  rw [show (composeDirectives ds).actions = (Manuscript.ofDirectives ds).actions from
    actions_feedAll ds]
  induction ds using List.reverseRecOn with
  | nil => rfl
  | append_singleton ds d ih =>
    have hpage : asksForToc (if d.command.isBoundary then
        ((Manuscript.ofDirectives ds).nextPage? d).toList else []) = false := by
      split
      · exact asksForToc_page? ..
      · rfl
    rw [Manuscript.ofDirectives_concat, Manuscript.actions, Manuscript.sheets_add, List.map_append,
      ← Manuscript.actions, Manuscript.map_action_gain, asksForToc_append, asksForToc_append, ih,
      hpage, asksForToc_marks, List.any_append]
    simp

/-- Both counts of the entries with a link. -/
theorem length_filter_number (entries : List TocEntry) :
    (entries.filter (·.number.isSome)).length = (linkedAnchors entries).length := by
  rw [linkedAnchors, List.length_filterMap_eq_countP, List.countP_eq_length_filter]

/-- What is wrong with the table of contents of a text that is read as these directives. -/
def tocFault? (s : List Char) (ds : List Directive) : Option TocMismatch :=
  let links := (linkedAnchors (scanEntries s)).length
  let targets := (linkTargets (composeDirectives ds).actions).length
  if ds.any (·.command = .toc) = true ∧ links ≠ targets then some ⟨links, targets⟩ else none

/-! ### When a manuscript does not compile -/

section

variable {plan : BookPlan} {raw : String}

/-- **A manuscript does not compile for a line** that is the first one to name no directive. -/
theorem compileText_eq_unknownDirective_iff {fault : UnknownDirective} :
    compileText plan raw = .error (.unknownDirective fault)
      ↔ (Directive.ofText (normalize raw.toList)).2 = some fault := by
  unfold compileText compose
  cases hread : Directive.ofText (normalize raw.toList) with
  | mk ds fault' =>
    cases fault' with
    | some fault' => simp [hread]
    | none =>
      simp only [hread, reduceCtorEq, iff_false]
      split
      · split <;> simp
      · simp

/-- **What a manuscript is compiled to** if all lines of it can be read: the fault of its table of
contents, or a book that leaves what the composition leaves. -/
theorem compileText_of_read (hplan : PlanAvoids placeholder plan)
    (hraw : ¬ placeholder <:+: raw.toList) {ds : List Directive}
    (hread : Directive.ofText (normalize raw.toList) = (ds, none)) :
    match tocFault? (normalize raw.toList) ds with
    | some fault => compileText plan raw = .error (.tocMismatch fault)
    | none => ∃ book, compileText plan raw = .ok book
      ∧ book.leftover = (composeDirectives ds).leftover := by
  rw [compileText_of_lexed hplan (titles_avoid hraw) hread]
  have hentries : (buildSkeleton plan (normalize raw.toList)).entries
      = scanEntries (normalize raw.toList) := rfl
  -- the linter asks for the counts to differ, the compilation for them to be equal
  simp only [asksForToc_composeDirectives, hentries, tocFault?]
  cases ds.any (·.command = .toc) with
  | false => exact ⟨_, rfl, rfl⟩
  | true =>
    simp only [if_true, true_and]
    by_cases hlength : (linkedAnchors (scanEntries (normalize raw.toList))).length
        = (linkTargets (composeDirectives ds).actions).length
    · rw [if_neg (not_not_intro hlength), if_pos hlength]
      exact ⟨_, rfl, rfl⟩
    · rw [if_pos hlength, if_neg hlength]

end

/-! ### What a linter finds -/

theorem checkToc_eq (s : List Char) (ds : List Directive) :
    checkToc s ds (composeDirectives ds)
      = (tocFault? s ds).toList.map fun fault => ⟨0, .tocMismatch fault⟩ := by
  simp only [checkToc, tocFault?, length_filter_number, Bool.and_eq_true, bne_iff_ne]
  split <;> rfl

section

variable {disk : Disk} {dir : Option String} {s : List Char} {ds : List Directive}
  {faults : List UnknownDirective} (hread : readLines (Text.lines s) 1 = (ds, faults))

include hread

/-- **What a linter finds that concerns the book**: the lines that name no directive, and if there
are none, the text that is not closed and what is wrong with the table of contents. -/
theorem filterMap_checkMarkup {α : Type} {g : Finding → Option α}
    (hg : ∀ f, f.issue.concernsBook = false → g f = none) :
    (checkMarkup disk dir s).filterMap g
      = faults.filterMap (fun fault => g ⟨fault.line, .unknownDirective fault.name⟩)
        ++ if faults = [] then
            (if (composeDirectives ds).leftover = "" then []
              else (g ⟨(composeDirectives ds).leftoverLine, .unclosedText⟩).toList)
            ++ (tocFault? s ds).toList.filterMap fun fault => g ⟨0, .tocMismatch fault⟩
          else [] := by
  have hpictures : (ds.flatMap (checkPictures disk dir)).filterMap g = [] :=
    filterMap_eq_nil_of_concernsBook hg fun f hf =>
      have ⟨_, _, hf⟩ := List.mem_flatMap.mp hf
      concernsBook_of_mem_checkPictures hf
  have hchapters : (checkChapters s (composeDirectives ds)).filterMap g = [] :=
    filterMap_eq_nil_of_concernsBook hg fun f hf => concernsBook_of_mem_checkChapters hf
  have hleftover : (checkLeftover (composeDirectives ds)).filterMap g
      = if (composeDirectives ds).leftover = "" then []
        else (g ⟨(composeDirectives ds).leftoverLine, .unclosedText⟩).toList := by
    simp only [checkLeftover, String.isEmpty_iff]
    split <;> rfl
  simp only [checkMarkup, hread, List.filterMap_append, List.filterMap_map, hpictures,
    List.append_nil, List.isEmpty_iff]
  congr 1
  split
  · rw [checkStructure, List.filterMap_append, List.filterMap_append, hleftover, hchapters,
      List.append_nil, checkToc_eq, List.filterMap_map]
    rfl
  · rfl

/-- **A linter finds every line that names no directive.** -/
theorem unknownDirectives_checkMarkup :
    (checkMarkup disk dir s).filterMap Finding.unknownDirective? = faults := by
  rw [filterMap_checkMarkup hread fun _ => unknownDirective?_of_concernsBook]
  simp [Finding.unknownDirective?]

/-- **A linter finds what is wrong with the table of contents** if all lines can be read. -/
theorem tocMismatches_checkMarkup :
    (checkMarkup disk dir s).filterMap Finding.tocMismatch?
      = if faults = [] then (tocFault? s ds).toList else [] := by
  have hfaults : faults.filterMap
      (fun fault => Finding.tocMismatch? ⟨fault.line, .unknownDirective fault.name⟩) = [] :=
    List.filterMap_eq_nil_iff.mpr fun _ _ => rfl
  rw [filterMap_checkMarkup hread fun _ => tocMismatch?_of_concernsBook, hfaults]
  simp [Finding.tocMismatch?]

/-- **A linter finds the text that is not closed** if all lines can be read. -/
theorem unclosed_checkMarkup :
    (checkMarkup disk dir s).filterMap Finding.unclosedAt?
      = if faults = [] then
          if (composeDirectives ds).leftover = "" then [] else [(composeDirectives ds).leftoverLine]
        else [] := by
  have hfaults : faults.filterMap
      (fun fault => Finding.unclosedAt? ⟨fault.line, .unknownDirective fault.name⟩) = [] :=
    List.filterMap_eq_nil_iff.mpr fun _ _ => rfl
  have htoc : (tocFault? s ds).toList.filterMap
      (fun fault => Finding.unclosedAt? ⟨0, .tocMismatch fault⟩) = [] :=
    List.filterMap_eq_nil_iff.mpr fun _ _ => rfl
  rw [filterMap_checkMarkup hread fun _ => unclosedAt?_of_concernsBook, hfaults, htoc]
  simp [Finding.unclosedAt?]

end

/-- **What a linter finds in a text all of whose lines can be read**: pictures, and what the
composition of the directives tells. -/
theorem checkMarkup_of_read {disk : Disk} {dir : Option String} {s : List Char}
    {ds : List Directive} (hread : Directive.ofText s = (ds, none)) :
    checkMarkup disk dir s = ds.flatMap (checkPictures disk dir) ++ checkStructure s ds := by
  have hlines : readLines (Text.lines s) 1 = (ds, []) := by
    obtain ⟨hfault, hsame⟩ := ofLines_readLines (Text.lines s) 1
    rw [← Directive.ofText, hread] at hfault hsame
    have hnone := List.head?_eq_none_iff.mp hfault.symm
    exact Prod.ext (hsame hnone).symm hnone
  rw [checkMarkup, hlines]
  rfl

/-! ### Agreement -/

theorem filterMap_found {α : Type} {g : Finding → Option α}
    (hg : ∀ f, f.issue.concernsBook = false → g f = none) (s : List Char) (fs : List Finding) :
    (textFindings s ++ fs).filterMap g = fs.filterMap g := by
  rw [List.filterMap_append,
    filterMap_eq_nil_of_concernsBook hg fun _ => concernsBook_of_mem_textFindings, List.nil_append]

/-- **What a linter finds is what becomes of the manuscript.**  A run that removes nothing finds
a line that names no directive exactly if the manuscript does not compile for it, the first one
being the line that stops the compilation; it finds a fault of the table of contents exactly if
the manuscript does not compile for that fault; if it finds neither, the manuscript compiles; and
then it finds text that is not closed exactly if the book leaves some, at the line where the
composition has it begin. -/
theorem run_agrees_compileText {l : Linter} {disk : Disk} {plan : BookPlan} {raw : String}
    (hfix : l.fix = false) (hread : disk.read l.path = .ok (Text.encode raw.toList))
    (hplan : PlanAvoids placeholder plan) (hraw : ¬ placeholder <:+: raw.toList) (r : Report) :
    ∃ run found, l.run disk r = .ok run ∧ run.report.findings = r.findings ++ found
      ∧ (∀ fault, compileText plan raw = .error (.unknownDirective fault)
          ↔ (found.filterMap Finding.unknownDirective?).head? = some fault)
      ∧ (∀ fault, compileText plan raw = .error (.tocMismatch fault)
          ↔ fault ∈ found.filterMap Finding.tocMismatch?)
      ∧ (found.filterMap Finding.unknownDirective? = [] →
          found.filterMap Finding.tocMismatch? = [] → ∃ book, compileText plan raw = .ok book)
      ∧ ∀ book, compileText plan raw = .ok book →
          ∃ c, compose (normalize raw.toList) = .ok c ∧ book.leftover = c.leftover
            ∧ found.filterMap Finding.unclosedAt?
              = if book.leftover = "" then [] else [c.leftoverLine] := by
  obtain ⟨run, hrun, -, hfindings⟩ := run_eq_ok hfix hread r
  obtain ⟨⟨ds, faults⟩, hlines⟩ :
    ∃ read, readLines (Text.lines (normalize raw.toList)) 1 = read := ⟨_, rfl⟩
  obtain ⟨hfault, hsame⟩ := ofLines_readLines (Text.lines (normalize raw.toList)) 1
  rw [hlines] at hfault hsame
  refine ⟨run, _, hrun, hfindings, ?_⟩
  rw [filterMap_found fun _ => unknownDirective?_of_concernsBook,
    filterMap_found fun _ => tocMismatch?_of_concernsBook,
    filterMap_found fun _ => unclosedAt?_of_concernsBook, unknownDirectives_checkMarkup hlines,
    tocMismatches_checkMarkup hlines, unclosed_checkMarkup hlines]
  refine ⟨fun fault => ?_, ?_⟩
  · rw [compileText_eq_unknownDirective_iff]
    exact hfault ▸ Iff.rfl
  cases faults with
  | cons fault faults =>
    -- the compilation stops at the first of the lines that name no directive
    have hcompile : compileText plan raw = .error (.unknownDirective fault) :=
      compileText_eq_unknownDirective_iff.mpr hfault
    simp [hcompile]
  | nil =>
    have hread' : Directive.ofText (normalize raw.toList) = (ds, none) :=
      Prod.ext (hsame rfl) hfault
    have hcompose : compose (normalize raw.toList) = .ok (composeDirectives ds) := by
      rw [compose, hread']
    have hcompile := compileText_of_read hplan hraw hread'
    cases htoc : tocFault? (normalize raw.toList) ds with
    | some fault =>
      rw [htoc] at hcompile
      simp [hcompile, @eq_comm _ fault]
    | none =>
      rw [htoc] at hcompile
      obtain ⟨book, hbook, hleftover⟩ := hcompile
      simp [hbook, hcompose, hleftover]

/-- A chapter that is listed and not closed. -/
def openChapter : List Char := unlines ["#toc#", "#toc-chapter,A#", "#chapter,A#", "x"]

theorem readsAs_openChapter : ReadsAs openChapter
    [{ command := .toc, line := 1 },
     { command := .tocChapter, argument := "A", line := 2 },
     { command := .chapter, argument := "A", line := 3 },
     { command := .text, argument := "x", line := 4 }] := by
  unfold openChapter
  repeat rw [unlines_cons]
  rw [unlines_nil]
  constructor <;> decide +kernel

theorem scanEntries_openChapter :
    scanEntries openChapter = [{ number := some 1, title := "A" }] := by
  unfold openChapter
  repeat rw [unlines_cons]
  rw [unlines_nil, scanEntries_eq_lines]
  decide +kernel

/-- A disk with one file. -/
def diskWith (bs : Text.Bytes) : Disk :=
  { tree := ⟨[(["raw.txt"], .file (.bytes bs))]⟩, workingDir := "/", bundledDir := "/" }

theorem read_diskWith (bs : Text.Bytes) : (diskWith bs).read "raw.txt" = .ok bs := by
  have hnames : Disk.names "raw.txt" = ["raw.txt"] := by decide +kernel
  have hhome : (diskWith bs).home = [] := by
    show (Disk.names "/").filter (· ≠ "") = []
    decide +kernel
  have hnul : "raw.txt".toList.elem '\x00' = false := by decide +kernel
  have habsolute : Files.Path.isAbsolute "raw.txt" = false := by decide +kernel
  have hlocate : (diskWith bs).locate "raw.txt" = .ok ["raw.txt"] := by
    rw [Disk.locate, hnames, hhome, habsolute, if_neg (by decide), if_neg (by decide +kernel)]
    rfl
  have hfind : (diskWith bs).find "raw.txt" = .ok ["raw.txt"] := by
    rw [Disk.find, hnul, hlocate]
    rfl
  rw [Disk.read, hfind]
  rfl

theorem run_openChapter :
    ∃ run, Linter.run { path := "raw.txt" } (diskWith (Text.encode openChapter)) {} = .ok run
      ∧ compileText slimPlan (String.ofList openChapter) = .error (.tocMismatch ⟨1, 0⟩)
      ∧ ⟨1, 0⟩ ∈ run.report.findings.filterMap Finding.tocMismatch? := by
  have hread := readsAs_openChapter
  have hfile : (diskWith (Text.encode openChapter)).read "raw.txt"
      = .ok (Text.encode (String.ofList openChapter).toList) := by
    rw [String.toList_ofList]
    exact read_diskWith _
  have hcompile : compileText slimPlan (String.ofList openChapter)
      = .error (.tocMismatch ⟨1, 0⟩) := by
    have hfault := compileText_of_read planAvoids_slimPlan hread.avoids
      (hread.normalize_eq ▸ hread.read)
    rw [hread.normalize_eq, tocFault?, scanEntries_openChapter] at hfault
    exact hfault
  obtain ⟨run, found, hrun, hfindings, -, htoc, -, -⟩ :=
    run_agrees_compileText (l := { path := "raw.txt" }) rfl hfile planAvoids_slimPlan
      hread.avoids {}
  obtain rfl : run.report.findings = found := hfindings.trans (List.nil_append _)
  exact ⟨run, hrun, hcompile, (htoc _).mp hcompile⟩

end Kumihan.Lint
