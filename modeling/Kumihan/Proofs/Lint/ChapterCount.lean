import Kumihan.Proofs.Compositor.Continuing
import Kumihan.Proofs.Lint.LineNumbers

/-!
# Chapters that are listed and chapters that there are

A linter compares the chapters that are listed with the titles that the compositor records, and
calls these chapters.  A bibliography records a title as well, if it has one and no chapter is open
where it stands.  So the number that is compared and printed is that of the chapters only if no
bibliography does.

## Main definitions

* `recordsItself`, `ownTitles` — the bibliographies that record a title of their own.
* `listedChapters`, `countWarning` — the chapters that are listed, and the warning that there are
  more or fewer of them.

## Main results

* `length_titles` — **the recorded titles are those of the chapters and of these bibliographies.**
* `run_countWarning` — **what a run says of the number of chapters.**
* `exists_chapters_miscounted` — two texts of which this is wrong.
-/

namespace Kumihan.Book

open Markup (Directive)

/-! ### Titles that are recorded -/

/-- A bibliography behind some directives records its own title: it has one, and the boundary
before it is no chapter. -/
def recordsItself (earlier : List Directive) (d : Directive) : Bool :=
  d.command = .bibliography && d.argument ≠ ""
    && !(latestBoundary? earlier).any (·.command = .chapter)

/-- The number of bibliographies that record their own titles, behind some directives. -/
def ownTitles (earlier : List Directive) : List Directive → Nat
  | [] => 0
  | d :: ds => (if recordsItself earlier d then 1 else 0) + ownTitles (earlier ++ [d]) ds

theorem ownTitles_concat (earlier ds : List Directive) (d : Directive) :
    ownTitles earlier (ds ++ [d])
      = ownTitles earlier ds + if recordsItself (earlier ++ ds) d then 1 else 0 := by
  induction ds generalizing earlier with
  | nil => simp [ownTitles]
  | cons e ds ih =>
    rw [List.cons_append, ownTitles, ih, ownTitles, List.append_assoc, List.singleton_append]
    omega

/-- The last stretch is opened by a chapter exactly if the last boundary is one. -/
theorem chapterTitle?_isSome (ds : List Directive) :
    (Manuscript.ofDirectives ds).rest.chapterTitle?.isSome
      = (latestBoundary? ds).any (·.command = .chapter) := by
  rw [Stretch.chapterTitle?, Stretch.argumentOf?, rest_opener_ofDirectives]
  cases latestBoundary? ds with
  | none => rfl
  | some o => by_cases ho : o.command = .chapter <;> simp [ho]

/-- **One directive** records the title of a chapter or its own, or none. -/
theorem length_records (ds : List Directive) (d : Directive) :
    ({ (Manuscript.ofDirectives ds).rest with closer := d } : Segment).records.length
      = (if d.command = .chapter then 1 else 0) + if recordsItself ds d then 1 else 0 := by
  unfold Segment.records recordsItself
  rw [← chapterTitle?_isSome]
  cases d.command with
  | chapter => rfl
  | bibliography =>
    by_cases hargument : d.argument = ""
    · simp [hargument]
    · cases (Manuscript.ofDirectives ds).rest.chapterTitle? <;> simp [hargument]
  | _ => rfl

/-- **The titles that are recorded** are those of the chapters and those of the bibliographies that
record their own. -/
theorem length_titles (ds : List Directive) :
    (composeDirectives ds).titles.length
      = ds.countP (·.command = .chapter) + ownTitles [] ds := by
  rw [(actions_eq_manuscript ds).2]
  -- what stands before a directive decides what it records, so the induction is from the end
  induction ds using List.reverseRecOn with
  | nil => rfl
  | append_singleton ds d ih =>
    rw [Manuscript.ofDirectives_concat, Manuscript.titles_add, List.length_append, ih,
      length_records, ownTitles_concat, List.countP_append, List.countP_singleton,
      List.nil_append]
    simp only [decide_eq_true_eq]
    omega

end Kumihan.Book

namespace Kumihan.Lint

open Book (ReadsAs composeDirectives length_titles ownTitles scanEntries scanEntries_eq_lines
  unlines unlines_cons unlines_nil)
open Files (Disk)
open Markup (Directive normalize)

/-! ### The warning -/

/-- The two numbers that a finding tells of chapters. -/
def Finding.chapterCount? (f : Finding) : Option (Nat × Nat) :=
  match f.issue with
  | .chapterCount listed chapters => some (listed, chapters)
  | _ => none

/-- The number of chapters that are listed: the entries with a number, but for the afterword. -/
def listedChapters (s : List Char) : Nat :=
  ((scanEntries s).filter fun e => e.number.isSome && !e.afterword).length

/-- The warning that there are not as many chapters as are listed, if anything is. -/
def countWarning (s : List Char) (chapters : Nat) : List (Nat × Nat) :=
  if scanEntries s ≠ [] ∧ listedChapters s ≠ chapters then [(listedChapters s, chapters)] else []

/-- Two numbers of chapters are warned of alike only if nothing is listed. -/
theorem countWarning_eq_iff {s : List Char} {m n : Nat} :
    countWarning s m = countWarning s n ↔ scanEntries s = [] ∨ m = n := by
  unfold countWarning
  by_cases hs : scanEntries s = []
  · simp [hs]
  · simp only [ne_eq, hs, not_false_eq_true, true_and, false_or]
    grind

theorem checkChapters_eq (s : List Char) (c : Book.Composition) :
    checkChapters s c
      = (countWarning s c.titles.length).map fun p => ⟨0, .chapterCount p.1 p.2⟩ := by
  by_cases h : scanEntries s ≠ [] ∧ listedChapters s ≠ c.titles.length
  · have hboth : (!(scanEntries s).isEmpty && listedChapters s != c.titles.length) = true := by
      simpa using h
    rw [countWarning, if_pos h]
    exact if_pos hboth
  · have hboth : ¬ (!(scanEntries s).isEmpty && listedChapters s != c.titles.length) = true := by
      simpa using h
    rw [countWarning, if_neg h]
    exact if_neg hboth

section

variable {disk : Disk} {dir : Option String} {s : List Char} {ds : List Directive}

/-- **A linter warns of the number of titles** that are recorded. -/
theorem chapterCounts_checkMarkup (hread : Directive.ofText s = (ds, none)) :
    (checkMarkup disk dir s).filterMap Finding.chapterCount?
      = countWarning s (composeDirectives ds).titles.length := by
  have hpictures : (ds.flatMap (checkPictures disk dir)).filterMap Finding.chapterCount? = [] := by
    refine List.filterMap_eq_nil_iff.mpr fun f hf => ?_
    obtain ⟨d, -, hf⟩ := List.mem_flatMap.mp hf
    obtain ⟨-, file, -, ⟨fault, -, hissue⟩ | ⟨place, hissue⟩⟩ := exists_of_mem_checkPictures hf
    all_goals rw [Finding.chapterCount?, hissue]
  have hleftover :
      (checkLeftover (composeDirectives ds)).filterMap Finding.chapterCount? = [] := by
    refine List.filterMap_eq_nil_iff.mpr fun f hf => ?_
    rw [(eq_of_mem_checkLeftover hf).2]
    rfl
  have htoc : (checkToc s ds (composeDirectives ds)).filterMap Finding.chapterCount? = [] := by
    refine List.filterMap_eq_nil_iff.mpr fun f hf => ?_
    obtain ⟨fault, rfl⟩ := exists_of_mem_checkToc hf
    rfl
  have hchapters : (checkChapters s (composeDirectives ds)).filterMap Finding.chapterCount?
      = countWarning s (composeDirectives ds).titles.length := by
    rw [checkChapters_eq, List.filterMap_map]
    exact List.filterMap_some
  rw [checkMarkup_of_read hread]
  simp [checkStructure, hpictures, hleftover, htoc, hchapters]

end

/-! ### Runs -/

section

variable {l : Linter} {disk : Disk} {bs : Text.Bytes} {s : List Char} {ds : List Directive}

/-- The first look is about characters and counts no chapters. -/
theorem chapterCounts_textFindings : (l.textFindings s).filterMap Finding.chapterCount? = [] := by
  refine List.filterMap_eq_nil_iff.mpr fun f hf => ?_
  have hcharacters := concernsCharacters_of_mem_textFindings hf
  rw [Finding.chapterCount?]
  cases hissue : f.issue with
  | chapterCount _ _ =>
    rw [hissue] at hcharacters
    contradiction
  | _ => rfl

/-- **A run warns of the number of titles** that are recorded. -/
theorem exists_run_countWarning (hread : disk.read l.path = .ok bs)
    (hdecode : Text.decode bs = .ok s)
    (hlines : Directive.ofText (normalize (l.left s)) = (ds, none)) (r : Report) :
    ∃ run found, l.run disk r = .ok run ∧ run.report.findings = r.findings ++ found
      ∧ found.filterMap Finding.chapterCount?
        = countWarning (normalize (l.left s)) (composeDirectives ds).titles.length := by
  obtain ⟨run, hrun, -, hfindings⟩ := exists_run hread hdecode r
  refine ⟨run, _, hrun, hfindings, ?_⟩
  rw [List.filterMap_append, chapterCounts_textFindings, chapterCounts_checkMarkup hlines,
    List.nil_append]

/-- **What a run says of the number of chapters**, if all lines of the text that it leaves are
directives.  If anything is listed, it compares the chapters that are listed with the chapters that
there are and the bibliographies that record their own titles, warns if the two numbers differ, and
tells them.  This is the warning for the chapters alone exactly if nothing is listed or no
bibliography records its own title. -/
theorem run_countWarning (hread : disk.read l.path = .ok bs) (hdecode : Text.decode bs = .ok s)
    (hlines : Directive.ofText (normalize (l.left s)) = (ds, none)) (r : Report) :
    ∃ run found, l.run disk r = .ok run ∧ run.report.findings = r.findings ++ found
      ∧ found.filterMap Finding.chapterCount?
        = countWarning (normalize (l.left s)) (ds.countP (·.command = .chapter) + ownTitles [] ds)
      ∧ (found.filterMap Finding.chapterCount?
          = countWarning (normalize (l.left s)) (ds.countP (·.command = .chapter))
        ↔ scanEntries (normalize (l.left s)) = [] ∨ ownTitles [] ds = 0) := by
  obtain ⟨run, found, hrun, hfindings, hcount⟩ := exists_run_countWarning hread hdecode hlines r
  rw [length_titles] at hcount
  refine ⟨run, found, hrun, hfindings, hcount, ?_⟩
  rw [hcount, countWarning_eq_iff, Nat.add_eq_left]

end

/-! ### Three manuscripts -/

/-- A text that is read as the directives and in which one chapter, `A`, is listed. -/
structure ListsOne (s : List Char) (ds : List Directive) : Prop extends ReadsAs s ds where
  entries : scanEntries s = [{ number := some 1, title := "A" }]

/-- A bibliography under an open chapter, and a chapter that is not listed. -/
def listedOnce : List Char :=
  unlines ["#toc-chapter,A#", "#chapter,A#", "#bibliography,B#", "#chapter,C#", "#img,a.png#"]

/-- The directives of the text. -/
def listedOnceDirectives : List Directive :=
  [{ command := .tocChapter, argument := "A", line := 1 },
   { command := .chapter, argument := "A", line := 2 },
   { command := .bibliography, argument := "B", line := 3 },
   { command := .chapter, argument := "C", line := 4 },
   { command := .image, argument := "a.png", line := 5 }]

theorem listsOne_listedOnce : ListsOne listedOnce listedOnceDirectives := by
  unfold listedOnce
  repeat rw [unlines_cons]
  rw [unlines_nil]
  refine ⟨⟨?_, ?_, ?_⟩, scanEntries_eq_lines _ ▸ ?_⟩ <;> decide +kernel

theorem run_listedOnce :
    ∃ run, Linter.run { path := "raw.txt" } (diskWith (Text.encode listedOnce)) {} = .ok run
      ∧ listedOnceDirectives.countP (·.command = .chapter) = 2
      ∧ run.report.findings.filterMap Finding.chapterCount? = [(1, 2)] := by
  have hlists := listsOne_listedOnce
  have hleft : normalize (Linter.left { path := "raw.txt" } listedOnce) = listedOnce :=
    hlists.normalize_self
  obtain ⟨run, found, hrun, hfindings, hcount, -⟩ :=
    run_countWarning (l := { path := "raw.txt" }) (read_diskWith _) (Text.decode_encode listedOnce)
      (by rw [hleft]; exact hlists.read) {}
  obtain rfl : run.report.findings = found := hfindings.trans (List.nil_append _)
  rw [hleft, countWarning, listedChapters, hlists.entries] at hcount
  exact ⟨run, hrun, by decide, hcount⟩

/-- What a run says of a text that lists one chapter. -/
theorem ListsOne.exists_run {s : List Char} {ds : List Directive} (h : ListsOne s ds) :
    ∃ run, Linter.run { path := "raw.txt" } (diskWith (Text.encode s)) {} = .ok run
      ∧ Directive.ofText (normalize s) = (ds, none) ∧ listedChapters (normalize s) = 1
      ∧ run.report.findings.filterMap Finding.chapterCount?
        = countWarning s (composeDirectives ds).titles.length := by
  have hleft : normalize (Linter.left { path := "raw.txt" } s) = s := h.normalize_self
  obtain ⟨run, found, hrun, hfindings, hcount⟩ :=
    exists_run_countWarning (l := { path := "raw.txt" }) (read_diskWith _) (Text.decode_encode s)
      (by rw [hleft]; exact h.read) {}
  obtain rfl : run.report.findings = found := hfindings.trans (List.nil_append _)
  rw [hleft] at hcount
  rw [h.normalize_self, listedChapters, h.entries]
  exact ⟨run, hrun, h.read, rfl, hcount⟩

/-- A bibliography that no chapter stands before, and a chapter that is listed. -/
def bibliographyFirst : List Char :=
  unlines ["#toc-chapter,A#", "#bibliography,B#", "#chapter,A#", "#img,a.png#"]

/-- The directives of the text. -/
def bibliographyFirstDirectives : List Directive :=
  [{ command := .tocChapter, argument := "A", line := 1 },
   { command := .bibliography, argument := "B", line := 2 },
   { command := .chapter, argument := "A", line := 3 },
   { command := .image, argument := "a.png", line := 4 }]

theorem listsOne_bibliographyFirst : ListsOne bibliographyFirst bibliographyFirstDirectives := by
  unfold bibliographyFirst
  repeat rw [unlines_cons]
  rw [unlines_nil]
  refine ⟨⟨?_, ?_, ?_⟩, scanEntries_eq_lines _ ▸ ?_⟩ <;> decide +kernel

/-- A chapter that is listed, and a bibliography instead of it. -/
def bibliographyOnly : List Char := unlines ["#toc-chapter,A#", "#bibliography,A#"]

/-- The directives of the text. -/
def bibliographyOnlyDirectives : List Directive :=
  [{ command := .tocChapter, argument := "A", line := 1 },
   { command := .bibliography, argument := "A", line := 2 }]

theorem listsOne_bibliographyOnly : ListsOne bibliographyOnly bibliographyOnlyDirectives := by
  unfold bibliographyOnly
  repeat rw [unlines_cons]
  rw [unlines_nil]
  refine ⟨⟨?_, ?_, ?_⟩, scanEntries_eq_lines _ ▸ ?_⟩ <;> decide +kernel

/-- **Chapters are miscounted.**  One chapter is listed and there is one, and a run warns that there
are two; one chapter is listed and there is none, and a run does not warn. -/
theorem exists_chapters_miscounted :
    (∃ run, Linter.run { path := "raw.txt" } (diskWith (Text.encode bibliographyFirst)) {} = .ok run
      ∧ Directive.ofText (normalize bibliographyFirst) = (bibliographyFirstDirectives, none)
      ∧ listedChapters (normalize bibliographyFirst) = 1
      ∧ bibliographyFirstDirectives.countP (·.command = .chapter) = 1
      ∧ run.report.findings.filterMap Finding.chapterCount? = [(1, 2)])
    ∧ ∃ run, Linter.run { path := "raw.txt" } (diskWith (Text.encode bibliographyOnly)) {} = .ok run
      ∧ Directive.ofText (normalize bibliographyOnly) = (bibliographyOnlyDirectives, none)
      ∧ listedChapters (normalize bibliographyOnly) = 1
      ∧ bibliographyOnlyDirectives.countP (·.command = .chapter) = 0
      ∧ run.report.findings.filterMap Finding.chapterCount? = [] := by
  constructor
  · obtain ⟨run, hrun, hlines, hlisted, hcount⟩ := listsOne_bibliographyFirst.exists_run
    rw [countWarning, listedChapters, listsOne_bibliographyFirst.entries] at hcount
    exact ⟨run, hrun, hlines, hlisted, by decide, hcount⟩
  · obtain ⟨run, hrun, hlines, hlisted, hcount⟩ := listsOne_bibliographyOnly.exists_run
    rw [countWarning, listedChapters, listsOne_bibliographyOnly.entries] at hcount
    exact ⟨run, hrun, hlines, hlisted, by decide, hcount⟩

end Kumihan.Lint
