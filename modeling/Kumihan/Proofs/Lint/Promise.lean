import Kumihan.Plan.Source
import Kumihan.Proofs.Compositor.Marks
import Kumihan.Proofs.Contents.Pairing
import Kumihan.Proofs.Failing
import Kumihan.Proofs.Lint.Agreement
import Kumihan.Proofs.Lint.Mending

/-!
# What a clean run promises

A run without errors has read the whole manuscript: the file is a text, each line of it is a
directive, and the table of contents has as many entries with a link as there are linked pages.
Two things keep such a manuscript from becoming a book.  The compilation counts the placeholders
of the page instead of the entries, and finds more of them where a title or a field of the plan
holds the text of one; and a page that can occur once may be asked for twice, which the run does
not look for.

## Main definitions

* `Finding.isError` — the finding is an error.

## Main results

* `checkText_false_eq` — the report of a first look that removes nothing.
* `exists_run_check` — what a run leaves that removes nothing.
* `exists_text_of_clean` — what the file holds if a run finds no error.
* `compileText_eq_ok_iff` — when a manuscript compiles whose entries fit its pages.
* `run_clean_iff` — **which of the manuscripts that pass become a book.**
-/

namespace Kumihan.Lint

open Book
open Files (Disk)
open Markup (Directive PunctuationRule UnknownDirective normalize punctuationRules)

/-! ### Errors in a report -/

/-- The finding is an error. -/
def Finding.isError (f : Finding) : Bool := f.issue.severity = .error

namespace Report

/-- Every error that is added is counted. -/
theorem errors_addAll (r : Report) (fs : List Finding) :
    (r.addAll fs).errors = r.errors + fs.countP Finding.isError :=
  tally_addAll r .error fs

/-- The report with another count of the blemishes that can be removed. -/
def withFixable (r : Report) (n : Nat) : Report := { r with fixable := n }

theorem addAll_withFixable (r : Report) (n : Nat) (fs : List Finding) :
    (r.withFixable n).addAll fs = (r.addAll fs).withFixable n := by
  induction fs generalizing r with
  | nil => rfl
  | cons f fs ih =>
    have hadd : (r.withFixable n).add f.line f.issue
        = (r.add f.line f.issue).withFixable n := by
      unfold add
      cases f.issue.severity <;> rfl
    rw [addAll, List.foldl_cons, hadd, ← addAll, ih]
    rfl

theorem addAll_append (r : Report) (fs gs : List Finding) :
    r.addAll (fs ++ gs) = (r.addAll fs).addAll gs := List.foldl_append

end Report

/-! ### The first look -/

theorem foldl_checkBlemish_eq (kinds : List Blemish) (r : Report) (s : List Char) :
    ∃ n, (kinds.foldl (fun (r, s) b => checkBlemish false b r s) (r, s)).1
      = (r.addAll (kinds.flatMap (removableFindings s))).withFixable n := by
  induction kinds generalizing r with
  | nil => exact ⟨r.fixable, rfl⟩
  | cons b kinds ih =>
    have hone : checkBlemish false b r s
        = ((r.addAll (removableFindings s b)).withFixable
            ((r.addAll (removableFindings s b)).fixable + (b.spots s).length), s) := rfl
    rw [List.foldl_cons]
    simp only [hone]
    obtain ⟨n, hrest⟩ := ih ((r.addAll (removableFindings s b)).withFixable
      ((r.addAll (removableFindings s b)).fixable + (b.spots s).length))
    refine ⟨n, hrest.trans ?_⟩
    rw [Report.addAll_withFixable, List.flatMap_cons, Report.addAll_append]
    rfl

theorem foldl_checkRule_eq (rules : List PunctuationRule) (r : Report) (s : List Char) :
    rules.foldl (checkRule s) r = r.addAll (rules.flatMap (punctuationFindings s)) := by
  induction rules generalizing r with
  | nil => rfl
  | cons rule rules ih =>
    rw [List.foldl_cons, ih, List.flatMap_cons, Report.addAll_append]
    rfl

/-- **The report of a first look that removes nothing** has its findings behind those that were
there; the count of what could be removed is kept beside them. -/
theorem checkText_false_eq (r : Report) (s : List Char) :
    ∃ n, checkText false r s = ((r.addAll (textFindings s)).withFixable n, s) := by
  obtain ⟨n, hblemishes⟩ := foldl_checkBlemish_eq Blemish.all r s
  refine ⟨n, Prod.ext ?_ (checkText_false r s).1⟩
  have hleft : (checkBlemishes false r s).2 = s := (foldl_checkBlemish Blemish.all r s).1
  rw [← checkBlemishes] at hblemishes
  simp only [checkText, hleft, foldl_checkRule_eq, hblemishes, Report.addAll_withFixable,
    textFindings, Report.addAll_append]

/-! ### Errors of the first look -/

/-- **The errors of a first look** are a byte order mark at the beginning, carriage returns and
characters without a width. -/
theorem textFindings_errors_iff {s : List Char} :
    (∀ f ∈ textFindings s, f.isError = false)
      ↔ s.head? ≠ some '\uFEFF' ∧ '\r' ∉ s ∧ s.any Blemish.isZeroWidth = false := by
  have hspots : (∀ f ∈ textFindings s, f.isError = false)
      ↔ ∀ b ∈ Blemish.all, b.severity = .error → b.spots s = [] := by
    constructor
    · intro h b hb hseverity
      refine List.eq_nil_iff_forall_not_mem.mpr fun spot hspot => ?_
      have hfound : (⟨spot.line, .removable b spot.text⟩ : Finding) ∈ textFindings s :=
        List.mem_append_left _ (List.mem_flatMap.mpr ⟨b, hb, List.mem_map_of_mem hspot⟩)
      have hnone := h _ hfound
      simp [Finding.isError, Issue.severity, hseverity] at hnone
    · intro h f hf
      rcases List.mem_append.mp hf with hf | hf
      · obtain ⟨b, hb, hf⟩ := List.mem_flatMap.mp hf
        obtain ⟨spot, hspot, rfl⟩ := List.mem_map.mp hf
        refine decide_eq_false fun hseverity => ?_
        rw [h b hb hseverity] at hspot
        contradiction
      · obtain ⟨rule, -, hf⟩ := List.mem_flatMap.mp hf
        obtain ⟨spot, -, rfl⟩ := List.mem_map.mp hf
        rfl
  have hwidth : Blemish.zeroWidth.spots s = [] ↔ s.any Blemish.isZeroWidth = false := by
    rw [spots_zeroWidth_iff, List.any_eq_false]
    simp only [Bool.not_eq_true]
  rw [hspots, ← spots_byteOrderMark_iff, ← spots_carriageReturn_iff, ← hwidth]
  simp [Blemish.all, Blemish.severity]

/-! ### Runs without errors -/

/-- **A run that removes nothing** leaves the files as they are and a report with the findings of
both looks. -/
theorem exists_run_check {l : Linter} {disk : Disk} {bs : Text.Bytes} {s : List Char}
    (hfix : l.fix = false) (hread : disk.read l.path = .ok bs) (hdecode : Text.decode bs = .ok s)
    (r : Report) :
    ∃ n, l.run disk r = .ok
      { disk
        report := (r.addAll (textFindings s
          ++ checkMarkup disk l.pictureDir (normalize s))).withFixable n
        records := markupRecords (normalize s) } := by
  obtain ⟨n, htext⟩ := checkText_false_eq r s
  refine ⟨n, ?_⟩
  rw [run_eq_check hread hdecode]
  simp only [Linter.check, hfix, htext, Linter.save, Report.addAll_append,
    ← Report.addAll_withFixable]
  rfl

/-- **A run that removes nothing has no error** exactly if there was none before and neither look
finds one. -/
theorem isClean_run_iff {l : Linter} {disk : Disk} {bs : Text.Bytes} {s : List Char}
    (hfix : l.fix = false) (hread : disk.read l.path = .ok bs) (hdecode : Text.decode bs = .ok s)
    (r : Report) :
    ∃ run, l.run disk r = .ok run
      ∧ (run.report.isClean = true
        ↔ r.isClean = true ∧ (∀ f ∈ textFindings s, f.isError = false)
          ∧ ∀ f ∈ checkMarkup disk l.pictureDir (normalize s), f.isError = false) := by
  obtain ⟨n, hrun⟩ := exists_run_check hfix hread hdecode r
  refine ⟨_, hrun, ?_⟩
  simp only [Report.isClean, beq_iff_eq, Report.withFixable, Report.errors_addAll,
    Nat.add_eq_zero_iff, List.countP_eq_zero, Bool.not_eq_true, List.forall_mem_append]

/-- **What the file holds if a run finds no error**: a text in which neither look finds one. -/
theorem exists_text_of_clean {l : Linter} {disk : Disk} {r : Report} {run : Run}
    (hfix : l.fix = false) (hrun : l.run disk r = .ok run)
    (hclean : run.report.isClean = true) :
    ∃ bs s, disk.read l.path = .ok bs ∧ Text.decode bs = .ok s
      ∧ (∀ f ∈ textFindings s, f.isError = false)
      ∧ ∀ f ∈ checkMarkup disk l.pictureDir (normalize s), f.isError = false := by
  cases hread : disk.read l.path with
  | error fault =>
    rw [Linter.run, hread] at hrun
    cases fault <;> contradiction
  | ok bs =>
    cases hdecode : Text.decode bs with
    | error fault =>
      -- a file that is no text is itself an error
      rw [Linter.run, hread] at hrun
      simp only [hdecode] at hrun
      obtain rfl := Except.ok.inj hrun
      have hadd : (r.add 0 .undecodable).errors = r.errors + 1 :=
        Report.errors_addAll r [⟨0, .undecodable⟩]
      simp [Report.isClean, hadd] at hclean
    | ok s =>
      obtain ⟨run', hrun', hiff⟩ := isClean_run_iff hfix hread hdecode r
      obtain rfl := Except.ok.inj (hrun.symm.trans hrun')
      exact ⟨bs, s, rfl, hdecode, (hiff.mp hclean).2⟩

theorem isError_of_mem_checkPictures {disk : Disk} {dir : Option String} {d : Directive}
    {f : Finding} (h : f ∈ checkPictures disk dir d) : f.isError = true := by
  obtain ⟨-, file, -, ⟨fault, -, hissue⟩ | ⟨place, hissue⟩⟩ := exists_of_mem_checkPictures h
  all_goals
    rw [Finding.isError, hissue]
    rfl

/-- The errors in the structure of a text are those of its table of contents. -/
theorem checkStructure_errors_iff {s : List Char} {ds : List Directive} :
    (∀ f ∈ checkStructure s ds, f.isError = false) ↔ tocFault? s ds = none := by
  have hleftover : ∀ f ∈ checkLeftover (composeDirectives ds), f.isError = false := by
    intro f hf
    rw [(eq_of_mem_checkLeftover hf).2]
    rfl
  have hchapters : ∀ f ∈ checkChapters s (composeDirectives ds), f.isError = false := by
    intro f hf
    obtain ⟨listed, chapters, rfl⟩ := exists_of_mem_checkChapters hf
    rfl
  rw [checkStructure, checkToc_eq]
  simp only [List.forall_mem_append]
  cases tocFault? s ds with
  | none => simpa using ⟨hleftover, hchapters⟩
  | some fault => simp [Finding.isError, Issue.severity]

/-- **A second look finds no error** exactly if every line is a directive, every picture is as it
should be, and the table of contents fits the pages. -/
theorem checkMarkup_errors_iff {disk : Disk} {dir : Option String} {s : List Char} :
    (∀ f ∈ checkMarkup disk dir s, f.isError = false)
      ↔ ∃ ds, Directive.ofText s = (ds, none) ∧ (∀ d ∈ ds, checkPictures disk dir d = [])
        ∧ tocFault? s ds = none := by
  obtain ⟨⟨ds, faults⟩, hlines⟩ : ∃ read, readLines (Text.lines s) 1 = read := ⟨_, rfl⟩
  obtain ⟨hfault, hsame⟩ := ofLines_readLines (Text.lines s) 1
  rw [hlines] at hfault hsame
  rw [checkMarkup, hlines]
  cases faults with
  | cons fault faults =>
    have hunread : ∀ ds', Directive.ofText s ≠ (ds', none) := by
      intro ds' hread
      rw [show (Directive.ofLines (Text.lines s) 1).2 = none from congrArg Prod.snd hread] at hfault
      contradiction
    constructor
    · intro h
      have hnone := h ⟨fault.line, .unknownDirective fault.name⟩
        (List.mem_append_left _ (List.mem_append_left _ List.mem_cons_self))
      contradiction
    · rintro ⟨ds', hread, -⟩
      exact absurd hread (hunread ds')
  | nil =>
    have hread : Directive.ofText s = (ds, none) := Prod.ext (hsame rfl) hfault
    have hpictures : (∀ f ∈ ds.flatMap (checkPictures disk dir), f.isError = false)
        ↔ ∀ d ∈ ds, checkPictures disk dir d = [] := by
      constructor
      · intro h d hd
        refine List.eq_nil_iff_forall_not_mem.mpr fun f hf => ?_
        have hnone := h f (List.mem_flatMap.mpr ⟨d, hd, hf⟩)
        rw [isError_of_mem_checkPictures hf] at hnone
        contradiction
      · intro h f hf
        obtain ⟨d, hd, hf⟩ := List.mem_flatMap.mp hf
        rw [h d hd] at hf
        contradiction
    simp only [List.map_nil, List.nil_append, List.isEmpty_nil, if_true, List.forall_mem_append,
      hpictures, checkStructure_errors_iff, hread, Prod.mk.injEq, and_true, exists_eq_left']

/-! ### The manuscript of a clean run -/

theorem unifyNewlines_of_notMem {s : List Char} (h : '\r' ∉ s) : Text.unifyNewlines s = s := by
  induction s with
  | nil => rfl
  | cons c s ih =>
    rw [List.mem_cons, not_or] at h
    rw [Text.unifyNewlines.eq_def]
    split
    · next heq => exact absurd (List.cons.inj heq).1.symm h.1
    · next heq => exact absurd (List.cons.inj heq).1.symm h.1
    · next heq =>
      obtain ⟨rfl, rfl⟩ := List.cons.inj heq
      rw [ih h.2]
    · contradiction

/-- The book is made from the text that was looked at. -/
theorem readText_of_decode {disk : Disk} {plan : BookPlan} {bs : Text.Bytes} {s : List Char}
    (hread : disk.read plan.rawPath = .ok bs) (hdecode : Text.decode bs = .ok s)
    (hreturn : '\r' ∉ s) : plan.readText disk = .ok (String.ofList s) := by
  have hopen (wrap : Files.Fault → ConfigFault) :
      openFile disk plan.loaded.rawPath wrap = .ok bs := by
    rw [openFile, BookPlan.rawPath_loaded, Files.Disk.readLetters_letters, hread]
    rfl
  rw [BookPlan.readText, LoadedPlan.readText]
  simp only [hopen, bind_ok, hdecode, unifyNewlines_of_notMem hreturn, pure_eq_ok]

section

variable {plan : BookPlan} {raw : String} {ds : List Directive}

/-- **When a manuscript compiles whose entries fit its pages**: if it has a table of contents, then
no field of the plan and no title may hold the text of a placeholder. -/
theorem compileText_eq_ok_iff (hread : Directive.ofText (normalize raw.toList) = (ds, none))
    (hfits : tocFault? (normalize raw.toList) ds = none) :
    (∃ book, compileText plan raw = .ok book)
      ↔ ((∃ d ∈ ds, d.command = .toc) →
          PlanAvoids placeholder plan
            ∧ ∀ e ∈ scanEntries (normalize raw.toList), ¬ placeholder <:+: e.title.toList) := by
  have hasks : asksForToc (composeDirectives ds).actions = true
      ↔ ∃ d ∈ ds, d.command = .toc := by
    simp [asksForToc_composeDirectives]
  have hcompile : (∃ book, compileText plan raw = .ok book)
      ↔ (asksForToc (composeDirectives ds).actions = true →
          (buildSkeleton plan (normalize raw.toList)).placeholderCount
            = (linkTargets (composeDirectives ds).actions).length) := by
    unfold compileText compose Skeleton.resolve
    simp only [hread]
    by_cases htoc : asksForToc (composeDirectives ds).actions = true
    · by_cases hcount : (buildSkeleton plan (normalize raw.toList)).placeholderCount
          = (linkTargets (composeDirectives ds).actions).length <;> simp [htoc, hcount]
    · simp [htoc]
  rw [hcompile, hasks]
  refine forall_congr' fun htoc => ?_
  -- the entries with a link are as many as the pages, so no other placeholder may be counted
  have hlinks : (linkedAnchors (scanEntries (normalize raw.toList))).length
      = (linkTargets (composeDirectives ds).actions).length := by
    by_contra hne
    have hany : ds.any (·.command = .toc) = true := by simpa using htoc
    rw [tocFault?, if_pos ⟨hany, hne⟩] at hfits
    contradiction
  rw [placeholderCount_eq, ← planPlaceholders_eq_zero_iff,
    ← titlePlaceholders_scanEntries_eq_zero_iff]
  omega

end

/-! ### The promise -/

/-- **Which of the manuscripts that pass become a book.**  If a run that removes nothing finds no
error in the manuscript of a plan, the manuscript can be read, and all of its lines are
directives.  It compiles exactly if, where it has a table of contents, neither a field of the plan
nor a title holds the text of a placeholder; and its pages can then be placed exactly if each of
the commands for a page that can occur once is given once at most. -/
theorem run_clean_iff {l : Linter} {disk : Disk} {plan : BookPlan} {r : Report} {run : Run}
    (hfix : l.fix = false) (hpath : l.path = plan.rawPath) (hrun : l.run disk r = .ok run)
    (hclean : run.report.isClean = true) :
    ∃ raw ds, plan.readText disk = .ok raw
      ∧ Directive.ofText (normalize raw.toList) = (ds, none)
      ∧ ((∃ book, compilePlan disk plan = .ok book)
          ↔ ((∃ d ∈ ds, d.command = .toc) →
            PlanAvoids placeholder plan
              ∧ ∀ e ∈ scanEntries (normalize raw.toList), ¬ placeholder <:+: e.title.toList))
      ∧ ∀ book, compilePlan disk plan = .ok book →
          ((∃ placements, layout book.actions = .ok placements)
            ↔ ∀ command ∈ singleCommands, ds.countP (·.command = command) ≤ 1) := by
  obtain ⟨bs, s, hread, hdecode, htext, hmarkup⟩ := exists_text_of_clean hfix hrun hclean
  obtain ⟨-, hreturn, -⟩ := textFindings_errors_iff.mp htext
  obtain ⟨ds, hlines, -, hfits⟩ := checkMarkup_errors_iff.mp hmarkup
  have hraw := readText_of_decode (hpath ▸ hread) hdecode hreturn
  rw [← String.toList_ofList (l := s)] at hlines hfits
  refine ⟨String.ofList s, ds, hraw, hlines, ?_, fun book hmade => ?_⟩
  · simp only [compilePlan_eq_ok_iff hraw]
    exact compileText_eq_ok_iff hlines hfits
  · rw [actions_of_compileText hlines ((compilePlan_eq_ok_iff hraw).mp hmade)]
    exact layout_composeDirectives_iff

/-! ### Two manuscripts that pass -/

theorem read_rawPath_diskWith (bs : Text.Bytes) :
    (diskWith bs).read slimPlan.rawPath = .ok bs := by
  have hpath : slimPlan.rawPath = "./raw.txt" := by decide +kernel
  have hnames : Disk.names "./raw.txt" = [".", "raw.txt"] := by decide +kernel
  have hhome : (diskWith bs).home = [] := by
    show (Disk.names "/").filter (· ≠ "") = []
    decide +kernel
  have hnul : "./raw.txt".toList.elem '\x00' = false := by decide +kernel
  have habsolute : Files.Path.isAbsolute "./raw.txt" = false := by decide +kernel
  have hlocate : (diskWith bs).locate "./raw.txt" = .ok ["raw.txt"] := by
    rw [Disk.locate, hnames, hhome, habsolute, if_neg (by decide), if_neg (by decide +kernel)]
    rfl
  have hfind : (diskWith bs).find "./raw.txt" = .ok ["raw.txt"] := by
    rw [Disk.find, hnul, hlocate]
    rfl
  rw [hpath, Disk.read, hfind]
  rfl

/-- Where no directory of pictures is given, only the types of the pictures are looked at. -/
theorem checkPictures_none {disk : Disk} {d : Directive}
    (h : ∀ file ∈ pictureNames d, (mediaType file).isOk = true) :
    checkPictures disk none d = [] := by
  refine List.filterMap_eq_nil_iff.mpr fun file hfile => ?_
  have hok := h file hfile
  rw [pictureIssue?]
  cases htype : mediaType file with
  | error fault =>
    rw [htype] at hok
    contradiction
  | ok t => rfl

section

variable {s : List Char} {ds : List Directive} (hread : ReadsAs s ds)
  (htext : s.head? ≠ some '\uFEFF' ∧ '\r' ∉ s ∧ s.any Blemish.isZeroWidth = false)

include htext

/-- The manuscript of a plan, alone on its disk, is read as it is. -/
theorem readText_diskWith :
    slimPlan.readText (diskWith (Text.encode s)) = .ok (String.ofList s) :=
  readText_of_decode (read_rawPath_diskWith _) (Text.decode_encode s) htext.2.1

include hread

/-- A run over a manuscript that is alone on its disk. -/
theorem exists_clean_run
    (hpictures : ∀ d ∈ ds, ∀ file ∈ pictureNames d, (mediaType file).isOk = true)
    (hfits : tocFault? s ds = none) :
    ∃ run, Linter.run { path := slimPlan.rawPath } (diskWith (Text.encode s)) {} = .ok run
      ∧ run.report.isClean = true := by
  obtain ⟨run, hrun, hiff⟩ := isClean_run_iff (l := { path := slimPlan.rawPath }) rfl
    (read_rawPath_diskWith _) (Text.decode_encode s) {}
  refine ⟨run, hrun, hiff.mpr ⟨rfl, textFindings_errors_iff.mpr htext, ?_⟩⟩
  rw [hread.normalize_self]
  exact checkMarkup_errors_iff.mpr
    ⟨ds, hread.read, fun d hd => checkPictures_none (hpictures d hd), hfits⟩

end

theorem run_chapterOnly :
    ∃ run book placements,
      Linter.run { path := slimPlan.rawPath } (diskWith (Text.encode chapterOnly)) {} = .ok run
      ∧ run.report.isClean = true
      ∧ compilePlan (diskWith (Text.encode chapterOnly)) slimPlan = .ok book
      ∧ layout book.actions = .ok placements := by
  have hread := readsAs_chapterOnly
  have htext : chapterOnly.head? ≠ some '\uFEFF' ∧ '\r' ∉ chapterOnly
      ∧ chapterOnly.any Blemish.isZeroWidth = false := by decide +kernel
  have hfits : tocFault? chapterOnly chapterDirectives = none := by
    rw [tocFault?, scanEntries_chapterOnly]
    decide +kernel
  obtain ⟨run, hrun, hclean⟩ := exists_clean_run hread htext (by decide +kernel) hfits
  have hpath : ({ path := slimPlan.rawPath } : Linter).path = slimPlan.rawPath := rfl
  obtain ⟨raw, ds, hraw, hlines, hcompiles, hplaced⟩ := run_clean_iff rfl hpath hrun hclean
  obtain rfl := Except.ok.inj ((readText_diskWith htext).symm.trans hraw)
  rw [hread.normalize_eq] at hlines hcompiles
  obtain rfl : chapterDirectives = ds := congrArg Prod.fst (hread.read.symm.trans hlines)
  obtain ⟨book, hbook⟩ := hcompiles.mpr fun _ => ⟨planAvoids_slimPlan, fun e he htitle => by
    rw [scanEntries_chapterOnly, List.mem_singleton] at he
    subst he
    exact Text.not_infix_of_notMem lowLine_mem_placeholder (by decide) htitle⟩
  obtain ⟨placements, hplacements⟩ := (hplaced book hbook).mpr (by decide)
  exact ⟨run, book, placements, hrun, hclean, hbook, hplacements⟩

/-- The table of contents, asked for twice. -/
def tocTwice : List Char := unlines ["#toc#", "#toc#"]

/-- The directives of the text. -/
def tocTwiceDirectives : List Directive :=
  [{ command := .toc, line := 1 }, { command := .toc, line := 2 }]

theorem readsAs_tocTwice : ReadsAs tocTwice tocTwiceDirectives := by
  unfold tocTwice
  repeat rw [unlines_cons]
  rw [unlines_nil]
  constructor <;> decide +kernel

/-- **A manuscript can pass and make no book.**  It asks for its table of contents twice. -/
theorem exists_clean_without_book :
    ¬ ∀ (l : Linter) (disk : Disk) (plan : BookPlan) (run : Run), l.fix = false →
      l.path = plan.rawPath → l.run disk {} = .ok run → run.report.isClean = true →
      ∃ book placements, compilePlan disk plan = .ok book
        ∧ layout book.actions = .ok placements := by
  intro h
  have hread := readsAs_tocTwice
  have htext : tocTwice.head? ≠ some '\uFEFF' ∧ '\r' ∉ tocTwice
      ∧ tocTwice.any Blemish.isZeroWidth = false := by decide +kernel
  have hfits : tocFault? tocTwice tocTwiceDirectives = none := by
    have hentries : scanEntries tocTwice = [] := by
      unfold tocTwice
      repeat rw [unlines_cons]
      rw [unlines_nil, scanEntries_eq_lines]
      decide +kernel
    rw [tocFault?, hentries]
    decide +kernel
  obtain ⟨run, hrun, hclean⟩ := exists_clean_run hread htext (by decide) hfits
  obtain ⟨book, placements, hbook, hplaced⟩ := h _ _ slimPlan run rfl rfl hrun hclean
  -- the book has two pages with the table of contents, which cannot be placed
  have hmade := (compilePlan_eq_ok_iff (readText_diskWith htext)).mp hbook
  have hactions := actions_of_compileText (hread.normalize_eq ▸ hread.read) hmade
  rw [hactions] at hplaced
  have honce := layout_composeDirectives_iff.mp ⟨placements, hplaced⟩ .toc (by decide)
  exact absurd honce (by decide)

end Kumihan.Lint
