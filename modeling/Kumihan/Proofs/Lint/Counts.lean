import Kumihan.Proofs.Lint.LineNumbers

/-!
# The counts of a report

A report counts its findings by how much they matter, one by one, and beside that the blemishes that
were removed, a kind at a time and only if the text has changed, and those that can be removed.
Nothing is ever set back: a linter that is run again adds to what it has found before, whatever has
become of the file.  The counts stay in step with the findings all the same, because a kind that has
been found somewhere is never removed without a change.

## Main definitions

* `Issue.isRemoved`, `Issue.isRemovable` — the findings that are counted a second time.
* `Report.InStep fix r` — the counts of a report are those of its findings.
* `Linter.Reaches l r` — a linter comes to have a report.

## Main results

* `checkBlemish_fst` — how a kind of blemish is counted.
* `Report.InStep.run` — **one run keeps the counts in step.**
* `counts_of_reaches` — **the counts are in step after any number of runs.**
-/

namespace Kumihan.Lint

open Files (Disk)
open Markup (PunctuationRule normalize punctuationRules)

/-! ### Findings that are counted twice -/

/-- The issue is a blemish that was removed. -/
def Issue.isRemoved : Issue → Bool
  | removed _ => true
  | undecodable | removable _ _ | punctuation _ _ | unknownDirective _ | unsupportedPicture _
  | missingPicture _ _ | unclosedText | tocMismatch _ | chapterCount _ _ => false

/-- The issue is a blemish that can be removed. -/
def Issue.isRemovable : Issue → Bool
  | removable _ _ => true
  | undecodable | removed _ | punctuation _ _ | unknownDirective _ | unsupportedPicture _
  | missingPicture _ _ | unclosedText | tocMismatch _ | chapterCount _ _ => false

/-- A blemish is removed by a linter that fixes, and left by one that does not. -/
def Issue.Suits (fix : Bool) (issue : Issue) : Prop :=
  (issue.isRemoved = true → fix = true) ∧ (issue.isRemovable = true → fix = false)

/-- The issue is no blemish. -/
def Issue.IsPlain (issue : Issue) : Prop := issue.isRemoved = false ∧ issue.isRemovable = false

theorem Issue.IsPlain.suits {issue : Issue} (h : issue.IsPlain) (fix : Bool) :
    issue.Suits fix := by
  rw [Suits, h.1, h.2]
  exact ⟨nofun, nofun⟩

theorem Issue.isPlain_of_concernsCharacters {issue : Issue}
    (h : issue.concernsCharacters = false) : issue.IsPlain := by
  cases issue with
  | removed _ | removable _ _ => contradiction
  | _ => exact ⟨rfl, rfl⟩

namespace Report

/-- The counts of a report are those of its findings, and the blemishes among them are all removed,
or all left. -/
structure InStep (fix : Bool) (r : Report) : Prop where
  tally : ∀ severity, r.tally severity = r.findings.countP (·.issue.severity = severity)
  fixes : r.fixes = r.findings.countP (·.issue.isRemoved)
  fixable : r.fixable = r.findings.countP (·.issue.isRemovable)
  suits : ∀ f ∈ r.findings, f.issue.Suits fix

theorem inStep_empty (fix : Bool) : InStep fix {} where
  tally := fun severity => by cases severity <;> rfl
  fixes := rfl
  fixable := rfl
  suits := fun _ hf => absurd hf List.not_mem_nil

/-! ### Adding -/

/-- The report with more findings, the blemishes among them counted as removed or as removable. -/
def addCounted (r : Report) (fs : List Finding) : Report :=
  { r.addAll fs with
    fixes := r.fixes + fs.countP (·.issue.isRemoved)
    fixable := r.fixable + fs.countP (·.issue.isRemovable) }

variable {fix : Bool} {r : Report} {fs : List Finding}

/-- What is no blemish is added without being counted a second time. -/
theorem addAll_eq_addCounted (hplain : ∀ f ∈ fs, f.issue.IsPlain) :
    r.addAll fs = r.addCounted fs := by
  have hremoved : fs.countP (·.issue.isRemoved) = 0 :=
    List.countP_eq_zero.mpr fun f hf => by simp [(hplain f hf).1]
  have hremovable : fs.countP (·.issue.isRemovable) = 0 :=
    List.countP_eq_zero.mpr fun f hf => by simp [(hplain f hf).2]
  rw [addCounted, hremoved, hremovable, Nat.add_zero, Nat.add_zero, ← fixes_addAll r fs,
    ← fixable_addAll r fs]

/-- **Adding keeps the counts in step.** -/
theorem InStep.addCounted (h : r.InStep fix) (hsuits : ∀ f ∈ fs, f.issue.Suits fix) :
    (r.addCounted fs).InStep fix := by
  have hfindings : (r.addCounted fs).findings = r.findings ++ fs := findings_addAll r fs
  refine ⟨fun severity => ?_, ?_, ?_, fun f hf => ?_⟩
  · have htally : (r.addCounted fs).tally severity = (r.addAll fs).tally severity := by
      cases severity <;> rfl
    rw [htally, tally_addAll, h.tally, hfindings, List.countP_append]
  · rw [hfindings, List.countP_append, ← h.fixes]
    rfl
  · rw [hfindings, List.countP_append, ← h.fixable]
    rfl
  · rw [hfindings] at hf
    exact (List.mem_append.mp hf).elim (h.suits f) (hsuits f)

theorem InStep.addAll (h : r.InStep fix) (hplain : ∀ f ∈ fs, f.issue.IsPlain) :
    (r.addAll fs).InStep fix := by
  rw [addAll_eq_addCounted hplain]
  exact h.addCounted fun f hf => (hplain f hf).suits fix

end Report

/-! ### Both looks -/

/-- What is found of a kind of blemish. -/
def blemishFindings (fix : Bool) (b : Blemish) (s : List Char) : List Finding :=
  (b.spots s).map fun spot => ⟨spot.line, if fix then .removed b else .removable b spot.text⟩

theorem countP_isRemoved_blemishFindings (fix : Bool) (b : Blemish) (s : List Char) :
    (blemishFindings fix b s).countP (·.issue.isRemoved)
      = if fix then (b.spots s).length else 0 := by
  cases fix <;> simp [blemishFindings, List.countP_map, Function.comp_def, Issue.isRemoved]

theorem countP_isRemovable_blemishFindings (fix : Bool) (b : Blemish) (s : List Char) :
    (blemishFindings fix b s).countP (·.issue.isRemovable)
      = if fix then 0 else (b.spots s).length := by
  cases fix <;> simp [blemishFindings, List.countP_map, Function.comp_def, Issue.isRemovable]

/-- **A kind of blemish is counted as it is found.**  What is removed is counted only if another
text is left, and that is so wherever the kind was found. -/
theorem checkBlemish_fst (fix : Bool) (b : Blemish) (r : Report) (s : List Char) :
    (checkBlemish fix b r s).1 = r.addCounted (blemishFindings fix b s) := by
  rw [Report.addCounted, countP_isRemoved_blemishFindings, countP_isRemovable_blemishFindings]
  have hfixable := Report.fixable_addAll r (blemishFindings fix b s)
  cases fix with
  | false =>
    have hfixes := Report.fixes_addAll r (blemishFindings false b s)
    rw [if_neg Bool.false_ne_true, if_neg Bool.false_ne_true, Nat.add_zero, ← hfixes, ← hfixable]
    rfl
  | true =>
    have hfixes := (checkBlemish_fix b r s).2
    rw [if_pos rfl, if_pos rfl, Nat.add_zero, ← hfixes, ← hfixable]
    rfl

namespace Report.InStep

variable {fix : Bool} {r : Report}

theorem checkBlemish (h : r.InStep fix) (b : Blemish) (s : List Char) :
    (checkBlemish fix b r s).1.InStep fix := by
  rw [checkBlemish_fst]
  refine h.addCounted fun f hf => ?_
  obtain ⟨spot, -, rfl⟩ := List.mem_map.mp hf
  cases fix <;> simp [Issue.Suits, Issue.isRemoved, Issue.isRemovable]

/-- The induction is on the kinds, each of which is looked for in the text that the one before it
leaves. -/
theorem foldl_checkBlemish (h : r.InStep fix) (kinds : List Blemish) (s : List Char) :
    (kinds.foldl (fun p b => Lint.checkBlemish fix b p.1 p.2) (r, s)).1.InStep fix := by
  induction kinds generalizing r s with
  | nil => exact h
  | cons b kinds ih => exact ih (h.checkBlemish b s) (Lint.checkBlemish fix b r s).2

theorem foldl_checkRule (h : r.InStep fix) (rules : List PunctuationRule) (s : List Char) :
    (rules.foldl (checkRule s) r).InStep fix := by
  induction rules generalizing r with
  | nil => exact h
  | cons rule rules ih =>
    refine ih (h.addAll fun f hf => ?_)
    obtain ⟨spot, -, rfl⟩ := List.mem_map.mp hf
    exact ⟨rfl, rfl⟩

/-- **The first look** keeps the counts in step. -/
theorem checkText (h : r.InStep fix) (s : List Char) : (checkText fix r s).1.InStep fix :=
  (h.foldl_checkBlemish Blemish.all s).foldl_checkRule punctuationRules _

/-- **The second look** finds no blemishes. -/
theorem checkMarkup (h : r.InStep fix) (disk : Disk) (dir : Option String) (s : List Char) :
    (r.addAll (checkMarkup disk dir s)).InStep fix :=
  h.addAll fun _ hf =>
    Issue.isPlain_of_concernsCharacters (concernsCharacters_of_mem_checkMarkup hf)

/-- **One run keeps the counts in step**, also if the file is no text. -/
theorem run {l : Linter} {disk : Disk} {run : Run} (h : r.InStep l.fix)
    (hrun : l.run disk r = .ok run) : run.report.InStep l.fix := by
  unfold Linter.run at hrun
  split at hrun
  · contradiction
  · contradiction
  · split at hrun
    · obtain rfl := Except.ok.inj hrun
      have hplain : ∀ f ∈ [(⟨0, .undecodable⟩ : Finding)], f.issue.IsPlain := by
        intro f hf
        rw [List.mem_singleton.mp hf]
        exact ⟨rfl, rfl⟩
      exact h.addAll hplain
    · next s _ =>
      unfold Linter.check at hrun
      cases hsave : l.save disk s (Lint.checkText l.fix r s).2 with
      | error failure =>
        simp only [hsave] at hrun
        contradiction
      | ok disk' =>
        simp only [hsave] at hrun
        obtain rfl := Except.ok.inj hrun
        exact (h.checkText s).checkMarkup ..

end Report.InStep

/-! ### What the counts say -/

namespace Report.InStep

variable {fix : Bool} {r : Report}

/-- **Every finding is counted under one severity.** -/
theorem total_eq (h : r.InStep fix) : r.total = r.findings.length := by
  have hparts (fs : List Finding) : fs.countP (·.issue.severity = .error)
      + fs.countP (·.issue.severity = .warning) + fs.countP (·.issue.severity = .info)
      = fs.length := by
    induction fs with
    | nil => rfl
    | cons f fs ih =>
      simp only [List.countP_cons, List.length_cons, ← ih]
      cases f.issue.severity <;> simp <;> omega
  rw [← hparts, ← h.tally .error, ← h.tally .warning, ← h.tally .info]
  rfl

/-- **No error is counted exactly if none has been found.** -/
theorem isClean_iff (h : r.InStep fix) :
    r.isClean = true ↔ ∀ f ∈ r.findings, f.issue.severity ≠ .error := by
  have herrors : r.errors = r.findings.countP (·.issue.severity = .error) := h.tally .error
  rw [Report.isClean, beq_iff_eq, herrors, List.countP_eq_zero]
  simp only [decide_eq_true_eq]

/-- What is found is fixed, or it is left for an author to look at. -/
theorem total_eq_fixes_add (h : r.InStep fix) :
    r.total = r.fixes + r.findings.countP (!·.issue.isRemoved) := by
  rw [h.total_eq, h.fixes, List.length_eq_countP_add_countP (·.issue.isRemoved)]
  simp

theorem fixes_eq_zero (h : r.InStep false) : r.fixes = 0 := by
  rw [h.fixes, List.countP_eq_zero]
  exact fun f hf hremoved => absurd ((h.suits f hf).1 hremoved) Bool.false_ne_true

theorem fixable_eq_zero (h : r.InStep true) : r.fixable = 0 := by
  rw [h.fixable, List.countP_eq_zero]
  exact fun f hf hremovable => absurd ((h.suits f hf).2 hremovable).symm Bool.false_ne_true

end Report.InStep

/-! ### Any number of runs -/

/-- The reports that a linter comes to have: an empty one, and what its runs add, whatever files
they find.  A run that is stopped between its looks, because it may not write the manuscript, leaves
what the first look has added; one that cannot read the manuscript leaves the report as it is. -/
inductive Linter.Reaches (l : Linter) : Report → Prop
  | fresh : l.Reaches {}
  | run {r : Report} {disk : Disk} {run : Run} (before : l.Reaches r)
      (hrun : l.run disk r = .ok run) : l.Reaches run.report
  | stopped {r : Report} (before : l.Reaches r) (s : List Char) :
      l.Reaches (checkText l.fix r s).1

theorem inStep_of_reaches {l : Linter} {r : Report} (h : l.Reaches r) : r.InStep l.fix := by
  induction h with
  | fresh => exact Report.inStep_empty l.fix
  | run before hrun ih => exact ih.run hrun
  | stopped before s ih => exact ih.checkText s

/-- A file that is no text is one finding. -/
theorem run_of_decode_eq_error {l : Linter} {disk : Disk} {bs : Text.Bytes}
    {fault : Text.DecodeFault} (hread : disk.read l.path = .ok bs)
    (hdecode : Text.decode bs = .error fault) (r : Report) :
    l.run disk r = .ok { disk, report := r.addAll [⟨0, .undecodable⟩] } := by
  rw [Linter.run, hread]
  simp only [hdecode]
  rfl

/-- **A run gives a result** exactly if the manuscript can be read. -/
theorem exists_run_iff (l : Linter) (disk : Disk) (r : Report) :
    (∃ run, l.run disk r = .ok run) ↔ ∃ bs, disk.read l.path = .ok bs := by
  constructor
  · rintro ⟨run, hrun⟩
    cases hread : disk.read l.path with
    | ok bs => exact ⟨bs, rfl⟩
    | error fault =>
      rw [Linter.run, hread] at hrun
      cases fault <;> contradiction
  · rintro ⟨bs, hread⟩
    cases hdecode : Text.decode bs with
    | ok s =>
      obtain ⟨run, hrun, -⟩ := exists_run hread hdecode r
      exact ⟨run, hrun⟩
    | error fault => exact ⟨_, run_of_decode_eq_error hread hdecode r⟩

/-- **The counts are in step after any number of runs.**  The counts of errors, warnings and
remarks are those of the findings and add up to their number, and a run says that the manuscript is
clean exactly if no error has been counted, which is so in particular if nothing has been found.  A
linter that fixes has counted as fixed what it has found and removed, and nothing as fixable; what
is not fixed is left for an author to look at.  One that does not fix has counted as fixable what it
has found, and nothing as fixed. -/
theorem counts_of_reaches {l : Linter} {r : Report} (h : l.Reaches r) :
    r.total = r.findings.length
      ∧ (∀ severity, r.tally severity = r.findings.countP (·.issue.severity = severity))
      ∧ (r.isClean = true ↔ r.errors = 0) ∧ (r.total = 0 → r.isClean = true)
      ∧ (r.isClean = true ↔ ∀ f ∈ r.findings, f.issue.severity ≠ .error)
      ∧ (l.fix = true → r.fixes = r.findings.countP (·.issue.isRemoved) ∧ r.fixable = 0
        ∧ r.fixes ≤ r.total ∧ r.total - r.fixes = r.findings.countP (!·.issue.isRemoved))
      ∧ (l.fix = false → r.fixes = 0 ∧ r.fixable = r.findings.countP (·.issue.isRemovable))
      ∧ ∀ disk, (∃ run, l.run disk r = .ok run) ↔ ∃ bs, disk.read l.path = .ok bs := by
  have hstep := inStep_of_reaches h
  have hclean : r.isClean = true ↔ r.errors = 0 := by rw [Report.isClean, beq_iff_eq]
  refine ⟨hstep.total_eq, hstep.tally, hclean, fun hnone => ?_, hstep.isClean_iff, fun hfix => ?_,
    fun hfix => ?_, fun disk => exists_run_iff l disk r⟩
  · rw [Report.total] at hnone
    exact hclean.mpr (by omega)
  · rw [hfix] at hstep
    have htotal := hstep.total_eq_fixes_add
    exact ⟨hstep.fixes, hstep.fixable_eq_zero, by omega, by omega⟩
  · rw [hfix] at hstep
    exact ⟨hstep.fixes_eq_zero, hstep.fixable⟩

/-- A linter that fixes is run twice; in between the manuscript is replaced by a file that is no
text. -/
theorem counts_replacedManuscript :
    ∃ run run', fixer.run (diskWith (Text.encode typedElsewhere)) {} = .ok run
      ∧ fixer.run (diskWith [0xFF]) run.report = .ok run'
      ∧ run'.report.total = run'.report.findings.length
      ∧ run'.report.fixes = 4 ∧ run'.report.fixable = 0
      ∧ run'.report.total - run'.report.fixes
        = run'.report.findings.countP (!·.issue.isRemoved)
      ∧ run'.report.isClean = false := by
  obtain ⟨run, hrun, -, hfindings⟩ :=
    exists_run (l := fixer) (read_diskWith _) (Text.decode_encode typedElsewhere) {}
  have hdecode : Text.decode [0xFF] = .error ⟨0, 1, 0xFF, .invalidStart⟩ := by decide +kernel
  have hrun' := run_of_decode_eq_error (l := fixer) (read_diskWith _) hdecode run.report
  obtain ⟨htotal, -, -, -, hclean, hfix, -⟩ :=
    counts_of_reaches ((Linter.Reaches.fresh.run hrun).run hrun')
  obtain ⟨hfixes, hfixable, -, hmanual⟩ := hfix rfl
  refine ⟨run, _, hrun, hrun', htotal, ?_, hfixable, hmanual, ?_⟩
  · have hmarkup : (checkMarkup run.disk fixer.pictureDir
        (normalize (fixer.left typedElsewhere))).countP (·.issue.isRemoved) = 0 :=
      List.countP_eq_zero.mpr fun f hf => by
        simp [(Issue.isPlain_of_concernsCharacters (concernsCharacters_of_mem_checkMarkup hf)).1]
    have htext : (fixer.textFindings typedElsewhere).countP (·.issue.isRemoved) = 4 := by
      decide +kernel
    rw [hfixes, Report.findings_addAll, hfindings, List.countP_append, List.countP_append,
      List.countP_append, hmarkup, htext]
    rfl
  · rw [← Bool.not_eq_true, hclean, Report.findings_addAll]
    exact fun hnone => hnone _ List.mem_concat_self rfl

end Kumihan.Lint
