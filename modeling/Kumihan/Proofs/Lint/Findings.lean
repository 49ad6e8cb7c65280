import Kumihan.Lint.Linter
import Kumihan.Proofs.Text.Utf8

/-!
# The findings of a run

A run that removes nothing finds what the first look finds in the text and then what the second
look finds in its directives.  The findings of the first look are about characters only.

## Main definitions

* `Issue.concernsBook` — the issue is one that decides what book is made.
* `Report.tally` — how many findings of a report matter so much.
* `textFindings s` — what the first look finds in a text that it leaves as it is.

## Main results

* `checkText_false` — what a look at a text finds that nothing is removed from.
* `run_eq_ok` — **what a run that removes nothing leaves behind.**
-/

namespace Kumihan.Lint

open Files (Disk)
open Markup (Directive PunctuationRule normalize punctuationRules)

/-! ### Issues that concern the book -/

/-- The issue decides what book is made of the manuscript, and whether one is. -/
def Issue.concernsBook : Issue → Bool
  | unknownDirective _ | unclosedText | tocMismatch _ => true
  | undecodable | removed _ | removable _ _ | punctuation _ _ | unsupportedPicture _
  | missingPicture _ _ | chapterCount _ _ => false

/-- What is read off findings that do not concern the book is nothing. -/
theorem filterMap_eq_nil_of_concernsBook {α : Type} {g : Finding → Option α}
    (hg : ∀ f, f.issue.concernsBook = false → g f = none) {fs : List Finding}
    (h : ∀ f ∈ fs, f.issue.concernsBook = false) : fs.filterMap g = [] :=
  List.filterMap_eq_nil_iff.mpr fun f hf => hg f (h f hf)

/-! ### Reports -/

namespace Report

theorem findings_count (r : Report) (severity : Severity) :
    (r.count severity).findings = r.findings := by
  cases severity <;> rfl

/-- The findings of a report are kept, and those that are added stand behind them. -/
@[simp] theorem findings_addAll (r : Report) (fs : List Finding) :
    (r.addAll fs).findings = r.findings ++ fs := by
  induction fs generalizing r with
  | nil => exact (List.append_nil _).symm
  | cons f fs ih =>
    have hadd : (r.add f.line f.issue).findings = r.findings ++ [f] := by
      simp [add, findings_count]
    rw [addAll, List.foldl_cons, ← addAll, ih, hadd, List.append_assoc, List.singleton_append]

/-- The number of findings that matter so much. -/
def tally (r : Report) : Severity → Nat
  | .error => r.errors
  | .warning => r.warnings
  | .info => r.infos

/-- Every finding that is added is counted. -/
theorem tally_addAll (r : Report) (severity : Severity) (fs : List Finding) :
    (r.addAll fs).tally severity
      = r.tally severity + fs.countP (·.issue.severity = severity) := by
  induction fs generalizing r with
  | nil => rfl
  | cons f fs ih =>
    have hadd : (r.add f.line f.issue).tally severity
        = r.tally severity + if f.issue.severity = severity then 1 else 0 := by
      unfold add
      cases f.issue.severity <;> cases severity <;> rfl
    rw [addAll, List.foldl_cons, ← addAll, ih, hadd, List.countP_cons]
    simp only [decide_eq_true_eq]
    omega

end Report

/-! ### The first look -/

/-- The findings of one kind of blemish. -/
def removableFindings (s : List Char) (b : Blemish) : List Finding :=
  (b.spots s).map fun spot => ⟨spot.line, .removable b spot.text⟩

/-- The findings of one rule of punctuation. -/
def punctuationFindings (s : List Char) (rule : PunctuationRule) : List Finding :=
  (punctuationSpots rule s).map fun spot => ⟨spot.line, .punctuation rule spot.text⟩

/-- What the first look finds in a text that it leaves as it is. -/
def textFindings (s : List Char) : List Finding :=
  Blemish.all.flatMap (removableFindings s) ++ punctuationRules.flatMap (punctuationFindings s)

theorem concernsBook_of_mem_textFindings {s : List Char} {f : Finding} (h : f ∈ textFindings s) :
    f.issue.concernsBook = false := by
  rcases List.mem_append.mp h with h | h
  · obtain ⟨b, -, h⟩ := List.mem_flatMap.mp h
    obtain ⟨spot, -, rfl⟩ := List.mem_map.mp h
    rfl
  · obtain ⟨rule, -, h⟩ := List.mem_flatMap.mp h
    obtain ⟨spot, -, rfl⟩ := List.mem_map.mp h
    rfl

/-- A text that nothing is removed from stays as it is, whatever the kinds looked for. -/
theorem foldl_checkBlemish (kinds : List Blemish) (r : Report) (s : List Char) :
    (kinds.foldl (fun (r, s) b => checkBlemish false b r s) (r, s)).2 = s
      ∧ (kinds.foldl (fun (r, s) b => checkBlemish false b r s) (r, s)).1.findings
        = r.findings ++ kinds.flatMap (removableFindings s) := by
  -- the report changes from kind to kind, the text that each of them sees does not
  induction kinds generalizing r with
  | nil => simp
  | cons b kinds ih =>
    have hfound : (checkBlemish false b r s).1.findings
        = r.findings ++ removableFindings s b := by
      simp [checkBlemish, removableFindings]
    obtain ⟨hleft, hrest⟩ := ih (checkBlemish false b r s).1
    refine ⟨hleft, hrest.trans ?_⟩
    rw [hfound, List.flatMap_cons, List.append_assoc]

theorem findings_foldl_checkRule (rules : List PunctuationRule) (r : Report)
    (s : List Char) :
    (rules.foldl (checkRule s) r).findings
      = r.findings ++ rules.flatMap (punctuationFindings s) := by
  induction rules generalizing r with
  | nil => simp
  | cons rule rules ih =>
    rw [List.foldl_cons, ih, checkRule, Report.findings_addAll]
    simp [punctuationFindings]

/-- **The first look at a text that nothing is removed from.** -/
theorem checkText_false (r : Report) (s : List Char) :
    (checkText false r s).2 = s
      ∧ (checkText false r s).1.findings = r.findings ++ textFindings s := by
  obtain ⟨hleft, hfound⟩ := foldl_checkBlemish Blemish.all r s
  rw [← checkBlemishes] at hleft hfound
  rw [checkText]
  refine ⟨hleft, ?_⟩
  simp only [hleft, findings_foldl_checkRule, hfound, textFindings, List.append_assoc]

/-! ### The second look -/

/-- **What is found of a picture** is at the line of the directive that names it: its type is not
supported, or it is missing. -/
theorem exists_of_mem_checkPictures {disk : Disk} {dir : Option String} {d : Directive}
    {f : Finding} (h : f ∈ checkPictures disk dir d) :
    f.line = d.line ∧ ∃ file ∈ pictureNames d,
      (∃ fault, Book.mediaType file = .error fault ∧ f.issue = .unsupportedPicture fault)
        ∨ ∃ place, f.issue = .missingPicture place file := by
  obtain ⟨file, hfile, h⟩ := List.mem_filterMap.mp h
  obtain ⟨issue, hissue, rfl⟩ := Option.map_eq_some_iff.mp h
  refine ⟨rfl, file, hfile, ?_⟩
  unfold pictureIssue? at hissue
  split at hissue
  · next fault htype => exact Or.inl ⟨fault, htype, (Option.some.inj hissue).symm⟩
  · split at hissue
    · contradiction
    · split at hissue
      · contradiction
      · exact Or.inr ⟨_, (Option.some.inj hissue).symm⟩

theorem concernsBook_of_mem_checkPictures {disk : Disk} {dir : Option String} {d : Directive}
    {f : Finding} (h : f ∈ checkPictures disk dir d) : f.issue.concernsBook = false := by
  obtain ⟨-, file, -, ⟨fault, -, hissue⟩ | ⟨place, hissue⟩⟩ := exists_of_mem_checkPictures h
  all_goals
    rw [hissue]
    rfl

theorem eq_of_mem_checkLeftover {c : Book.Composition} {f : Finding} (h : f ∈ checkLeftover c) :
    c.leftover ≠ "" ∧ f = ⟨c.leftoverLine, .unclosedText⟩ := by
  unfold checkLeftover at h
  split at h
  · contradiction
  · next hleftover => exact ⟨mt String.isEmpty_iff.mpr hleftover, List.mem_singleton.mp h⟩

theorem exists_of_mem_checkToc {s : List Char} {ds : List Directive} {c : Book.Composition}
    {f : Finding} (h : f ∈ checkToc s ds c) : ∃ fault, f = ⟨0, .tocMismatch fault⟩ := by
  simp only [checkToc] at h
  split at h
  · exact ⟨_, List.mem_singleton.mp h⟩
  · contradiction

theorem exists_of_mem_checkChapters {s : List Char} {c : Book.Composition} {f : Finding}
    (h : f ∈ checkChapters s c) : ∃ listed chapters, f = ⟨0, .chapterCount listed chapters⟩ := by
  simp only [checkChapters] at h
  split at h
  · exact ⟨_, _, List.mem_singleton.mp h⟩
  · contradiction

theorem concernsBook_of_mem_checkChapters {s : List Char} {c : Book.Composition} {f : Finding}
    (h : f ∈ checkChapters s c) : f.issue.concernsBook = false := by
  obtain ⟨listed, chapters, rfl⟩ := exists_of_mem_checkChapters h
  rfl

/-! ### Runs -/

/-- A run looks at the text that the file holds. -/
theorem run_eq_check {l : Linter} {disk : Disk} {bs : Text.Bytes} {s : List Char}
    (hread : disk.read l.path = .ok bs) (hdecode : Text.decode bs = .ok s) (r : Report) :
    l.run disk r = l.check disk r s := by
  rw [Linter.run, hread]
  simp only [hdecode]

/-- **What a run that removes nothing leaves behind**: the files as they were, and the findings of
both looks behind those that were there before. -/
theorem run_eq_ok {l : Linter} {disk : Disk} {s : List Char} (hfix : l.fix = false)
    (hread : disk.read l.path = .ok (Text.encode s)) (r : Report) :
    ∃ run, l.run disk r = .ok run ∧ run.disk = disk
      ∧ run.report.findings
        = r.findings ++ (textFindings s ++ checkMarkup disk l.pictureDir (normalize s)) := by
  obtain ⟨hleft, hfound⟩ := checkText_false r s
  have hcheck : l.check disk r s
      = .ok { disk
              report := (checkText false r s).1.addAll
                (checkMarkup disk l.pictureDir (normalize s))
              records := markupRecords (normalize s) } := by
    simp only [Linter.check, Linter.save, hfix, hleft]
    rfl
  refine ⟨_, (run_eq_check hread (Text.decode_encode s) r).trans hcheck, rfl, ?_⟩
  rw [Report.findings_addAll, hfound, List.append_assoc]

end Kumihan.Lint
