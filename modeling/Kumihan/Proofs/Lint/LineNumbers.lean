import Kumihan.Proofs.Compositor.Leftover
import Kumihan.Proofs.Lint.Fixing
import Kumihan.Proofs.Lint.Places
import Kumihan.Proofs.Markup.DotRuns
import Kumihan.Proofs.Markup.Reading

/-!
# Line numbers

Between the file and what is said of it a text is mended, set in full-width punctuation and cut
into lines.  None of this moves a line: a finding has the number of the line that it tells of, as
this line was typed, and so has the fault for which a manuscript does not compile.

## Main definitions

* `readTyped` — what a line is read as, by the text that was typed.
* `Issue.concernsWhole`, `Issue.concernsCharacters` — what kind of thing an issue is about.
* `Issue.TellsOf` — what an issue tells of a line, as it was typed and as it is left.
* `Finding.IsPlaced` — a finding has the number of the line that it tells of.
* `Linter.left` — the text that a run leaves in the file.

## Main results

* `isPlaced_of_mem_checkMarkup`, `isPlaced_of_mem_textFindings` — the findings of both looks.
* `exists_run` — what any run leaves behind.
* `normalize_keepsLines` — **the rewriting of punctuation moves no line.**
* `run_fix_byLines` — **a run that fixes goes line by line and only deletes.**
-/

namespace Kumihan.Lint

open Book (TocMismatch UnsupportedPicture compileText composeDirectives mediaType
  exists_writer_of_leftover writes)
open Files (Disk)
open Markup (Directive UnknownDirective inert_feed line_eq_of_ofLine lines_normalize normalize
  normalize_eq_flatMap normalize_normalize punctuationRules runs setRun)

/-! ### What is told of a line -/

/-- What line `n` is read as, if it is typed like this. -/
def readTyped (l : List Char) (n : Int) : Except UnknownDirective Directive :=
  Directive.ofLine (normalize (Text.dropCarriageReturn l)) n

/-- The issue is one of the manuscript as a whole. -/
def Issue.concernsWhole : Issue → Bool
  | undecodable | tocMismatch _ | chapterCount _ _ => true
  | removed _ | removable _ _ | punctuation _ _ | unknownDirective _ | unsupportedPicture _
  | missingPicture _ _ | unclosedText => false

/-- The issue is one of the characters of the manuscript, whatever they mean. -/
def Issue.concernsCharacters : Issue → Bool
  | removed _ | removable _ _ | punctuation _ _ => true
  | undecodable | unknownDirective _ | unsupportedPicture _ | missingPicture _ _ | unclosedText
  | tocMismatch _ | chapterCount _ _ => false

/-- What an issue tells of line `n`, which was typed as `typed` and is left as `left`. -/
def Issue.TellsOf (n : Int) (typed left : List Char) : Issue → Prop
  | removed b => b.StoodOn n typed
  | removable b text => b.StandsOn n typed text
  | punctuation rule text => text = rule.ascii ∧ rule.ascii <:+: left
  | unknownDirective name => readTyped left n = .error { name, line := n }
  | unsupportedPicture fault =>
    ∃ d, readTyped left n = .ok d ∧ ∃ file ∈ pictureNames d, mediaType file = .error fault
  | missingPicture _ file => ∃ d, readTyped left n = .ok d ∧ file ∈ pictureNames d
  | unclosedText => ∃ d, readTyped left n = .ok d ∧ writes d = true
  | undecodable | tocMismatch _ | chapterCount _ _ => False

/-- A finding in a text that was typed and is left otherwise: it has no line and is one of the
whole, or it has the number of the line that it tells of. -/
def Finding.IsPlaced (typed left : List Char) (f : Finding) : Prop :=
  (f.line = 0 ∧ f.issue.concernsWhole = true)
    ∨ ∃ l l', IsLine typed f.line l ∧ IsLine left f.line l' ∧ f.issue.TellsOf f.line l l'

/-! ### Lines that are read -/

section

variable {s : List Char} {n : Int}

/-- What some lines are read as, each of them is. -/
theorem exists_of_mem_readLines (ls : List (List Char)) (n : Int) :
    (∀ d ∈ (readLines ls n).1, ∃ (i : Nat) (l : List Char), ls[i]? = some l
        ∧ Directive.ofLine l (n + i) = .ok d)
      ∧ ∀ fault ∈ (readLines ls n).2, ∃ (i : Nat) (l : List Char), ls[i]? = some l
        ∧ Directive.ofLine l (n + i) = .error fault := by
  induction ls generalizing n with
  | nil => exact ⟨nofun, nofun⟩
  | cons l ls ih =>
    -- a line behind the first has a number that is greater by one
    have hlater {read : Except UnknownDirective Directive}
        (h : ∃ (i : Nat) (k : List Char), ls[i]? = some k
          ∧ Directive.ofLine k (n + 1 + i) = read) :
        ∃ (i : Nat) (k : List Char), (l :: ls)[i]? = some k
          ∧ Directive.ofLine k (n + i) = read := by
      obtain ⟨i, k, hk, hread⟩ := h
      refine ⟨i + 1, k, hk, ?_⟩
      rwa [show n + (i + 1 : Nat) = n + 1 + i by omega]
    have hfirst : Directive.ofLine l (n + (0 : Nat)) = Directive.ofLine l n := by
      rw [Int.natCast_zero, Int.add_zero]
    obtain ⟨hds, hfaults⟩ := ih (n + 1)
    rw [readLines]
    cases hl : Directive.ofLine l n with
    | ok d =>
      refine ⟨fun e he => ?_, fun fault hfault => hlater (hfaults fault hfault)⟩
      rcases List.mem_cons.mp he with rfl | he
      · exact ⟨0, l, rfl, hfirst.trans hl⟩
      · exact hlater (hds e he)
    | error fault =>
      refine ⟨fun e he => hlater (hds e he), fun other hother => ?_⟩
      rcases List.mem_cons.mp hother with rfl | hother
      · exact ⟨0, l, rfl, hfirst.trans hl⟩
      · exact hlater (hfaults other hother)

/-- **A line in full-width punctuation has the number of the line that was typed.** -/
theorem exists_line_of_lines_normalize {i : Nat} {l : List Char}
    (h : (Text.lines (normalize s))[i]? = some l) :
    ∃ typed, IsLine s (1 + i) typed ∧ l = normalize (Text.dropCarriageReturn typed) := by
  rw [lines_normalize, List.getElem?_map] at h
  obtain ⟨k, hk, rfl⟩ := Option.map_eq_some_iff.mp h
  obtain ⟨typed, htyped, rfl⟩ := Text.exists_of_getElem?_lines hk
  exact ⟨typed, ⟨i, Int.add_comm 1 i, htyped⟩, rfl⟩

/-- **A directive has the number of the line that it is read from.** -/
theorem exists_line_of_mem_directives {d : Directive}
    (h : d ∈ (readLines (Text.lines (normalize s)) 1).1) :
    ∃ l, IsLine s d.line l ∧ readTyped l d.line = .ok d := by
  obtain ⟨i, l, hl, hread⟩ := (exists_of_mem_readLines _ 1).1 d h
  obtain ⟨typed, htyped, rfl⟩ := exists_line_of_lines_normalize hl
  rw [line_eq_of_ofLine.1 d hread]
  exact ⟨typed, htyped, hread⟩

/-- **So has the fault of a line that names no directive.** -/
theorem exists_line_of_mem_faults {fault : UnknownDirective}
    (h : fault ∈ (readLines (Text.lines (normalize s)) 1).2) :
    ∃ l, IsLine s fault.line l ∧ readTyped l fault.line = .error fault := by
  obtain ⟨i, l, hl, hread⟩ := (exists_of_mem_readLines _ 1).2 fault h
  obtain ⟨typed, htyped, rfl⟩ := exists_line_of_lines_normalize hl
  rw [line_eq_of_ofLine.2 fault hread]
  exact ⟨typed, htyped, hread⟩

/-- **The line for which a manuscript does not compile** has the number that the fault tells. -/
theorem exists_line_of_compileText {plan : BookPlan} {fault : UnknownDirective}
    (h : compileText plan (String.ofList s) = .error (.unknownDirective fault)) :
    ∃ l, IsLine s fault.line l ∧ readTyped l fault.line = .error fault := by
  rw [compileText_eq_unknownDirective_iff, String.toList_ofList] at h
  refine exists_line_of_mem_faults (List.mem_of_head? ?_)
  rw [← (ofLines_readLines _ 1).1]
  exact h

end

/-! ### The second look -/

section

variable {typed left : List Char} {f : Finding}

/-- **A finding of the second look is placed**, if the lines that it looks at are the lines that
were typed. -/
theorem isPlaced_of_mem_checkMarkup {disk : Disk} {dir : Option String}
    (hlines : ∀ n l', IsLine left n l' → ∃ l, IsLine typed n l)
    (h : f ∈ checkMarkup disk dir (normalize left)) : f.IsPlaced typed left := by
  have hplaced {l' : List Char} (hl' : IsLine left f.line l')
      (htells : ∀ l, f.issue.TellsOf f.line l l') : f.IsPlaced typed left := by
    obtain ⟨l, hl⟩ := hlines _ _ hl'
    exact Or.inr ⟨l, l', hl, hl', htells l⟩
  obtain ⟨⟨ds, faults⟩, hread⟩ :
    ∃ read, readLines (Text.lines (normalize left)) 1 = read := ⟨_, rfl⟩
  have hdirectives : ∀ d ∈ ds, ∃ l', IsLine left d.line l' ∧ readTyped l' d.line = .ok d :=
    fun d hd => exists_line_of_mem_directives (by rw [hread]; exact hd)
  have hfaults : ∀ fault ∈ faults, ∃ l', IsLine left fault.line l'
      ∧ readTyped l' fault.line = .error fault :=
    fun fault hfault => exists_line_of_mem_faults (by rw [hread]; exact hfault)
  rw [checkMarkup, hread] at h
  simp only [List.mem_append] at h
  rcases h with (h | h) | h
  · obtain ⟨fault, hfault, rfl⟩ := List.mem_map.mp h
    obtain ⟨l', hl', hfault⟩ := hfaults fault hfault
    exact hplaced hl' fun _ => hfault
  · obtain ⟨d, hd, h⟩ := List.mem_flatMap.mp h
    obtain ⟨hline, file, hfile, hpicture⟩ := exists_of_mem_checkPictures h
    obtain ⟨l', hl', hread'⟩ := hdirectives d hd
    rw [← hline] at hl' hread'
    refine hplaced hl' fun _ => ?_
    rcases hpicture with ⟨fault, htype, hissue⟩ | ⟨place, hissue⟩
    · rw [hissue]
      exact ⟨d, hread', file, hfile, htype⟩
    · rw [hissue]
      exact ⟨d, hread', hfile⟩
  · split at h
    · simp only [checkStructure, List.mem_append] at h
      rcases h with (h | h) | h
      · obtain ⟨hleftover, rfl⟩ := eq_of_mem_checkLeftover h
        obtain ⟨d, hd, hwrites, hline⟩ := exists_writer_of_leftover hleftover
        obtain ⟨l', hl', hread'⟩ := hdirectives d hd
        rw [hline] at hl' hread'
        exact hplaced hl' fun _ => ⟨d, hread', hwrites⟩
      · obtain ⟨fault, rfl⟩ := exists_of_mem_checkToc h
        exact Or.inl ⟨rfl, rfl⟩
      · obtain ⟨listed, chapters, rfl⟩ := exists_of_mem_checkChapters h
        exact Or.inl ⟨rfl, rfl⟩
    · contradiction

end

/-! ### The first look -/

namespace Linter

/-- The text that a run leaves. -/
def left (l : Linter) (s : List Char) : List Char := if l.fix then mend s else s

/-- What the first look of a run finds. -/
def textFindings (l : Linter) (s : List Char) : List Finding :=
  (if l.fix then removedFindings Blemish.all s else Blemish.all.flatMap (removableFindings s))
    ++ punctuationRules.flatMap (punctuationFindings (l.left s))

end Linter

section

variable {l : Linter} {s : List Char} {f : Finding}

theorem exists_line_of_left {n : Int} {k : List Char} (h : IsLine (l.left s) n k) :
    ∃ typed, IsLine s n typed := by
  unfold Linter.left at h
  split at h
  · obtain ⟨typed, htyped, -⟩ := exists_line_of_foldl_remove Blemish.all h
    exact ⟨typed, htyped⟩
  · exact ⟨k, h⟩

theorem exists_line_left {n : Int} {typed : List Char} (h : IsLine s n typed) :
    ∃ k, IsLine (l.left s) n k := by
  unfold Linter.left
  split
  · exact exists_line_mend h
  · exact ⟨typed, h⟩

/-- **A finding of the first look is placed.** -/
theorem isPlaced_of_mem_textFindings (h : f ∈ l.textFindings s) : f.IsPlaced s (l.left s) := by
  have hplaced {typed : List Char} (htyped : IsLine s f.line typed)
      (htells : ∀ k, f.issue.TellsOf f.line typed k) : f.IsPlaced s (l.left s) := by
    obtain ⟨k, hk⟩ := exists_line_left htyped
    exact Or.inr ⟨typed, k, htyped, hk, htells k⟩
  rcases List.mem_append.mp h with h | h
  · split at h
    · obtain ⟨b, typed, hissue, htyped, hstood⟩ := exists_line_of_mem_removedFindings h
      refine hplaced htyped fun _ => ?_
      rw [hissue]
      exact hstood
    · obtain ⟨b, -, h⟩ := List.mem_flatMap.mp h
      obtain ⟨spot, hspot, rfl⟩ := List.mem_map.mp h
      obtain ⟨typed, htyped, hstands⟩ := exists_line_of_mem_spots hspot
      exact hplaced htyped fun _ => hstands
  · obtain ⟨rule, hrule, h⟩ := List.mem_flatMap.mp h
    obtain ⟨spot, hspot, rfl⟩ := List.mem_map.mp h
    obtain ⟨k, hk, htext, hinfix⟩ := exists_line_of_mem_punctuationSpots hrule hspot
    obtain ⟨typed, htyped⟩ := exists_line_of_left hk
    exact Or.inr ⟨typed, k, htyped, hk, htext, hinfix⟩

end

/-- **The first look finds nothing but characters**, and the second one no characters. -/
theorem concernsCharacters_of_mem_textFindings {l : Linter} {s : List Char} {f : Finding}
    (h : f ∈ l.textFindings s) : f.issue.concernsCharacters = true := by
  rcases List.mem_append.mp h with h | h
  · split at h
    · obtain ⟨b, -, hissue, -⟩ := exists_line_of_mem_removedFindings h
      rw [hissue]
      rfl
    · obtain ⟨b, -, h⟩ := List.mem_flatMap.mp h
      obtain ⟨spot, -, rfl⟩ := List.mem_map.mp h
      rfl
  · obtain ⟨rule, -, h⟩ := List.mem_flatMap.mp h
    obtain ⟨spot, -, rfl⟩ := List.mem_map.mp h
    rfl

theorem concernsCharacters_of_mem_checkMarkup {disk : Disk} {dir : Option String} {s : List Char}
    {f : Finding} (h : f ∈ checkMarkup disk dir s) : f.issue.concernsCharacters = false := by
  simp only [checkMarkup, List.mem_append] at h
  rcases h with (h | h) | h
  · obtain ⟨fault, -, rfl⟩ := List.mem_map.mp h
    rfl
  · obtain ⟨d, -, h⟩ := List.mem_flatMap.mp h
    obtain ⟨-, file, -, ⟨fault, -, hissue⟩ | ⟨place, hissue⟩⟩ := exists_of_mem_checkPictures h
    all_goals
      rw [hissue]
      rfl
  · split at h
    · simp only [checkStructure, List.mem_append] at h
      rcases h with (h | h) | h
      · rw [(eq_of_mem_checkLeftover h).2]
        rfl
      · obtain ⟨fault, rfl⟩ := exists_of_mem_checkToc h
        rfl
      · obtain ⟨listed, chapters, rfl⟩ := exists_of_mem_checkChapters h
        rfl
    · contradiction

theorem findings_foldl_checkBlemish_fix (kinds : List Blemish) (r : Report) (s : List Char) :
    (kinds.foldl (fun p b => checkBlemish true b p.1 p.2) (r, s)).1.findings
      = r.findings ++ removedFindings kinds s := by
  induction kinds generalizing r s with
  | nil => exact (List.append_nil _).symm
  | cons b kinds ih =>
    have hleft : (checkBlemish true b r s).2 = b.remove s := (checkBlemish_fix b r s).1
    have hfound : (checkBlemish true b r s).1.findings
        = r.findings ++ (b.spots s).map fun spot => ⟨spot.line, .removed b⟩ :=
      Report.findings_addAll ..
    rw [List.foldl_cons, ih, hleft, hfound, removedFindings, List.append_assoc]

/-- **The first look of a run**, whether it removes anything or not. -/
theorem checkText_eq (l : Linter) (r : Report) (s : List Char) :
    (checkText l.fix r s).2 = l.left s
      ∧ (checkText l.fix r s).1.findings = r.findings ++ l.textFindings s := by
  cases hfix : l.fix with
  | false =>
    have hleft : l.left s = s := by rw [Linter.left, hfix, if_neg Bool.false_ne_true]
    rw [Linter.textFindings, hleft, hfix, if_neg Bool.false_ne_true]
    exact checkText_false r s
  | true =>
    have hleft : l.left s = mend s := by rw [Linter.left, hfix, if_pos rfl]
    have hmend : (checkBlemishes true r s).2 = mend s := (foldl_checkBlemish_fix _ r s).1
    have hfound := findings_foldl_checkBlemish_fix Blemish.all r s
    rw [Linter.textFindings, hleft, hfix, if_pos rfl]
    refine ⟨hmend, ?_⟩
    simp only [checkText, hmend, findings_foldl_checkRule]
    rw [checkBlemishes, hfound, List.append_assoc]

/-! ### Runs -/

section

variable {l : Linter} {disk : Disk} {bs : Text.Bytes} {s : List Char}

/-- **What any run leaves behind** if the file holds a text: the text that is left, and the findings
of both looks, the second of which is at the text that is left. -/
theorem exists_run (hread : disk.read l.path = .ok bs) (hdecode : Text.decode bs = .ok s)
    (r : Report) :
    ∃ run, l.run disk r = .ok run ∧ l.save disk s (l.left s) = .ok run.disk
      ∧ run.report.findings = r.findings
        ++ (l.textFindings s ++ checkMarkup run.disk l.pictureDir (normalize (l.left s))) := by
  obtain ⟨hleft, hfound⟩ := checkText_eq l r s
  obtain ⟨disk', hsave⟩ : ∃ disk', l.save disk s (l.left s) = .ok disk' := by
    cases hfix : l.fix with
    | false => exact ⟨disk, by simp [Linter.save, hfix]⟩
    | true =>
      obtain ⟨disk', hsave, -⟩ := exists_save hfix hread hdecode (l.left s)
      exact ⟨disk', hsave⟩
  have hcheck : l.check disk r s = .ok
      { disk := disk'
        report := (checkText l.fix r s).1.addAll
          (checkMarkup disk' l.pictureDir (normalize (l.left s)))
        records := markupRecords (normalize (l.left s)) } := by
    unfold Linter.check
    simp only [hleft, hsave]
    rfl
  refine ⟨_, (run_eq_check hread hdecode r).trans hcheck, hsave, ?_⟩
  rw [Report.findings_addAll, hfound, List.append_assoc]

/-- **Every finding of a run is placed.** -/
theorem isPlaced_of_run {dir : Option String} {disk : Disk} {f : Finding}
    (h : f ∈ l.textFindings s ++ checkMarkup disk dir (normalize (l.left s))) :
    f.IsPlaced s (l.left s) := by
  rcases List.mem_append.mp h with h | h
  · exact isPlaced_of_mem_textFindings h
  · exact isPlaced_of_mem_checkMarkup (fun _ _ => exists_line_of_left) h

/-- A run that removes nothing leaves all files as they are, whatever the manuscript holds. -/
theorem disk_of_run_check {r : Report} {run : Run} (hfix : l.fix = false)
    (h : l.run disk r = .ok run) : run.disk = disk := by
  unfold Linter.run at h
  split at h
  · contradiction
  · contradiction
  · split at h
    · obtain rfl := Except.ok.inj h
      rfl
    · simp only [Linter.check, Linter.save, hfix] at h
      obtain rfl := Except.ok.inj h
      rfl

end

/-! ### Punctuation and lines -/

/-- **The rewriting of punctuation moves no line.**  Every longest run of dots is set as ellipses
and at most two dots, every other character in its full-width form or as it is, and a text that is
set stays as it is.  The lines of the text that is set are the lines of the text, each set by
itself.  So the line for which a manuscript does not compile has the number that the fault tells,
and every finding of a run is placed. -/
theorem normalize_keepsLines (s : List Char) :
    normalize s = (runs s).flatMap setRun
      ∧ normalize (normalize s) = normalize s
      ∧ Text.lines (normalize s) = (Text.lines s).map normalize
      ∧ (∀ plan fault, compileText plan (String.ofList s) = .error (.unknownDirective fault) →
          ∃ typed, IsLine s fault.line typed ∧ readTyped typed fault.line = .error fault)
      ∧ ∀ (l : Linter) disk bs, disk.read l.path = .ok bs → Text.decode bs = .ok s →
          ∀ r, ∃ run found, l.run disk r = .ok run ∧ run.report.findings = r.findings ++ found
            ∧ ∀ f ∈ found, f.IsPlaced s (l.left s) := by
  refine ⟨normalize_eq_flatMap s, normalize_normalize s, lines_normalize s,
    fun plan fault => exists_line_of_compileText, fun l disk bs hread hdecode r => ?_⟩
  obtain ⟨run, hrun, -, hfindings⟩ := exists_run hread hdecode r
  exact ⟨run, _, hrun, hfindings, fun f => isPlaced_of_run⟩

/-- Four dots, and behind them a line that names no directive. -/
def dotsAndUnknown : List Char := "か....に?\r\n#nowhere,A#\n".toList

theorem keepsLines_dotsAndUnknown :
    normalize dotsAndUnknown = "か….に？\r\n#nowhere,A#\n".toList
      ∧ (∃ typed, IsLine dotsAndUnknown 2 typed
        ∧ readTyped typed 2 = .error { name := "nowhere", line := 2 })
      ∧ ∃ run found, Linter.run { path := "raw.txt" } (diskWith (Text.encode dotsAndUnknown)) {}
          = .ok run
        ∧ run.report.findings = found ∧ ∀ f ∈ found, f.IsPlaced dotsAndUnknown dotsAndUnknown := by
  have hcompile : compileText Book.slimPlan (String.ofList dotsAndUnknown)
      = .error (.unknownDirective { name := "nowhere", line := 2 }) := by
    have hread : Directive.ofText (normalize dotsAndUnknown)
        = ([{ command := .text, argument := "か….に？", line := 1 }],
          some { name := "nowhere", line := 2 }) := by
      cbv
    rw [compileText_eq_unknownDirective_iff, String.toList_ofList, hread]
  obtain ⟨-, -, -, hfault, hruns⟩ := normalize_keepsLines dotsAndUnknown
  obtain ⟨run, found, hrun, hfindings, hplaced⟩ :=
    hruns { path := "raw.txt" } _ _ (read_diskWith _) (Text.decode_encode _) {}
  exact ⟨by cbv, hfault _ _ hcompile, run, found, hrun, hfindings, hplaced⟩

/-! ### Runs that fix -/

section

variable {l : Linter} {disk : Disk} {bs : Text.Bytes} {s : List Char}

/-- **A run that fixes goes line by line and only deletes.**  It leaves a text with as many line
feeds, each line of which is the line that was typed, the first one without a byte order mark at its
beginning, without carriage returns and tabs, then without the spaces at its end, and then without
characters that have no width.  The file is written if this is another text, and only then.  The
second look is at the text that the file now holds, and every finding is placed.  A run that fixes
nothing changes no file at all. -/
theorem run_fix_byLines (hfix : l.fix = true) (hread : disk.read l.path = .ok bs)
    (hdecode : Text.decode bs = .ok s) (r : Report) :
    ∃ run, l.run disk r = .ok run
      ∧ (∃ bs', run.disk.read l.path = .ok bs' ∧ Text.decode bs' = .ok (mend s))
      ∧ (mend s).count '\n' = s.count '\n'
      ∧ Text.splitOn '\n' (mend s)
        = ((Text.splitOn '\n' s).modifyHead Blemish.byteOrderMark.remove).map mendLine
      ∧ (mend s).Sublist s
      ∧ (mend s = s → run.disk = disk)
      ∧ (mend s ≠ s → disk.write l.path (.bytes (Text.encode (mend s))) = .ok run.disk)
      ∧ (∃ found, run.report.findings = r.findings ++ found
        ∧ found = l.textFindings s ++ checkMarkup run.disk l.pictureDir (normalize (mend s))
        ∧ ∀ f ∈ found, f.IsPlaced s (mend s))
      ∧ ∀ (l' : Linter) disk' r' run', l'.fix = false → l'.run disk' r' = .ok run' →
          run'.disk = disk' := by
  have hleft : l.left s = mend s := by rw [Linter.left, hfix, if_pos rfl]
  obtain ⟨run, hrun, hsave, hfindings⟩ := exists_run hread hdecode r
  rw [hleft] at hsave hfindings
  obtain ⟨disk', hsave', hsame, hfile⟩ := exists_save hfix hread hdecode (mend s)
  obtain rfl := Except.ok.inj (hsave.symm.trans hsave')
  exact ⟨run, hrun, hfile, count_mend s, splitOn_mend_lines s, foldl_remove_sublist _ s, hsame,
    fun hne => write_of_save hfix hne hsave,
    ⟨_, hfindings, rfl, fun f hf => hleft ▸ isPlaced_of_run (hleft.symm ▸ hf)⟩,
    fun l' disk' r' run' => disk_of_run_check⟩

end

theorem run_typedElsewhere_byLines :
    ∃ run, fixer.run (diskWith (Text.encode typedElsewhere)) {} = .ok run
      ∧ (∃ bs', run.disk.read fixer.path = .ok bs'
        ∧ Text.decode bs' = .ok "本文\nつづき\n#end-copyright#\n".toList)
      ∧ (diskWith (Text.encode typedElsewhere)).write fixer.path
          (.bytes (Text.encode "本文\nつづき\n#end-copyright#\n".toList)) = .ok run.disk
      ∧ ∀ f ∈ run.report.findings,
          f.IsPlaced typedElsewhere "本文\nつづき\n#end-copyright#\n".toList := by
  have hmended : mend typedElsewhere = "本文\nつづき\n#end-copyright#\n".toList := by
    decide
  have hdiffers : mend typedElsewhere ≠ typedElsewhere := by
    rw [hmended]
    decide
  obtain ⟨run, hrun, hfile, -, -, -, -, hwrite, ⟨found, hfindings, -, hplaced⟩, -⟩ :=
    run_fix_byLines (l := fixer) rfl (read_diskWith _) (Text.decode_encode typedElsewhere) {}
  obtain rfl : run.report.findings = found := hfindings.trans (List.nil_append _)
  exact ⟨run, hrun, hmended ▸ hfile, hmended ▸ hwrite hdiffers, hmended ▸ hplaced⟩

end Kumihan.Lint
