import Kumihan.Proofs.Files.Disk
import Kumihan.Proofs.Lint.Agreement
import Kumihan.Proofs.Lint.Mending

/-!
# Runs that fix

A run that fixes mends the manuscript and writes it if anything was removed.  One more run finds
something to fix exactly if the manuscript does not settle; it then changes the file again.

## Main results

* `exists_run_fix` — what a run that fixes leaves behind.
* `run_fix_again` — **when a second run has nothing left to fix.**
* `exists_fix_unfinished` — there are manuscripts that one run does not finish.
-/

namespace Kumihan.Lint

open Files (Disk)
open Markup (PunctuationRule normalize punctuationRules)

/-! ### The count of fixes -/

/-- What no single finding changes, no list of findings changes. -/
theorem Report.addAll_unchanged {α : Type} {field : Report → α}
    (hadd : ∀ r line issue, field (r.add line issue) = field r) (r : Report) (fs : List Finding) :
    field (r.addAll fs) = field r := by
  induction fs generalizing r with
  | nil => rfl
  | cons f fs ih => rw [addAll, List.foldl_cons, ← addAll, ih, hadd]

theorem Report.fixes_addAll (r : Report) (fs : List Finding) : (r.addAll fs).fixes = r.fixes := by
  refine addAll_unchanged (fun r line issue => ?_) r fs
  unfold add
  cases issue.severity <;> rfl

theorem Report.fixable_addAll (r : Report) (fs : List Finding) :
    (r.addAll fs).fixable = r.fixable := by
  refine addAll_unchanged (fun r line issue => ?_) r fs
  unfold add
  cases issue.severity <;> rfl

/-- **One kind of blemish** is removed, and every spot of it counts as a fix. -/
theorem checkBlemish_fix (b : Blemish) (r : Report) (s : List Char) :
    (checkBlemish true b r s).2 = b.remove s
      ∧ (checkBlemish true b r s).1.fixes = r.fixes + (b.spots s).length := by
  have hleft : (if (b.spots s).isEmpty then s else b.remove s) = b.remove s := by
    by_cases h : b.spots s = []
    · rw [if_pos (List.isEmpty_iff.mpr h), remove_eq_self_iff.mpr h]
    · rw [if_neg (mt List.isEmpty_iff.mp h)]
  refine ⟨hleft, ?_⟩
  show (if (if (b.spots s).isEmpty then s else b.remove s) = s then (r.addAll _).fixes
    else (r.addAll _).fixes + _) = _
  rw [hleft, Report.fixes_addAll]
  -- the text stays the same only if there is nothing to remove
  by_cases h : b.spots s = []
  · rw [if_pos (remove_eq_self_iff.mpr h), h, List.length_nil, Nat.add_zero]
  · rw [if_neg (mt remove_eq_self_iff.mp h)]

/-- **Some kinds of blemishes**, one after the other.  The induction is on the kinds; where one
of them has a spot, the count has grown for good. -/
theorem foldl_checkBlemish_fix (kinds : List Blemish) (r : Report) (s : List Char) :
    (kinds.foldl (fun p b => checkBlemish true b p.1 p.2) (r, s)).2
        = kinds.foldl (fun t b => b.remove t) s
      ∧ r.fixes ≤ (kinds.foldl (fun p b => checkBlemish true b p.1 p.2) (r, s)).1.fixes
      ∧ ((kinds.foldl (fun p b => checkBlemish true b p.1 p.2) (r, s)).1.fixes = r.fixes
        ↔ ∀ b ∈ kinds, b.spots s = []) := by
  induction kinds generalizing r s with
  | nil => simp
  | cons b kinds ih =>
    obtain ⟨r₁, hone, hfixes⟩ : ∃ r₁, checkBlemish true b r s = (r₁, b.remove s)
        ∧ r₁.fixes = r.fixes + (b.spots s).length := by
      obtain ⟨hleft, hfixes⟩ := checkBlemish_fix b r s
      exact ⟨_, Prod.ext rfl hleft, hfixes⟩
    obtain ⟨hrest, hle, hiff⟩ := ih r₁ (b.remove s)
    rw [List.foldl_cons, List.foldl_cons, List.forall_mem_cons, hone]
    refine ⟨hrest, by omega, ?_⟩
    by_cases hb : b.spots s = []
    · rw [hb, List.length_nil, Nat.add_zero] at hfixes
      rw [← hfixes, hiff, remove_eq_self_iff.mpr hb]
      exact (and_iff_right hb).symm
    · have hpos := List.length_pos_iff.mpr hb
      refine iff_of_false (fun h => ?_) fun h => hb h.1
      omega

theorem fixes_foldl_checkRule (rules : List PunctuationRule) (r : Report) (s : List Char) :
    (rules.foldl (checkRule s) r).fixes = r.fixes := by
  induction rules generalizing r with
  | nil => rfl
  | cons rule rules ih => rw [List.foldl_cons, ih, checkRule, Report.fixes_addAll]

/-- **The first look of a run that fixes** mends the text, and counts nothing exactly if there is
nothing to mend. -/
theorem checkText_fix (r : Report) (s : List Char) :
    (checkText true r s).2 = mend s
      ∧ ((checkText true r s).1.fixes = r.fixes ↔ ∀ b ∈ Blemish.all, b.spots s = []) := by
  obtain ⟨hleft, -, hiff⟩ := foldl_checkBlemish_fix Blemish.all r s
  refine ⟨hleft, ?_⟩
  rw [← hiff]
  show (punctuationRules.foldl (checkRule _) (checkBlemishes true r s).1).fixes = r.fixes ↔ _
  rw [fixes_foldl_checkRule]
  exact Iff.rfl

/-! ### Runs -/

section

variable {l : Linter} {disk : Disk} {bs : Text.Bytes} {s : List Char}

/-- The mended text is in the file, which is only written if it is another one. -/
theorem exists_save (hfix : l.fix = true) (hread : disk.read l.path = .ok bs)
    (hdecode : Text.decode bs = .ok s) (left : List Char) :
    ∃ disk', l.save disk s left = .ok disk' ∧ (left = s → disk' = disk)
      ∧ ∃ bs', disk'.read l.path = .ok bs' ∧ Text.decode bs' = .ok left := by
  by_cases h : left = s
  · subst h
    exact ⟨disk, by simp [Linter.save], fun _ => rfl, bs, hread, hdecode⟩
  · obtain ⟨disk', hwrite⟩ :=
      Disk.exists_write_of_read hread (.bytes (Text.encode left))
    refine ⟨disk', ?_, fun heq => absurd heq h, Text.encode left, Disk.read_of_write hwrite,
      Text.decode_encode left⟩
    have hdiffers : (s != left) = true := by simpa using Ne.symm h
    rw [Linter.save, hfix, hdiffers, hwrite]
    rfl

theorem write_of_save {left : List Char} {disk' : Disk} (hfix : l.fix = true) (hne : left ≠ s)
    (h : l.save disk s left = .ok disk') :
    disk.write l.path (.bytes (Text.encode left)) = .ok disk' := by
  have hdiffers : (s != left) = true := by simpa using Ne.symm hne
  rw [Linter.save, hfix, hdiffers, Bool.and_true, if_pos rfl] at h
  cases hwrite : disk.write l.path (.bytes (Text.encode left)) with
  | error fault =>
    rw [hwrite] at h
    contradiction
  | ok written =>
    rw [hwrite] at h
    obtain rfl := Except.ok.inj h
    rfl

/-- **A run that fixes** leaves the mended text in the file. -/
theorem exists_run_fix (hfix : l.fix = true) (hread : disk.read l.path = .ok bs)
    (hdecode : Text.decode bs = .ok s) (r : Report) :
    ∃ run, l.run disk r = .ok run ∧ (mend s = s → run.disk = disk)
      ∧ (∃ bs', run.disk.read l.path = .ok bs' ∧ Text.decode bs' = .ok (mend s))
      ∧ (run.report.fixes = r.fixes ↔ ∀ b ∈ Blemish.all, b.spots s = []) := by
  obtain ⟨hleft, hcount⟩ := checkText_fix r s
  obtain ⟨disk', hsave, hsame, hfile⟩ := exists_save hfix hread hdecode (mend s)
  have hcheck : l.check disk r s = .ok
      { disk := disk'
        report := (checkText true r s).1.addAll
          (checkMarkup disk' l.pictureDir (normalize (mend s)))
        records := markupRecords (normalize (mend s)) } := by
    unfold Linter.check
    simp only [hfix, hleft, hsave]
    rfl
  refine ⟨_, (run_eq_check hread hdecode r).trans hcheck, hsame, hfile, ?_⟩
  rw [Report.fixes_addAll, hcount]

/-- **After a run that fixes**, no loose character is left in the manuscript, and no blemish at
all exactly if it settles.  A second run then fixes nothing and leaves the file as it is, and
otherwise it does neither. -/
theorem run_fix_again (hfix : l.fix = true) (hread : disk.read l.path = .ok bs)
    (hdecode : Text.decode bs = .ok s) (r r' : Report) :
    ∃ run bs' run', l.run disk r = .ok run
      ∧ run.disk.read l.path = .ok bs' ∧ Text.decode bs' = .ok (mend s)
      ∧ l.run run.disk r' = .ok run'
      ∧ (∀ c ∈ mend s, isLoose c = false)
      ∧ ((∀ b ∈ Blemish.all, b.spots (mend s) = []) ↔ Settles s)
      ∧ (run'.report.fixes = r'.fixes ↔ Settles s)
      ∧ (run'.disk.read l.path = .ok bs' ↔ Settles s)
      ∧ (Settles s → run'.disk = run.disk) := by
  obtain ⟨run, hrun, -, ⟨bs', hfile, htext⟩, -⟩ := exists_run_fix hfix hread hdecode r
  obtain ⟨run', hrun', hsame, ⟨bs'', hfile', htext'⟩, hcount⟩ :=
    exists_run_fix hfix hfile htext r'
  have hsettles : mend (mend s) = mend s ↔ Settles s := mend_eq_self_iff.trans spots_mend_iff
  refine ⟨run, bs', run', hrun, hfile, htext, hrun', fun c => isLoose_of_mem_mend,
    spots_mend_iff, hcount.trans spots_mend_iff, ?_, fun h => hsame (hsettles.mpr h)⟩
  constructor
  · intro h
    obtain rfl := Except.ok.inj (hfile'.symm.trans h)
    exact hsettles.mp (Except.ok.inj (htext'.symm.trans htext))
  · intro h
    rw [hsame (hsettles.mpr h), hfile]

end

/-! ### Two manuscripts -/

/-- What is asked of a linter that fixes the one manuscript there is. -/
def fixer : Linter := { path := "raw.txt", fix := true }

/-- A mark at the beginning, spaces before a carriage return and a tab. -/
def typedElsewhere : List Char := "\uFEFF本文 \r\n\tつづき\n#end-copyright#\n".toList

theorem run_typedElsewhere :
    ∃ run bs' run', fixer.run (diskWith (Text.encode typedElsewhere)) {} = .ok run
      ∧ run.disk.read fixer.path = .ok bs'
      ∧ Text.decode bs' = .ok "本文\nつづき\n#end-copyright#\n".toList
      ∧ fixer.run run.disk {} = .ok run' ∧ run'.report.fixes = 0 ∧ run'.disk = run.disk := by
  have hmended : mend typedElsewhere = "本文\nつづき\n#end-copyright#\n".toList := by
    decide +kernel
  have hsettles : Settles typedElsewhere := spots_mend_iff.mp (by decide +kernel)
  obtain ⟨run, bs', run', hrun, hfile, htext, hrun', -, -, hfixes, -, hsame⟩ :=
    run_fix_again (l := fixer) rfl (read_diskWith _) (Text.decode_encode typedElsewhere) {} {}
  exact ⟨run, bs', run', hrun, hfile, hmended ▸ htext, hrun', hfixes.mpr hsettles, hsame hsettles⟩

/-- A space before a character without a width, at the end of a line. -/
def hiddenSpace : List Char := "a \u200B\n#end-copyright#\n".toList

/-- **One run does not finish every manuscript.**  The space at the end of the first line is left,
for nothing but the character behind it is removed; a second run removes it. -/
theorem exists_fix_unfinished :
    ∃ run bs' run', fixer.run (diskWith (Text.encode hiddenSpace)) {} = .ok run
      ∧ run.disk.read fixer.path = .ok bs'
      ∧ Text.decode bs' = .ok "a \n#end-copyright#\n".toList
      ∧ Blemish.trailingSpaces.spots "a \n#end-copyright#\n".toList ≠ []
      ∧ fixer.run run.disk {} = .ok run'
      ∧ run'.report.fixes ≠ 0 ∧ run'.disk.read fixer.path ≠ .ok bs' := by
  have hmended : mend hiddenSpace = "a \n#end-copyright#\n".toList := by decide +kernel
  have hleft : Blemish.trailingSpaces.spots (mend hiddenSpace) ≠ [] := by decide +kernel
  have hspots : ¬ ∀ b ∈ Blemish.all, b.spots (mend hiddenSpace) = [] := fun h =>
    hleft (h _ (by decide))
  obtain ⟨run, hrun, -, ⟨bs', hfile, htext⟩, -⟩ := exists_run_fix (l := fixer) rfl
    (read_diskWith _) (Text.decode_encode hiddenSpace) {}
  obtain ⟨run', hrun', -, ⟨bs'', hfile', htext'⟩, hcount⟩ :=
    exists_run_fix (l := fixer) rfl hfile htext {}
  refine ⟨run, bs', run', hrun, hfile, hmended ▸ htext, hmended ▸ hleft, hrun',
    mt hcount.mp hspots, fun h => ?_⟩
  obtain rfl := Except.ok.inj (hfile'.symm.trans h)
  exact hspots (mend_eq_self_iff.mp (Except.ok.inj (htext'.symm.trans htext)))

end Kumihan.Lint
