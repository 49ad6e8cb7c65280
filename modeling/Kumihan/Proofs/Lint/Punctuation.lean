import Kumihan.Proofs.Lint.LineNumbers
import Kumihan.Proofs.Lint.Promise

/-!
# Punctuation that is announced

A linter looks for every rule of punctuation in the text as it was typed.  The rewriting applies one
rule after the other, each to what the ones before it have left.  Both come to the same places: no
rule reads or writes a character of what another one reads, and none adds or takes away a line feed.

## Main definitions

* `Change`, `replaceWatched`, `applyWatched` — the rewriting, watched: every replacement that it
  makes, in the order in which they are made.
* `Apart` — no rule reads or writes a part of what another one reads.

## Main results

* `replaceWatched_eq` — one rule replaces what a linter looks for, in the text that it is given.
* `occurrenceSpots_replaceAll` — **a replacement leaves the places of another pattern as they are.**
* `applyWatched_eq` — the replacements of all rules.
* `run_punctuation` — **a run announces the replacements that are made.**
-/

namespace Kumihan.Lint

open Files (Disk)
open Markup (PunctuationRule Untouched inert_feed normalize normalize_of_not_infix
  not_infix_applyAll_of_mem punctuationRules untouched_ascii)
open Text (replaceAll)

/-! ### The rewriting, watched -/

/-- A replacement of punctuation. -/
structure Change where
  /-- The rule that is applied. -/
  rule : PunctuationRule
  /-- The number of the line. -/
  line : Nat

/-- What a linter tells of a replacement. -/
def Change.finding (change : Change) : Finding :=
  ⟨change.line, .punctuation change.rule change.rule.ascii⟩

/-- Every occurrence of `pat` written as `rep`, and the number of the line of each, the first line
having the number `line`. -/
def replaceWatched (pat rep : List Char) (line : Nat) (s : List Char) : List Char × List Nat :=
  if _hpat : pat = [] then (s, [])
  else match _h : Text.cut? pat s with
    | none => (s, [])
    | some (before, after) =>
      let line := line + before.count '\n'
      let rest := replaceWatched pat rep (line + pat.count '\n') after
      (before ++ rep ++ rest.1, line :: rest.2)
termination_by s.length
decreasing_by exact Text.length_lt_of_cut? _hpat _h

/-- Rules applied one after the other, and the replacements that they make. -/
def applyWatched : List PunctuationRule → List Char → List Char × List Change
  | [], s => (s, [])
  | rule :: rules, s =>
    let first := replaceWatched rule.ascii rule.fullWidth 1 s
    let rest := applyWatched rules first.1
    (rest.1, first.2.map (⟨rule, ·⟩) ++ rest.2)

section

variable {pat rep s : List Char} {n : Nat}

/-- **One rule replaces what a linter looks for**, in the text that it is given. -/
theorem replaceWatched_eq : replaceWatched pat rep n s
    = (replaceAll pat rep s, (occurrenceSpots pat n s).map (·.line)) := by
  induction hlen : s.length using Nat.strongRecOn generalizing s n with
  | ind len ih =>
    rw [replaceWatched]
    split
    · next hpat => rw [replaceAll, dif_pos hpat, occurrenceSpots, dif_pos hpat, List.map_nil]
    · next hpat =>
      split
      · next hcut =>
        rw [Text.replaceAll_of_cut?_eq_none hcut, occurrenceSpots_of_cut?_eq_none hcut,
          List.map_nil]
      · next before after hcut =>
        have hlt := Text.length_lt_of_cut? hpat hcut
        simp only [ih after.length (hlen ▸ hlt) rfl]
        rw [Text.replaceAll_of_cut?_eq_some hpat hcut, occurrenceSpots_of_cut?_eq_some hpat hcut,
          List.map_cons]

theorem occurrenceSpots_nil (hpat : pat ≠ []) : occurrenceSpots pat n [] = [] :=
  occurrenceSpots_of_cut?_eq_none (Text.cut?_eq_none_iff.mpr (by simpa using hpat))

/-- Some characters that are not in the pattern part a text like one. -/
theorem occurrenceSpots_append_append {sep : List Char} (hpat : pat ≠ []) (hsep : sep ≠ [])
    (hout : ∀ e ∈ sep, e ∉ pat) (n : Nat) (x y : List Char) :
    occurrenceSpots pat n (x ++ sep ++ y)
      = occurrenceSpots pat n x ++ occurrenceSpots pat (n + (x ++ sep).count '\n') y := by
  induction sep generalizing n x with
  | nil => exact absurd rfl hsep
  | cons e sep ih =>
    have he := hout e List.mem_cons_self
    rw [List.append_assoc, List.cons_append, occurrenceSpots_append_cons hpat he]
    cases sep with
    | nil => rw [List.nil_append]
    | cons d sep =>
      have hrest := ih (List.cons_ne_nil d sep) (fun c hc => hout c (List.mem_cons_of_mem e hc))
        (n + (x ++ [e]).count '\n') []
      rw [List.nil_append, occurrenceSpots_nil hpat, List.nil_append] at hrest
      rw [hrest, Nat.add_assoc, ← List.count_append, List.append_assoc, List.singleton_append]

/-- **A replacement leaves the places of another pattern as they are**, if this has no character of
what is replaced or written.  The induction takes one replacement after the other. -/
theorem occurrenceSpots_replaceAll {w : List Char} (hw : w ≠ []) (hrep : rep ≠ [])
    (hread : ∀ e ∈ pat, e ∉ w) (hwrite : ∀ e ∈ rep, e ∉ w)
    (hcount : pat.count '\n' = rep.count '\n') (n : Nat) (s : List Char) :
    occurrenceSpots w n (replaceAll pat rep s) = occurrenceSpots w n s := by
  induction hlen : s.length using Nat.strongRecOn generalizing s n with
  | ind len ih =>
    by_cases hpat : pat = []
    · rw [replaceAll, dif_pos hpat]
    cases hcut : Text.cut? pat s with
    | none => rw [Text.replaceAll_of_cut?_eq_none hcut]
    | some p =>
      obtain ⟨before, after⟩ := p
      have hlt := Text.length_lt_of_cut? hpat hcut
      rw [Text.replaceAll_of_cut?_eq_some hpat hcut, Text.cut?_eq_append hcut,
        occurrenceSpots_append_append hw hrep hwrite, occurrenceSpots_append_append hw hpat hread,
        ih after.length (hlen ▸ hlt) _ after rfl, List.count_append, List.count_append, hcount]

/-- What is found of a pattern is the pattern. -/
theorem text_of_mem_occurrenceSpots {spot : Spot} (h : spot ∈ occurrenceSpots pat n s) :
    spot.text = pat := by
  induction hlen : s.length using Nat.strongRecOn generalizing s n with
  | ind len ih =>
    by_cases hpat : pat = []
    · rw [occurrenceSpots, dif_pos hpat] at h
      contradiction
    cases hcut : Text.cut? pat s with
    | none =>
      rw [occurrenceSpots_of_cut?_eq_none hcut] at h
      contradiction
    | some p =>
      obtain ⟨before, after⟩ := p
      rw [occurrenceSpots_of_cut?_eq_some hpat hcut] at h
      rcases List.mem_cons.mp h with rfl | h
      · rfl
      · exact ih after.length (hlen ▸ Text.length_lt_of_cut? hpat hcut) h rfl

theorem occurrenceSpots_eq_nil_iff (hpat : pat ≠ []) :
    occurrenceSpots pat n s = [] ↔ ¬ pat <:+: s := by
  rw [← Text.cut?_eq_none_iff]
  constructor
  · intro h
    cases hcut : Text.cut? pat s with
    | none => rfl
    | some p =>
      rw [occurrenceSpots_of_cut?_eq_some hpat hcut] at h
      contradiction
  · exact occurrenceSpots_of_cut?_eq_none

end

/-! ### All rules -/

/-- No rule reads or writes a part of what a later one reads. -/
def Apart (rules : List PunctuationRule) : Prop :=
  rules.Pairwise fun rule later =>
    Text.isFree later.ascii rule.ascii = true ∧ Text.isFree later.ascii rule.fullWidth = true

theorem apart_punctuationRules : Apart punctuationRules := by
  unfold Apart
  decide

/-- **The replacements of some rules** are made where each of them is found in the text that they
are given.  The induction is on the rules; what the first one writes, the later ones do not read. -/
theorem applyWatched_eq {rules : List PunctuationRule} (hapart : Apart rules)
    (hfeed : Markup.Inert '\n' rules) (s : List Char) :
    applyWatched rules s
      = (rules.foldl (fun t rule => rule.apply t) s,
        rules.flatMap fun rule => (punctuationSpots rule s).map fun spot => ⟨rule, spot.line⟩) := by
  induction rules generalizing s with
  | nil => rfl
  | cons rule rules ih =>
    obtain ⟨hfirst, hrest⟩ := List.pairwise_cons.mp hapart
    obtain ⟨hne, hwrites⟩ := hfeed.1 rule List.mem_cons_self
    have hcount : rule.ascii.count '\n' = rule.fullWidth.count '\n' := by
      rw [List.count_eq_zero.mpr (hfeed.2 rule List.mem_cons_self).2, List.count_eq_zero.mpr]
      exact fun hmem => Text.notMem_of_isFree hwrites _ hmem List.mem_cons_self
    have hsame : ∀ later ∈ rules, punctuationSpots later (rule.apply s)
        = punctuationSpots later s := fun later hlater =>
      occurrenceSpots_replaceAll (hfeed.2 later (List.mem_cons_of_mem rule hlater)).1 hne
        (Text.notMem_of_isFree (hfirst later hlater).1)
        (Text.notMem_of_isFree (hfirst later hlater).2) hcount 1 s
    have hfeedRest : Markup.Inert '\n' rules :=
      ⟨fun r hr => hfeed.1 r (List.mem_cons_of_mem rule hr),
        fun r hr => hfeed.2 r (List.mem_cons_of_mem rule hr)⟩
    have hlater := ih hrest hfeedRest (rule.apply s)
    rw [List.flatMap_congr fun later hmem => by rw [hsame later hmem]] at hlater
    have hone : replaceWatched rule.ascii rule.fullWidth 1 s
        = (rule.apply s, (punctuationSpots rule s).map (·.line)) := replaceWatched_eq
    simp only [applyWatched, hone, hlater, List.foldl_cons, List.flatMap_cons, List.map_map]
    rfl

/-- **The replacements that the rewriting makes.** -/
theorem applyWatched_punctuationRules (s : List Char) :
    applyWatched punctuationRules s
      = (normalize s, punctuationRules.flatMap fun rule =>
          (punctuationSpots rule s).map fun spot => ⟨rule, spot.line⟩) :=
  applyWatched_eq apart_punctuationRules inert_feed s

/-- **A text stays as it is exactly if nothing is replaced in it.** -/
theorem changes_eq_nil_iff {s : List Char} :
    (applyWatched punctuationRules s).2 = [] ↔ normalize s = s := by
  have hnil : (applyWatched punctuationRules s).2 = []
      ↔ ∀ rule ∈ punctuationRules, ¬ rule.ascii <:+: s := by
    rw [applyWatched_punctuationRules, List.flatMap_eq_nil_iff]
    refine forall₂_congr fun rule hrule => ?_
    rw [List.map_eq_nil_iff]
    exact occurrenceSpots_eq_nil_iff (inert_feed.2 rule hrule).1
  rw [hnil]
  constructor
  · exact normalize_of_not_infix
  · intro hsame rule hrule
    rw [← hsame]
    exact not_infix_applyAll_of_mem untouched_ascii hrule s

/-! ### Findings that only inform -/

/-- The finding only informs. -/
def Finding.isInfo (f : Finding) : Bool := f.issue.severity = .info

/-- **What the first look informs of** are the replacements. -/
theorem filter_isInfo_textFindings (s : List Char) :
    (textFindings s).filter Finding.isInfo
      = (applyWatched punctuationRules s).2.map Change.finding := by
  have hblemishes : (Blemish.all.flatMap (removableFindings s)).filter Finding.isInfo = [] := by
    refine List.filter_eq_nil_iff.mpr fun f hf => ?_
    obtain ⟨b, -, hf⟩ := List.mem_flatMap.mp hf
    obtain ⟨spot, -, rfl⟩ := List.mem_map.mp hf
    cases b <;> exact Bool.false_ne_true
  have hrules : (punctuationRules.flatMap (punctuationFindings s)).filter Finding.isInfo
      = punctuationRules.flatMap (punctuationFindings s) := by
    refine List.filter_eq_self.mpr fun f hf => ?_
    obtain ⟨rule, -, hf⟩ := List.mem_flatMap.mp hf
    obtain ⟨spot, -, rfl⟩ := List.mem_map.mp hf
    rfl
  rw [textFindings, List.filter_append, hblemishes, hrules, List.nil_append,
    applyWatched_punctuationRules, List.map_flatMap]
  refine List.flatMap_congr fun rule _ => ?_
  rw [punctuationFindings, List.map_map]
  refine List.map_congr_left fun spot hspot => ?_
  rw [text_of_mem_occurrenceSpots hspot]
  rfl

/-- The second look informs of nothing: it tells of no characters. -/
theorem filter_isInfo_checkMarkup (disk : Disk) (dir : Option String) (s : List Char) :
    (checkMarkup disk dir s).filter Finding.isInfo = [] := by
  refine List.filter_eq_nil_iff.mpr fun f hf => ?_
  have hmarkup := concernsCharacters_of_mem_checkMarkup hf
  rw [Finding.isInfo]
  cases hissue : f.issue with
  | removed _ | removable _ _ | punctuation _ _ =>
    rw [hissue] at hmarkup
    contradiction
  | _ => exact Bool.false_ne_true

section

variable {l : Linter} {disk : Disk} {bs : Text.Bytes} {s : List Char}

/-- **A run announces the replacements that are made.**  In a run that removes nothing, the findings
that only inform are those of the replacements that the rewriting makes of the text, rule by rule
and each in the text that the rules before it have left, at the lines on which they are made.  They
are counted one by one, and there is none exactly if the text stays as it is. -/
theorem run_punctuation (hfix : l.fix = false) (hread : disk.read l.path = .ok bs)
    (hdecode : Text.decode bs = .ok s) (r : Report) :
    (applyWatched punctuationRules s).1 = normalize s
      ∧ ∃ run found, l.run disk r = .ok run ∧ run.report.findings = r.findings ++ found
        ∧ found.filter Finding.isInfo = (applyWatched punctuationRules s).2.map Change.finding
        ∧ run.report.infos = r.infos + (applyWatched punctuationRules s).2.length
        ∧ ((∀ f ∈ found, f.isInfo = false) ↔ normalize s = s) := by
  have hinfos : (textFindings s ++ checkMarkup disk l.pictureDir (normalize s)).filter
      Finding.isInfo = (applyWatched punctuationRules s).2.map Change.finding := by
    rw [List.filter_append, filter_isInfo_checkMarkup, List.append_nil, filter_isInfo_textFindings]
  obtain ⟨n, hrun⟩ := exists_run_check hfix hread hdecode r
  refine ⟨congrArg Prod.fst (applyWatched_punctuationRules s), _, _, hrun,
    Report.findings_addAll .., hinfos, ?_, ?_⟩
  · refine (Report.tally_addAll r .info _).trans ?_
    show r.infos + List.countP Finding.isInfo _ = _
    rw [List.countP_eq_length_filter, hinfos, List.length_map]
  · rw [← changes_eq_nil_iff, ← List.map_eq_nil_iff (f := Change.finding), ← hinfos,
      List.filter_eq_nil_iff]
    simp only [Bool.not_eq_true]

end

/-- Seven dots in a row, and a bracket on the next line. -/
def dotsAndBracket : List Char := "か.......?\n(え\n".toList

theorem run_dotsAndBracket :
    normalize dotsAndBracket = "か…….？\n（え\n".toList
      ∧ (applyWatched punctuationRules dotsAndBracket).2.map (fun c => (c.rule.ascii, c.line))
        = [(['.', '.', '.'], 1), (['.', '.', '.'], 1), (['?'], 1), (['('], 2)]
      ∧ ∃ run, Linter.run { path := "raw.txt" } (diskWith (Text.encode dotsAndBracket)) {}
          = .ok run
        ∧ run.report.infos = 4
        ∧ run.report.findings.filter Finding.isInfo
          = (applyWatched punctuationRules dotsAndBracket).2.map Change.finding := by
  have hchanges : (applyWatched punctuationRules dotsAndBracket).2.map
      (fun c => (c.rule.ascii, c.line))
        = [(['.', '.', '.'], 1), (['.', '.', '.'], 1), (['?'], 1), (['('], 2)] := by
    rw [applyWatched_punctuationRules, List.map_flatMap]
    cbv
  have hlength : (applyWatched punctuationRules dotsAndBracket).2.length = 4 := by
    rw [← List.length_map (fun c : Change => (c.rule.ascii, c.line)), hchanges]
    rfl
  obtain ⟨-, run, found, hrun, hfindings, hinfos, hcount, -⟩ :=
    run_punctuation (l := { path := "raw.txt" }) rfl (read_diskWith _)
      (Text.decode_encode dotsAndBracket) {}
  obtain rfl : run.report.findings = found := hfindings.trans (List.nil_append _)
  exact ⟨by cbv, hchanges, run, hrun, by rw [hcount, hlength], hinfos⟩

end Kumihan.Lint
