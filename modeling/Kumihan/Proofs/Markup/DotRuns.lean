import Mathlib.Data.List.SplitBy
import Kumihan.Proofs.Markup.Typography

/-!
# Runs of dots

Punctuation is rewritten by one rule after the other, and no rule reads what another one has
written.  Three dots become one ellipsis, and each of the other rules writes one character for one.
So what becomes of a text can be told run by run, a run being a stretch of dots or a stretch without
a dot that cannot be made longer.

## Main definitions

* `fullWidth c` — the full-width form of a character.
* `setDots k` — `k` dots in a row, as they are set.
* `runs s`, `setRun` — the runs of a text, and a run as it is set.

## Main results

* `normalize_eq_map` — dots are joined first, and what is left is set character by character.
* `joinDots_replicate` — a maximal run of dots.
* `normalize_eq_flatMap` — **a text is set run by run.**
* `normalize_normalize` — **a text that is set stays as it is.**
-/

namespace Kumihan.Markup

/-! ### Single characters -/

/-- The full-width form of a character.  Most characters are set as they are typed. -/
def fullWidth : Char → Char
  | '?' => '？'
  | '(' => '（'
  | ')' => '）'
  | '!' => '！'
  | '~' => '〜'
  | c => c

/-- The text in which every three dots are an ellipsis. -/
def joinDots (s : List Char) : List Char := Text.replaceAll ['.', '.', '.'] ['…'] s

/-- **Dots are joined first**, and what is left is set character by character. -/
theorem normalize_eq_map (s : List Char) : normalize s = (joinDots s).map fullWidth := by
  simp only [normalize, punctuationRules, List.foldl_cons, List.foldl_nil, PunctuationRule.apply,
    Text.replaceAll_singleton, List.map_map]
  refine List.map_congr_left fun c _ => ?_
  unfold fullWidth
  split
  all_goals simp_all

/-! ### Dots -/

/-- `k` dots in a row, set: an ellipsis for every three of them, and the dots that are left. -/
def setDots (k : Nat) : List Char := List.replicate (k / 3) '…' ++ List.replicate (k % 3) '.'

theorem setDots_add_three (k : Nat) : setDots (k + 3) = '…' :: setDots k := by
  rw [setDots, Nat.add_div_right k (by decide), Nat.add_mod_right, List.replicate_succ]
  rfl

theorem map_setDots (k : Nat) : (setDots k).map fullWidth = setDots k := by
  rw [setDots, List.map_append, List.map_replicate, List.map_replicate]
  rfl

theorem joinDots_cons {c : Char} {s : List Char} (h : ¬ ['.', '.', '.'] <+: c :: s) :
    joinDots (c :: s) = c :: joinDots s :=
  Text.replaceAll_cons_of_not_prefix h

/-- **A maximal run of dots**: behind it stands another character, or nothing. -/
theorem joinDots_replicate (k : Nat) {y : List Char} (hy : y.head? ≠ some '.') :
    joinDots (List.replicate k '.' ++ y) = setDots k ++ joinDots y := by
  have hstart (m : List Char) : ¬ '.' :: m <+: y := by
    rintro ⟨t, rfl⟩
    exact hy rfl
  have hone : joinDots ('.' :: y) = '.' :: joinDots y :=
    joinDots_cons fun h => hstart _ (List.cons_prefix_cons.mp h).2
  have htwo : joinDots ('.' :: '.' :: y) = '.' :: joinDots ('.' :: y) :=
    joinDots_cons fun h => hstart _ (List.cons_prefix_cons.mp (List.cons_prefix_cons.mp h).2).2
  induction k using Nat.strongRecOn with
  | ind k ih =>
    match k with
    | 0 => rfl
    | 1 => exact hone
    | 2 => exact htwo.trans (congrArg ('.' :: ·) hone)
    | k + 3 =>
      rw [setDots_add_three, List.cons_append, ← ih k (by omega)]
      exact Text.replaceAll_append (List.cons_ne_nil _ _) (List.replicate k '.' ++ y)

theorem joinDots_append_of_notMem {x : List Char} (hx : '.' ∉ x) (y : List Char) :
    joinDots (x ++ y) = x ++ joinDots y := by
  induction x with
  | nil => rfl
  | cons c x ih =>
    rw [List.mem_cons, not_or] at hx
    rw [List.cons_append, joinDots_cons fun h => hx.1 (List.cons_prefix_cons.mp h).1, ih hx.2]
    rfl

/-! ### Runs -/

/-- Both characters are dots, or neither is. -/
def sameRun (c d : Char) : Bool := decide (c = '.') == decide (d = '.')

/-- The runs of a text: its longest stretches of dots, and those of other characters. -/
def runs (s : List Char) : List (List Char) := s.splitBy sameRun

/-- A run as it is set. -/
def setRun (run : List Char) : List Char :=
  if '.' ∈ run then setDots run.length else run.map fullWidth

/-- In a run all characters are dots or none is. -/
theorem eq_dot_iff_of_isChain {c : Char} {run : List Char}
    (h : (c :: run).IsChain fun a b => sameRun a b = true) : ∀ d ∈ run, d = '.' ↔ c = '.' := by
  induction run generalizing c with
  | nil => exact fun d hd => absurd hd List.not_mem_nil
  | cons e run ih =>
    obtain ⟨hfirst, hrest⟩ := List.isChain_cons_cons.mp h
    rw [sameRun, beq_iff_eq, decide_eq_decide] at hfirst
    have he : e = '.' ↔ c = '.' := hfirst.symm
    intro d hd
    rcases List.mem_cons.mp hd with rfl | hd
    · exact he
    · exact (ih hrest d hd).trans he

/-- **One run**: what stands behind it begins another run, or there is nothing. -/
theorem map_joinDots_append {run y : List Char} (hne : run ≠ [])
    (hrun : run.IsChain fun a b => sameRun a b = true)
    (hy : ∀ d, y.head? = some d → sameRun (run.getLast hne) d = false) :
    (joinDots (run ++ y)).map fullWidth = setRun run ++ (joinDots y).map fullWidth := by
  cases run with
  | nil => exact absurd rfl hne
  | cons c run =>
    have hall := eq_dot_iff_of_isChain hrun
    have hlast : (c :: run).getLast hne = '.' ↔ c = '.' := by
      rcases List.mem_cons.mp (List.getLast_mem hne) with h | h
      · rw [h]
      · exact hall _ h
    by_cases hc : c = '.'
    · have hdots : c :: run = List.replicate (c :: run).length '.' := by
        refine List.eq_replicate_iff.mpr ⟨rfl, ?_⟩
        exact List.forall_mem_cons.mpr ⟨hc, fun d hd => (hall d hd).mpr hc⟩
      have hbehind : y.head? ≠ some '.' := by
        intro hdot
        have hnew := hy '.' hdot
        rw [hlast.mpr hc] at hnew
        contradiction
      have hset : setRun (c :: run) = setDots (c :: run).length := if_pos (by simp [hc])
      rw [hset, hdots, joinDots_replicate _ hbehind, List.map_append, map_setDots,
        List.length_replicate]
    · have hnone : '.' ∉ c :: run := by
        intro hmem
        rcases List.mem_cons.mp hmem with h | h
        · exact hc h.symm
        · exact hc ((hall '.' h).mp rfl)
      rw [joinDots_append_of_notMem hnone, List.map_append, setRun, if_neg hnone]

/-- **A text is set run by run**: of `k` dots every three become an ellipsis and the rest stay dots,
and every other character is set in its full-width form.  The induction is on the runs. -/
theorem normalize_eq_flatMap (s : List Char) : normalize s = (runs s).flatMap setRun := by
  rw [normalize_eq_map]
  obtain ⟨rs, hruns⟩ : ∃ rs, runs s = rs := ⟨_, rfl⟩
  obtain ⟨rfl, hne, hchain, hnext⟩ := List.splitBy_eq_iff.mp hruns
  rw [hruns]
  clear hruns
  induction rs with
  | nil =>
    have hnil : joinDots [] = [] := Text.replaceAll_of_not_infix (by simp)
    rw [List.flatten_nil, hnil]
    rfl
  | cons run rs ih =>
    rw [List.mem_cons, not_or] at hne
    rw [List.forall_mem_cons] at hchain
    have hrun : run ≠ [] := Ne.symm hne.1
    rw [List.flatten_cons, List.flatMap_cons, ← ih hne.2 hchain.2 hnext.tail]
    refine map_joinDots_append hrun hchain.1 ?_
    intro d hd
    cases rs with
    | nil => contradiction
    | cons next rs =>
      obtain ⟨⟨_, hnonempty, hdiffers⟩, -⟩ := List.isChain_cons_cons.mp hnext
      rw [List.flatten_cons, List.head?_append_of_ne_nil _ hnonempty,
        List.head?_eq_some_head hnonempty, Option.some.injEq] at hd
      rwa [hd] at hdiffers

/-! ### Texts that are set -/

/-- What a rule reads, no rule writes a part of. -/
theorem untouched_ascii :
    ∀ rule ∈ punctuationRules, rule.ascii ≠ [] ∧ Untouched rule.ascii punctuationRules := by
  unfold Untouched
  decide

/-- Once a rule is applied, what it reads is gone for good. -/
theorem not_infix_applyAll_of_mem {rules : List PunctuationRule}
    (h : ∀ rule ∈ rules, rule.ascii ≠ [] ∧ Untouched rule.ascii rules) {rule : PunctuationRule}
    (hrule : rule ∈ rules) (s : List Char) :
    ¬ rule.ascii <:+: rules.foldl (fun t rule => rule.apply t) s := by
  induction rules generalizing s with
  | nil => exact absurd hrule List.not_mem_nil
  | cons first rules ih =>
    have hrest : ∀ r ∈ rules, r.ascii ≠ [] ∧ Untouched r.ascii rules := by
      intro r hr
      obtain ⟨hne, huntouched⟩ := h r (List.mem_cons_of_mem first hr)
      exact ⟨hne, fun q hq => huntouched q (List.mem_cons_of_mem first hq)⟩
    rw [List.foldl_cons]
    rcases List.mem_cons.mp hrule with rfl | hrule
    · obtain ⟨hne, huntouched⟩ := h rule List.mem_cons_self
      obtain ⟨hwrites, hfree⟩ := huntouched rule List.mem_cons_self
      have hgone := Text.not_infix_replaceAll_self hne hwrites (Text.notMem_of_isFree hfree)
        (x := s)
      exact not_infix_applyAll hne (fun q hq => huntouched q (List.mem_cons_of_mem rule hq)) hgone
    · exact ih hrest hrule (first.apply s)

/-- **A text that is set stays as it is.** -/
theorem normalize_normalize (s : List Char) : normalize (normalize s) = normalize s :=
  normalize_of_not_infix fun _ hrule => not_infix_applyAll_of_mem untouched_ascii hrule s

example : normalize "か....っ?".toList = "か….っ？".toList := by cbv

end Kumihan.Markup
