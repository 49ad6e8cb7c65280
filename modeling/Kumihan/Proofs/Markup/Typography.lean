import Mathlib.Data.List.Infix
import Kumihan.Markup.Typography
import Kumihan.Proofs.Text.Count
import Kumihan.Proofs.Text.Cut
import Kumihan.Proofs.Text.Line

/-!
# Texts in full-width punctuation

## Main results

* `normalize_of_not_infix` — a text in full-width punctuation stays as it is.
* `not_infix_normalize` — the rewriting of punctuation makes no occurrence of a text that
  has no full-width form in it.
* `lines_normalize` — **punctuation is rewritten line by line.**
-/

namespace Kumihan.Markup

/-- A text in full-width punctuation stays as it is. -/
theorem normalize_of_not_infix {s : List Char}
    (h : ∀ rule ∈ punctuationRules, ¬ rule.ascii <:+: s) : normalize s = s := by
  have key : ∀ rules : List PunctuationRule, (∀ rule ∈ rules, ¬ rule.ascii <:+: s) →
      rules.foldl (fun t rule => rule.apply t) s = s := by
    intro rules
    induction rules with
    | nil => exact fun _ => rfl
    | cons rule rules ih =>
      intro h
      rw [List.foldl_cons, PunctuationRule.apply,
        Text.replaceAll_of_not_infix (h rule List.mem_cons_self)]
      exact ih fun r hr => h r (List.mem_cons_of_mem rule hr)
  exact key punctuationRules h

/-- No rule of punctuation writes a part of `w`. -/
def Untouched (w : List Char) (rules : List PunctuationRule) : Prop :=
  ∀ rule ∈ rules, rule.fullWidth ≠ [] ∧ Text.isFree w rule.fullWidth = true

theorem not_infix_applyAll {w : List Char} (hw : w ≠ []) {rules : List PunctuationRule}
    (hrules : Untouched w rules) {s : List Char} (h : ¬ w <:+: s) :
    ¬ w <:+: rules.foldl (fun t rule => rule.apply t) s := by
  induction rules generalizing s with
  | nil => exact h
  | cons rule rules ih =>
    obtain ⟨hne, hout⟩ := hrules rule List.mem_cons_self
    exact ih (fun r hr => hrules r (List.mem_cons_of_mem rule hr))
      (Text.not_infix_replaceAll hw hne (Text.notMem_of_isFree hout) h)

/-- **The rewriting of punctuation makes no occurrence of a text that it writes no part of.** -/
theorem not_infix_normalize {w s : List Char} (hw : w ≠ []) (hrules : Untouched w punctuationRules)
    (h : ¬ w <:+: s) : ¬ w <:+: normalize s :=
  not_infix_applyAll hw hrules h

/-! ### Lines in full-width punctuation -/

/-- A character that no rule of punctuation reads or writes. -/
def Inert (c : Char) (rules : List PunctuationRule) : Prop :=
  Untouched [c] rules ∧ ∀ rule ∈ rules, rule.ascii ≠ [] ∧ c ∉ rule.ascii

theorem inert_feed : Inert '\n' punctuationRules := by
  unfold Inert Untouched
  decide

theorem inert_return : Inert '\r' punctuationRules := by
  unfold Inert Untouched
  decide

section

variable {c : Char} {s : List Char}

/-- A character that no rule is about is written nowhere. -/
theorem notMem_normalize (h : Inert c punctuationRules) (hs : c ∉ s) : c ∉ normalize s := by
  rw [← List.singleton_infix_iff] at hs ⊢
  exact not_infix_normalize (List.cons_ne_nil c []) h.1 hs

theorem applyAll_append_cons {rules : List PunctuationRule} (h : Inert c rules)
    (x y : List Char) :
    rules.foldl (fun t rule => rule.apply t) (x ++ c :: y)
      = rules.foldl (fun t rule => rule.apply t) x
        ++ c :: rules.foldl (fun t rule => rule.apply t) y := by
  induction rules generalizing x y with
  | nil => rfl
  | cons rule rules ih =>
    obtain ⟨hne, hc⟩ := h.2 rule List.mem_cons_self
    have hrules : Inert c rules :=
      ⟨fun r hr => h.1 r (List.mem_cons_of_mem rule hr),
        fun r hr => h.2 r (List.mem_cons_of_mem rule hr)⟩
    rw [List.foldl_cons, PunctuationRule.apply, Text.replaceAll_append_cons hne hc]
    exact ih hrules _ _

/-- Both sides of a character that no rule is about are rewritten apart. -/
theorem normalize_append_cons (h : Inert c punctuationRules) (x y : List Char) :
    normalize (x ++ c :: y) = normalize x ++ c :: normalize y :=
  applyAll_append_cons h x y

theorem normalize_nil : normalize [] = [] :=
  normalize_of_not_infix (by decide)

/-- Only the empty text becomes empty. -/
theorem normalize_eq_nil_iff : normalize s = [] ↔ s = [] := by
  have key : ∀ rules : List PunctuationRule, (∀ rule ∈ rules, rule.fullWidth ≠ []) →
      ∀ s, rules.foldl (fun t rule => rule.apply t) s = [] ↔ s = [] := by
    intro rules
    induction rules with
    | nil => exact fun _ _ => Iff.rfl
    | cons rule rules ih =>
      intro h s
      rw [List.foldl_cons, ih fun r hr => h r (List.mem_cons_of_mem rule hr)]
      exact Text.replaceAll_eq_nil_iff (h rule List.mem_cons_self)
  exact key punctuationRules (by decide) s

end

/-- The carriage return at the end of a line is dropped before or behind the rewriting. -/
theorem dropCarriageReturn_normalize (s : List Char) :
    Text.dropCarriageReturn (normalize s) = normalize (Text.dropCarriageReturn s) := by
  rcases Text.notMem_or_exists_last '\r' s with hs | ⟨x, y, rfl, hy⟩
  · rw [Text.dropCarriageReturn_of_notMem hs,
      Text.dropCarriageReturn_of_notMem (notMem_normalize inert_return hs)]
  · cases y with
    | nil =>
      rw [normalize_append_cons inert_return, normalize_nil, Text.dropCarriageReturn_concat,
        Text.dropCarriageReturn_concat]
    | cons d y =>
      -- the last character is no carriage return, and the rewriting makes none of it
      have hy' := notMem_normalize inert_return hy
      have hne : normalize (d :: y) ≠ [] := mt normalize_eq_nil_iff.mp (List.cons_ne_nil d y)
      rw [Text.dropCarriageReturn_append_cons (List.cons_ne_nil d y) hy,
        normalize_append_cons inert_return, Text.dropCarriageReturn_append_cons hne hy']

/-- **Punctuation is rewritten line by line.** -/
theorem lines_normalize (s : List Char) :
    Text.lines (normalize s) = (Text.lines s).map normalize := by
  induction s using Text.lineInduction with
  | last x hx =>
    rw [Text.lines_of_notMem hx, Text.lines_of_notMem (notMem_normalize inert_feed hx),
      dropCarriageReturn_normalize]
    by_cases h : x = []
    · rw [if_pos h, if_pos (normalize_eq_nil_iff.mpr h), List.map_nil]
    · rw [if_neg h, if_neg (mt normalize_eq_nil_iff.mp h), List.map_singleton]
  | step x y hx ih =>
    rw [normalize_append_cons inert_feed, Text.lines_append_cons hx,
      Text.lines_append_cons (notMem_normalize inert_feed hx), ih, List.map_cons,
      dropCarriageReturn_normalize]

end Kumihan.Markup
