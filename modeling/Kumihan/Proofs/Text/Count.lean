import Kumihan.Proofs.Text.Occurrence

/-!
# Counting and rewriting occurrences

Where a character that is not in the pattern parts a text, the occurrences before it and
those behind it are found apart, and none is missed: no occurrence reaches over it.

## Main results

* `cut?_eq_some_iff` — where the first occurrence stands.
* `countOf_append_cons` — **the occurrences on both sides of a separating character.**
* `countOf_append_of_last`, `countOf_append_of_first` — those in two texts of which one ends,
  or begins, with such a character.
* `countOf_eq_zero_iff` — a text without an occurrence.
* `replaceAll_append`, `replaceAll_cons_of_not_prefix` — rewriting from the left.
* `not_infix_replaceAll_self` — what is rewritten is gone.
* `replaceAll_append_cons` — both sides of a separating character are rewritten apart.
-/

namespace Kumihan.Text

variable {pat x y : List Char} {c : Char}

/-! ### The first occurrence -/

/-- A beginning without the separating character ends before it. -/
theorem prefix_of_prefix_append_cons (hc : c ∉ pat) (h : pat <+: x ++ c :: y) : pat <+: x := by
  rcases List.prefix_or_prefix_of_prefix h (List.prefix_append x (c :: y)) with hx | hx
  · exact hx
  · obtain ⟨z, rfl⟩ := hx
    rw [List.prefix_append_right_inj] at h
    cases z with
    | nil => simp
    | cons d z =>
      obtain ⟨rfl, -⟩ := List.cons_prefix_cons.mp h
      exact absurd (by simp) hc

/-- What stands behind a text does not change its first occurrence. -/
theorem cut?_append_of_eq_some {before after : List Char} (hpat : pat ≠ [])
    (h : cut? pat x = some (before, after)) (y : List Char) :
    cut? pat (x ++ y) = some (before, after ++ y) := by
  induction x generalizing before with
  | nil =>
    have hempty : ¬ pat.isEmpty = true := by simpa using hpat
    rw [cut?, if_neg hempty] at h
    contradiction
  | cons d x ih =>
    rw [cut?] at h
    by_cases hp : pat.isPrefixOf (d :: x) = true
    · have hstart := List.isPrefixOf_iff_prefix.mp hp
      have hp' : pat.isPrefixOf (d :: (x ++ y)) = true :=
        List.isPrefixOf_iff_prefix.mpr (hstart.trans (List.prefix_append (d :: x) y))
      rw [if_pos hp, Option.some.injEq, Prod.mk.injEq] at h
      rw [List.cons_append, cut?, if_pos hp', ← List.cons_append,
        List.drop_append_of_le_length hstart.length_le, ← h.1, ← h.2]
    · rw [if_neg hp] at h
      obtain ⟨⟨b, a⟩, hcut, hba⟩ := Option.map_eq_some_iff.mp h
      obtain ⟨rfl, rfl⟩ := Prod.mk.inj hba
      -- the pattern is as short as the occurrence in `x`, so it does not reach into `y`
      have hp' : ¬ pat.isPrefixOf (d :: (x ++ y)) = true := by
        intro hstart
        apply hp
        have hlength := congrArg List.length (cut?_eq_append hcut)
        simp only [List.length_append] at hlength
        refine List.isPrefixOf_iff_prefix.mpr (List.prefix_of_prefix_length_le
          (List.isPrefixOf_iff_prefix.mp hstart) (List.prefix_append (d :: x) y) ?_)
        simp only [List.length_cons]
        omega
      rw [List.cons_append, cut?, if_neg hp', ih hcut]
      rfl

/-- Before its first occurrence a pattern does not occur. -/
theorem not_infix_of_cut?_eq_some {before after : List Char} (hpat : pat ≠ [])
    (h : cut? pat x = some (before, after)) : ¬ pat <:+: before := by
  rw [← cut?_eq_none_iff]
  cases hcut : cut? pat before with
  | none => rfl
  | some p =>
    obtain ⟨b, a⟩ := p
    have hearlier := cut?_append_of_eq_some hpat hcut (pat ++ after)
    rw [← List.append_assoc, ← cut?_eq_append h, h, Option.some.injEq, Prod.mk.injEq] at hearlier
    have hlength := congrArg List.length (cut?_eq_append hcut)
    rw [hearlier.1] at hlength
    have hpos := List.length_pos_iff.mpr hpat
    simp only [List.length_append] at hlength
    omega

/-- **The first occurrence** of a pattern whose first character does not come again in it. -/
theorem cut?_eq_some_iff {m before after : List Char} (hc : c ∉ m) :
    cut? (c :: m) x = some (before, after)
      ↔ x = before ++ (c :: m ++ after) ∧ ¬ c :: m <:+: before := by
  constructor
  · intro h
    exact ⟨(cut?_eq_append h).trans (List.append_assoc ..),
      not_infix_of_cut?_eq_some (List.cons_ne_nil c m) h⟩
  · rintro ⟨rfl, havoids⟩
    exact cut?_append hc havoids after

/-- Behind a text without an occurrence and a separating character, the first occurrence is
that of the text behind. -/
theorem cut?_append_cons_of_not_infix (hc : c ∉ pat) (hx : ¬ pat <:+: x) (y : List Char) :
    cut? pat (x ++ c :: y) = (cut? pat y).map fun (before, after) => (x ++ c :: before, after) := by
  induction x with
  | nil =>
    have hp : ¬ pat.isPrefixOf (c :: y) = true := fun h =>
      hx (prefix_of_prefix_append_cons (x := []) hc (List.isPrefixOf_iff_prefix.mp h)).isInfix
    rw [List.nil_append, cut?, if_neg hp]
    rfl
  | cons d x ih =>
    rw [List.infix_cons_iff, not_or] at hx
    have hp : ¬ pat.isPrefixOf (d :: (x ++ c :: y)) = true := fun h =>
      hx.1 (prefix_of_prefix_append_cons (x := d :: x) hc (List.isPrefixOf_iff_prefix.mp h))
    rw [List.cons_append, cut?, if_neg hp, ih hx.2, Option.map_map]
    rfl

/-! ### Counting -/

theorem countOf_of_cut?_eq_none (h : cut? pat x = none) : countOf pat x = 0 :=
  countOf_eq_zero (cut?_eq_none_iff.mp h)

theorem countOf_of_cut?_eq_some {before after : List Char} (hpat : pat ≠ [])
    (h : cut? pat x = some (before, after)) : countOf pat x = countOf pat after + 1 := by
  rw [countOf, dif_neg hpat]
  split
  · next hcut =>
    rw [h] at hcut
    contradiction
  · next hcut =>
    rw [h, Option.some.injEq, Prod.mk.injEq] at hcut
    rw [hcut.2]

theorem countOf_eq_zero_iff (hpat : pat ≠ []) : countOf pat x = 0 ↔ ¬ pat <:+: x := by
  constructor
  · intro hzero
    rw [← cut?_eq_none_iff]
    cases hcut : cut? pat x with
    | none => rfl
    | some p =>
      rw [countOf_of_cut?_eq_some hpat hcut] at hzero
      contradiction
  · exact countOf_eq_zero

/-- **The occurrences on both sides of a separating character** are all there are.  The
induction takes one occurrence after the other from `x`. -/
theorem countOf_append_cons (hpat : pat ≠ []) (hc : c ∉ pat) (x y : List Char) :
    countOf pat (x ++ c :: y) = countOf pat x + countOf pat y := by
  induction hlen : x.length using Nat.strongRecOn generalizing x with
  | ind n ih =>
    cases hcut : cut? pat x with
    | some p =>
      obtain ⟨before, after⟩ := p
      have hlt := length_lt_of_cut? hpat hcut
      rw [countOf_of_cut?_eq_some hpat (cut?_append_of_eq_some hpat hcut (c :: y)),
        ih after.length (hlen ▸ hlt) after rfl, countOf_of_cut?_eq_some hpat hcut]
      omega
    | none =>
      rw [countOf_of_cut?_eq_none hcut, Nat.zero_add]
      have happend := cut?_append_cons_of_not_infix hc (cut?_eq_none_iff.mp hcut) y
      cases hy : cut? pat y with
      | none =>
        rw [hy] at happend
        rw [countOf_of_cut?_eq_none hy, countOf_of_cut?_eq_none happend]
      | some p =>
        rw [hy] at happend
        rw [countOf_of_cut?_eq_some hpat hy, countOf_of_cut?_eq_some hpat happend]

/-- Two texts are counted apart if the first ends outside the pattern. -/
theorem countOf_append_of_last (hpat : pat ≠ []) (h : ∀ e ∈ x.getLast?, e ∉ pat)
    (y : List Char) : countOf pat (x ++ y) = countOf pat x + countOf pat y := by
  have hnil : countOf pat [] = 0 := countOf_eq_zero (by simpa using hpat)
  rcases List.eq_nil_or_concat x with rfl | ⟨x, e, rfl⟩
  · rw [hnil, List.nil_append, Nat.zero_add]
  · rw [List.concat_eq_append] at h ⊢
    have he : e ∉ pat := h e (by simp)
    rw [List.append_assoc, List.singleton_append, countOf_append_cons hpat he,
      countOf_append_cons hpat he, hnil, Nat.add_zero]

/-- Two texts are counted apart if the second begins outside the pattern. -/
theorem countOf_append_of_first (hpat : pat ≠ []) (x : List Char)
    (h : ∀ e ∈ y.head?, e ∉ pat) : countOf pat (x ++ y) = countOf pat x + countOf pat y := by
  have hnil : countOf pat [] = 0 := countOf_eq_zero (by simpa using hpat)
  cases y with
  | nil => rw [hnil, List.append_nil, Nat.add_zero]
  | cons e y =>
    have he : e ∉ pat := h e rfl
    have hy := countOf_append_cons hpat he [] y
    rw [List.nil_append, hnil, Nat.zero_add] at hy
    rw [countOf_append_cons hpat he, hy]

/-! ### Rewriting -/

section

variable {rep : List Char}

theorem replaceAll_of_cut?_eq_some {before after : List Char} (hpat : pat ≠ [])
    (h : cut? pat x = some (before, after)) :
    replaceAll pat rep x = before ++ rep ++ replaceAll pat rep after := by
  rw [replaceAll, dif_neg hpat]
  split
  · next hcut =>
    rw [h] at hcut
    contradiction
  · next hcut =>
    rw [h, Option.some.injEq, Prod.mk.injEq] at hcut
    rw [hcut.1, hcut.2]

theorem replaceAll_of_cut?_eq_none (h : cut? pat x = none) : replaceAll pat rep x = x :=
  replaceAll_of_not_infix (cut?_eq_none_iff.mp h)

/-- An occurrence at the beginning is rewritten. -/
theorem replaceAll_append (hpat : pat ≠ []) (x : List Char) :
    replaceAll pat rep (pat ++ x) = rep ++ replaceAll pat rep x := by
  have hcut : cut? pat (pat ++ x) = some ([], x) := by
    cases pat with
    | nil => exact absurd rfl hpat
    | cons d m =>
      have hstart : (d :: m).isPrefixOf (d :: (m ++ x)) = true :=
        List.isPrefixOf_iff_prefix.mpr (List.prefix_append (d :: m) x)
      rw [List.cons_append, cut?, if_pos hstart, ← List.cons_append, List.drop_left]
  rw [replaceAll_of_cut?_eq_some hpat hcut, List.nil_append]

/-- A character at which no occurrence begins stays. -/
theorem replaceAll_cons_of_not_prefix (h : ¬ pat <+: c :: x) :
    replaceAll pat rep (c :: x) = c :: replaceAll pat rep x := by
  have hpat : pat ≠ [] := by
    rintro rfl
    exact h List.nil_prefix
  have hcut : cut? pat (c :: x) = (cut? pat x).map fun (before, after) => (c :: before, after) := by
    rw [cut?, if_neg (mt List.isPrefixOf_iff_prefix.mp h)]
  cases hx : cut? pat x with
  | none =>
    rw [hx] at hcut
    rw [replaceAll_of_cut?_eq_none hcut, replaceAll_of_cut?_eq_none hx]
  | some p =>
    rw [hx] at hcut
    rw [replaceAll_of_cut?_eq_some hpat hcut, replaceAll_of_cut?_eq_some hpat hx]
    rfl

/-- One character is rewritten as another wherever it stands. -/
theorem replaceAll_singleton (c d : Char) (x : List Char) :
    replaceAll [c] [d] x = x.map fun e => if e = c then d else e := by
  induction x with
  | nil => exact replaceAll_of_not_infix (by simp)
  | cons e x ih =>
    rw [List.map_cons, ← ih]
    by_cases he : e = c
    · rw [if_pos he, he]
      exact replaceAll_append (List.cons_ne_nil c []) x
    · rw [if_neg he, replaceAll_cons_of_not_prefix]
      rintro ⟨t, ht⟩
      exact he (List.cons.inj ht).1.symm

/-- A pattern that the replacement has no part of is gone. -/
theorem not_infix_replaceAll_self (hpat : pat ≠ []) (hrep : rep ≠ []) (hout : ∀ e ∈ rep, e ∉ pat) :
    ¬ pat <:+: replaceAll pat rep x := by
  induction hlen : x.length using Nat.strongRecOn generalizing x with
  | ind n ih =>
    cases hcut : cut? pat x with
    | none =>
      rw [replaceAll_of_cut?_eq_none hcut]
      exact cut?_eq_none_iff.mp hcut
    | some p =>
      obtain ⟨before, after⟩ := p
      have hlt := length_lt_of_cut? hpat hcut
      rw [replaceAll_of_cut?_eq_some hpat hcut]
      exact not_infix_append_append hpat hrep hout (not_infix_of_cut?_eq_some hpat hcut)
        (ih after.length (hlen ▸ hlt) rfl)

theorem replaceAll_eq_nil_iff (hrep : rep ≠ []) : replaceAll pat rep x = [] ↔ x = [] := by
  by_cases hpat : pat = []
  · rw [replaceAll, dif_pos hpat]
  · cases hcut : cut? pat x with
    | none => rw [replaceAll_of_cut?_eq_none hcut]
    | some p =>
      obtain ⟨before, after⟩ := p
      rw [replaceAll_of_cut?_eq_some hpat hcut, cut?_eq_append hcut]
      simp [hrep, hpat]

/-- **Both sides of a separating character are rewritten apart.**  The induction takes one
occurrence after the other from `x`. -/
theorem replaceAll_append_cons (hpat : pat ≠ []) (hc : c ∉ pat) (x y : List Char) :
    replaceAll pat rep (x ++ c :: y) = replaceAll pat rep x ++ c :: replaceAll pat rep y := by
  induction hlen : x.length using Nat.strongRecOn generalizing x with
  | ind n ih =>
    cases hcut : cut? pat x with
    | some p =>
      obtain ⟨before, after⟩ := p
      have hlt := length_lt_of_cut? hpat hcut
      rw [replaceAll_of_cut?_eq_some hpat (cut?_append_of_eq_some hpat hcut (c :: y)),
        ih after.length (hlen ▸ hlt) after rfl, replaceAll_of_cut?_eq_some hpat hcut]
      simp only [List.append_assoc]
    | none =>
      rw [replaceAll_of_cut?_eq_none hcut]
      have happend := cut?_append_cons_of_not_infix hc (cut?_eq_none_iff.mp hcut) y
      cases hy : cut? pat y with
      | none =>
        rw [hy] at happend
        rw [replaceAll_of_cut?_eq_none hy, replaceAll_of_cut?_eq_none happend]
      | some p =>
        rw [hy] at happend
        rw [replaceAll_of_cut?_eq_some hpat hy, replaceAll_of_cut?_eq_some hpat happend]
        simp only [List.append_assoc, List.cons_append]

end

end Kumihan.Text
