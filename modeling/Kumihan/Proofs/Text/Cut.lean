import Kumihan.Text.Occurrence

/-!
# Cutting at a character

A text is cut at the first or at the last character of a kind, and there is one way to do so.

## Main results

* `cutAt?_append_cons`, `cutAt?_eq_some_iff`, `cut_unique` — the cut at the first one.
* `cutLast?_append_cons`, `cutLast?_eq_some_iff`, `notMem_or_exists_last` — the cut at the last
  one.
-/

namespace Kumihan.Text

/-! ### The first character of a kind -/

theorem cutAt?_append_cons {c : Char} {x : List Char} (h : c ∉ x) (y : List Char) :
    cutAt? c (x ++ c :: y) = some (x, y) := by
  induction x with
  | nil => simp [cutAt?]
  | cons d x ih =>
    rw [List.mem_cons, not_or] at h
    rw [List.cons_append, cutAt?, if_neg (Ne.symm h.1), ih h.2]
    rfl

theorem cutAt?_of_notMem {c : Char} {s : List Char} (h : c ∉ s) : cutAt? c s = none := by
  induction s with
  | nil => rfl
  | cons d s ih =>
    rw [List.mem_cons, not_or] at h
    rw [cutAt?, if_neg (Ne.symm h.1), ih h.2]
    rfl

theorem cutAt?_eq_some_iff {c : Char} {s x y : List Char} :
    cutAt? c s = some (x, y) ↔ s = x ++ c :: y ∧ c ∉ x := by
  constructor
  · intro h
    by_cases hc : c ∈ s
    · obtain ⟨x', y', rfl, hx'⟩ := List.eq_append_cons_of_mem hc
      rw [cutAt?_append_cons hx', Option.some.injEq, Prod.mk.injEq] at h
      obtain ⟨rfl, rfl⟩ := h
      exact ⟨rfl, hx'⟩
    · rw [cutAt?_of_notMem hc] at h
      contradiction
  · rintro ⟨rfl, hx⟩
    exact cutAt?_append_cons hx y

/-- A text that is cut at its first `c` in two ways is cut in one way. -/
theorem cut_unique {c : Char} {x x' y y' : List Char} (h : c ∉ x) (h' : c ∉ x')
    (heq : x ++ c :: y = x' ++ c :: y') : x = x' ∧ y = y' := by
  have hcut := cutAt?_append_cons h y
  rw [heq, cutAt?_append_cons h' y', Option.some.injEq, Prod.mk.injEq] at hcut
  exact ⟨hcut.1.symm, hcut.2.symm⟩

/-! ### The last character of a kind -/

theorem cutLast?_of_notMem {c : Char} {s : List Char} (h : c ∉ s) : cutLast? c s = none := by
  induction s with
  | nil => rfl
  | cons d s ih =>
    rw [List.mem_cons, not_or] at h
    rw [cutLast?, ih h.2]
    exact if_neg (Ne.symm h.1)

theorem cutLast?_append_cons {c : Char} {y : List Char} (h : c ∉ y) (x : List Char) :
    cutLast? c (x ++ c :: y) = some (x, y) := by
  induction x with
  | nil =>
    rw [List.nil_append, cutLast?, cutLast?_of_notMem h]
    exact if_pos rfl
  | cons d x ih => rw [List.cons_append, cutLast?, ih]

/-- A text has no `c`, or is cut at its last one. -/
theorem notMem_or_exists_last (c : Char) (s : List Char) :
    c ∉ s ∨ ∃ x y, s = x ++ c :: y ∧ c ∉ y := by
  by_cases h : c ∈ s
  · obtain ⟨y, x, hs, hy⟩ := List.eq_append_cons_of_mem (List.mem_reverse.mpr h)
    refine Or.inr ⟨x.reverse, y.reverse, ?_, by simpa using hy⟩
    rw [← List.reverse_reverse s, hs]
    simp
  · exact Or.inl h

theorem cutLast?_eq_some_iff {c : Char} {s x y : List Char} :
    cutLast? c s = some (x, y) ↔ s = x ++ c :: y ∧ c ∉ y := by
  constructor
  · intro h
    rcases notMem_or_exists_last c s with hnone | ⟨x', y', rfl, hy'⟩
    · rw [cutLast?_of_notMem hnone] at h
      contradiction
    · rw [cutLast?_append_cons hy', Option.some.injEq, Prod.mk.injEq] at h
      obtain ⟨rfl, rfl⟩ := h
      exact ⟨rfl, hy'⟩
  · rintro ⟨rfl, hy⟩
    exact cutLast?_append_cons hy x

end Kumihan.Text
