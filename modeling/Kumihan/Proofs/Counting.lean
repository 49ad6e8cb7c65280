/-!
# The element with a given number

In a list where some elements count, an element that counts is told by its number: how many
of those before it count.

## Main results

* `exists_split_of_lt_countP` — every number below the count is that of an element.
* `split_unique` — and of one element only.
* `split_at_getElem?`, `forall_split_iff` — the cuts of a list by their index.
-/

namespace Kumihan

section

variable {α : Type} {p : α → Bool} {l : List α}

/-- **Every number below the count is that of an element.** -/
theorem exists_split_of_lt_countP {k : Nat} (h : k < l.countP p) :
    ∃ pre a post, l = pre ++ a :: post ∧ p a = true ∧ pre.countP p = k := by
  induction l generalizing k with
  | nil => simp at h
  | cons b l ih =>
    by_cases hb : p b = true
    · cases k with
      | zero => exact ⟨[], b, l, rfl, hb, rfl⟩
      | succ k =>
        rw [List.countP_cons_of_pos hb] at h
        obtain ⟨pre, a, post, rfl, ha, hk⟩ := ih (Nat.lt_of_succ_lt_succ h)
        exact ⟨b :: pre, a, post, rfl, ha, by rw [List.countP_cons_of_pos hb, hk]⟩
    · rw [List.countP_cons_of_neg hb] at h
      obtain ⟨pre, a, post, rfl, ha, hk⟩ := ih h
      exact ⟨b :: pre, a, post, rfl, ha, by rw [List.countP_cons_of_neg hb, hk]⟩

/-- **No two elements that count have the same number.** -/
theorem split_unique {pre pre' post post' : List α} {a a' : α} (ha : p a = true)
    (ha' : p a' = true) (hcount : pre.countP p = pre'.countP p)
    (h : pre ++ a :: post = pre' ++ a' :: post') : pre = pre' ∧ a = a' ∧ post = post' := by
  induction pre generalizing pre' with
  | nil =>
    cases pre' with
    | nil => simpa using h
    | cons b pre' =>
      -- `a` would be counted before `a'` as well
      simp only [List.nil_append, List.cons_append, List.cons.injEq] at h
      rw [← h.1, List.countP_cons_of_pos ha] at hcount
      simp at hcount
  | cons b pre ih =>
    cases pre' with
    | nil =>
      simp only [List.nil_append, List.cons_append, List.cons.injEq] at h
      rw [h.1, List.countP_cons_of_pos ha'] at hcount
      simp at hcount
    | cons b' pre' =>
      simp only [List.cons_append, List.cons.injEq] at h
      obtain ⟨rfl, h⟩ := h
      have hcount' : pre.countP p = pre'.countP p := by
        simp only [List.countP_cons] at hcount
        omega
      obtain ⟨hpre, hrest⟩ := ih hcount' h
      exact ⟨by rw [hpre], hrest⟩

/-- A list is cut at each of its elements. -/
theorem split_at_getElem? {i : Nat} {a : α} (h : l[i]? = some a) :
    l = l.take i ++ a :: l.drop (i + 1) := by
  obtain ⟨hi, rfl⟩ := List.getElem?_eq_some_iff.mp h
  rw [← List.drop_eq_getElem_cons hi, List.take_append_drop]

/-- What is said of every cut of a list can be checked index by index. -/
theorem forall_split_iff {P : List α → α → List α → Prop} :
    (∀ pre a post, l = pre ++ a :: post → P pre a post)
      ↔ ∀ (i : Nat) (hi : i < l.length), P (l.take i) l[i] (l.drop (i + 1)) := by
  constructor
  · intro h i hi
    exact h _ _ _ (split_at_getElem? (List.getElem?_eq_getElem hi))
  · rintro h pre a post rfl
    have hi : pre.length < (pre ++ a :: post).length := by simp
    simpa using h pre.length hi

instance decidableForallSplit {P : List α → α → List α → Prop}
    [∀ pre a post, Decidable (P pre a post)] :
    Decidable (∀ pre a post, l = pre ++ a :: post → P pre a post) :=
  decidable_of_iff _ forall_split_iff.symm

end

end Kumihan
