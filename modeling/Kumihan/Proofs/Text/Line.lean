import Kumihan.Text.Line
import Kumihan.Proofs.Text.Occurrence

/-!
# Cutting a text into lines

## Main results

* `splitOn_append_cons` — the pieces before and behind a separator.
* `lineInduction` — induction on the lines of a text.
* `lines_of_notMem`, `lines_append_cons` — the lines of a text, one after the other.
* `filterMap_lines` — what is read off a line that neither its end nor an empty line
  matters for can be read off the stretches between the line feeds.
-/

namespace Kumihan.Text

/-! ### Pieces -/

theorem splitOn_of_notMem {c : Char} {x : List Char} (h : c ∉ x) : splitOn c x = [x] := by
  induction x with
  | nil => rfl
  | cons d x ih =>
    rw [List.mem_cons, not_or] at h
    rw [splitOn, if_neg (Ne.symm h.1), ih h.2]

theorem splitOn_ne_nil {α : Type} [DecidableEq α] (c : α) (s : List α) : splitOn c s ≠ [] := by
  induction s with
  | nil => simp [splitOn]
  | cons d s ih =>
    rw [splitOn]
    split
    · simp
    · split <;> simp

theorem splitOn_append_cons {c : Char} {x : List Char} (h : c ∉ x) (y : List Char) :
    splitOn c (x ++ c :: y) = x :: splitOn c y := by
  induction x with
  | nil => simp [splitOn]
  | cons d x ih =>
    rw [List.mem_cons, not_or] at h
    rw [List.cons_append, splitOn, if_neg (Ne.symm h.1), ih h.2]

/-- Induction on the lines of a text: it is one line, or a line before a shorter text. -/
theorem lineInduction {P : List Char → Prop} (last : ∀ x, '\n' ∉ x → P x)
    (step : ∀ x y, '\n' ∉ x → P y → P (x ++ '\n' :: y)) (s : List Char) : P s := by
  induction hlen : s.length using Nat.strongRecOn generalizing s with
  | ind n ih =>
    by_cases h : '\n' ∈ s
    · obtain ⟨x, y, rfl, hx⟩ := List.eq_append_cons_of_mem h
      refine step x y hx (ih y.length ?_ y rfl)
      rw [← hlen, List.length_append, List.length_cons]
      omega
    · exact last s h

/-- Every piece is a part of the text. -/
theorem infix_of_mem_splitOn {s l : List Char} (h : l ∈ splitOn '\n' s) : l <:+: s := by
  induction s using lineInduction with
  | last x hx =>
    rw [splitOn_of_notMem hx, List.mem_singleton] at h
    exact h ▸ List.infix_refl l
  | step x y hx ih =>
    rw [splitOn_append_cons hx] at h
    rcases List.mem_cons.mp h with rfl | h
    · exact List.infix_append' [] l ('\n' :: y)
    · exact (ih h).trans ((List.suffix_cons '\n' y).isInfix.trans (List.suffix_append x _).isInfix)

theorem notMem_of_mem_splitOn {s l : List Char} (h : l ∈ splitOn '\n' s) : '\n' ∉ l := by
  induction s using lineInduction with
  | last x hx =>
    rw [splitOn_of_notMem hx, List.mem_singleton] at h
    rwa [h]
  | step x y hx ih =>
    rw [splitOn_append_cons hx] at h
    rcases List.mem_cons.mp h with rfl | h
    · exact hx
    · exact ih h

/-- There is one piece more than there are separators. -/
theorem length_splitOn (s : List Char) : (splitOn '\n' s).length = s.count '\n' + 1 := by
  induction s using lineInduction with
  | last x hx =>
    rw [splitOn_of_notMem hx, List.count_eq_zero.mpr hx]
    rfl
  | step x y hx ih =>
    rw [splitOn_append_cons hx, List.length_cons, ih, List.count_append,
      List.count_eq_zero.mpr hx, List.count_cons_self, Nat.zero_add]

/-! ### Lines -/

theorem dropCarriageReturn_eq (l : List Char) :
    dropCarriageReturn l = l ∨ l = dropCarriageReturn l ++ ['\r'] := by
  induction l with
  | nil => exact Or.inl rfl
  | cons c l ih =>
    rw [dropCarriageReturn.eq_def]
    split
    · contradiction
    · next h =>
      rw [h]
      exact Or.inr rfl
    · next h =>
      obtain ⟨rfl, rfl⟩ := List.cons.inj h
      rcases ih with ih | ih
      · exact Or.inl (by rw [ih])
      · exact Or.inr (by rw [List.cons_append, ← ih])

theorem dropCarriageReturn_concat (l : List Char) : dropCarriageReturn (l ++ ['\r']) = l := by
  induction l with
  | nil => rfl
  | cons c l ih =>
    rw [List.cons_append, dropCarriageReturn, ih]
    simp

theorem dropCarriageReturn_of_getLast? {l : List Char} (h : l.getLast? ≠ some '\r') :
    dropCarriageReturn l = l := by
  rcases dropCarriageReturn_eq l with hl | hl
  · exact hl
  · rw [hl, List.getLast?_concat] at h
    exact absurd rfl h

theorem dropCarriageReturn_of_notMem {l : List Char} (h : '\r' ∉ l) :
    dropCarriageReturn l = l :=
  dropCarriageReturn_of_getLast? fun hlast => h (List.mem_of_getLast? hlast)

/-- Where more text stands behind the last carriage return, none is dropped. -/
theorem dropCarriageReturn_append_cons {c : Char} {y : List Char} (hne : y ≠ [])
    (hy : '\r' ∉ y) (x : List Char) : dropCarriageReturn (x ++ c :: y) = x ++ c :: y := by
  apply dropCarriageReturn_of_getLast?
  intro hlast
  rw [List.append_cons, List.getLast?_append, Option.or_eq_some_iff] at hlast
  rcases hlast with hlast | ⟨hnone, -⟩
  · exact hy (List.mem_of_getLast? hlast)
  · exact hne (List.getLast?_eq_none_iff.mp hnone)

theorem dropEmptyEnd_cons {ls : List (List Char)} (h : ls ≠ []) (l : List Char) :
    dropEmptyEnd (l :: ls) = l :: dropEmptyEnd ls := by
  cases ls with
  | nil => exact absurd rfl h
  | cons k ls =>
    rw [dropEmptyEnd]
    simp

/-- A text without a line feed is one line, unless it is empty. -/
theorem lines_of_notMem {x : List Char} (h : '\n' ∉ x) :
    lines x = if x = [] then [] else [dropCarriageReturn x] := by
  rw [lines, splitOn_of_notMem h]
  cases x with
  | nil => rfl
  | cons c x => rfl

/-- The first line of a text, and the lines behind it. -/
theorem lines_append_cons {x : List Char} (h : '\n' ∉ x) (y : List Char) :
    lines (x ++ '\n' :: y) = dropCarriageReturn x :: lines y := by
  rw [lines, splitOn_append_cons h, dropEmptyEnd_cons (splitOn_ne_nil '\n' y)]
  rfl

theorem filterMap_dropEmptyEnd {β : Type} {f : List Char → Option β} (hf : f [] = none)
    (ls : List (List Char)) : (dropEmptyEnd ls).filterMap f = ls.filterMap f := by
  induction ls with
  | nil => rfl
  | cons l ls ih =>
    rw [dropEmptyEnd.eq_def]
    split
    · contradiction
    · next h =>
      rw [h]
      simp [hf]
    · next h =>
      obtain ⟨rfl, rfl⟩ := List.cons.inj h
      rw [List.filterMap_cons, List.filterMap_cons, ih]

theorem dropEmptyEnd_isPrefix (ls : List (List Char)) : dropEmptyEnd ls <+: ls := by
  induction ls with
  | nil => exact List.prefix_rfl
  | cons k ls ih =>
    rw [dropEmptyEnd.eq_def]
    split
    · contradiction
    · exact List.nil_prefix
    · next heq =>
      obtain ⟨rfl, rfl⟩ := List.cons.inj heq
      exact (List.prefix_cons_inj _).mpr ih

theorem mem_of_mem_dropEmptyEnd {ls : List (List Char)} {l : List Char}
    (h : l ∈ dropEmptyEnd ls) : l ∈ ls :=
  (dropEmptyEnd_isPrefix ls).subset h

/-- A line has the number of the stretch that it is read from. -/
theorem exists_of_getElem?_lines {s l : List Char} {i : Nat} (h : (lines s)[i]? = some l) :
    ∃ piece, (splitOn '\n' s)[i]? = some piece ∧ l = dropCarriageReturn piece := by
  rw [lines, List.getElem?_map] at h
  obtain ⟨piece, hpiece, rfl⟩ := Option.map_eq_some_iff.mp h
  obtain ⟨hlt, hget⟩ := List.getElem?_eq_some_iff.mp hpiece
  refine ⟨piece, ?_, rfl⟩
  rw [← hget, (dropEmptyEnd_isPrefix _).getElem hlt]
  exact List.getElem?_eq_getElem _

/-- A line holds no line feed. -/
theorem notMem_of_mem_lines {s l : List Char} (h : l ∈ lines s) : '\n' ∉ l := by
  obtain ⟨piece, hpiece, rfl⟩ := List.mem_map.mp h
  have hfeed := notMem_of_mem_splitOn (mem_of_mem_dropEmptyEnd hpiece)
  rcases dropCarriageReturn_eq piece with hpiece | hpiece
  · rwa [hpiece]
  · intro hmem
    exact hfeed (hpiece ▸ List.mem_append_left _ hmem)

/-- What is read off every line, an empty line giving nothing and a carriage return
changing nothing, is read off the stretches between the line feeds. -/
theorem filterMap_lines {β : Type} {f : List Char → Option β} (hempty : f [] = none)
    (hreturn : ∀ l, f (l ++ ['\r']) = f l) (s : List Char) :
    (lines s).filterMap f = (splitOn '\n' s).filterMap f := by
  have hdrop : f ∘ dropCarriageReturn = f := by
    funext l
    rcases dropCarriageReturn_eq l with h | h
    · rw [Function.comp_apply, h]
    · exact (hreturn _).symm.trans (congrArg f h.symm)
  rw [lines, List.filterMap_map, hdrop, filterMap_dropEmptyEnd hempty]

end Kumihan.Text
