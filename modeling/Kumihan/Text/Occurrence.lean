/-!
# Occurrences of a pattern in a text

A text under analysis is a `List Char`.  Occurrences are read from the left and
do not overlap: after one of them, the search goes on behind it.

## Main definitions

* `cut? pat s` — what stands before and after the first occurrence of `pat`.
* `hasInfix pat s` — `pat` occurs in `s`.
* `countOf pat s`, `replaceAll pat rep s`, `replaceFirst pat rep s`.
* `splitOn c s` — the pieces of `s` between the characters `c`.
* `cutLast? c s` — what stands before and after the last `c`.
-/

namespace Kumihan.Text

/-- What stands before and after the first occurrence of `pat`. -/
def cut? (pat : List Char) : List Char → Option (List Char × List Char)
  | [] => if pat.isEmpty then some ([], []) else none
  | c :: s =>
    if pat.isPrefixOf (c :: s) then some ([], (c :: s).drop pat.length)
    else (cut? pat s).map fun (before, after) => (c :: before, after)

/-- `pat` occurs somewhere in the text. -/
def hasInfix (pat s : List Char) : Bool := (cut? pat s).isSome

theorem cut?_eq_append {pat s before after : List Char}
    (h : cut? pat s = some (before, after)) : s = before ++ pat ++ after := by
  induction s generalizing before after with
  | nil =>
    simp only [cut?] at h
    split at h
    · next hp =>
      obtain ⟨rfl, rfl⟩ : before = [] ∧ after = [] := by simpa using h.symm
      simpa [List.isEmpty_iff] using hp.symm
    · simp at h
  | cons c s ih =>
    simp only [cut?] at h
    split at h
    · next hp =>
      obtain ⟨rfl, rfl⟩ : before = [] ∧ after = (c :: s).drop pat.length := by
        simpa [eq_comm] using h
      exact List.prefix_iff_eq_append.1 (List.isPrefixOf_iff_prefix.1 hp) |>.symm
    · obtain ⟨⟨b, a⟩, hcut, hba⟩ := Option.map_eq_some_iff.1 h
      obtain ⟨rfl, rfl⟩ : c :: b = before ∧ a = after := by simpa using hba
      simp [ih hcut]

/-- Behind an occurrence of a pattern that is not empty, less text is left. -/
theorem length_lt_of_cut? {pat s before after : List Char} (hpat : pat ≠ [])
    (h : cut? pat s = some (before, after)) : after.length < s.length := by
  have := List.length_pos_iff.2 hpat
  rw [cut?_eq_append h]
  simp only [List.length_append]
  omega

/-- How often `pat` occurs; an empty pattern is not counted. -/
def countOf (pat s : List Char) : Nat :=
  if _hpat : pat = [] then 0
  else match _h : cut? pat s with
    | none => 0
    | some (_, after) => countOf pat after + 1
termination_by s.length
decreasing_by exact length_lt_of_cut? _hpat _h

/-- Every occurrence of `pat` written as `rep`. -/
def replaceAll (pat rep s : List Char) : List Char :=
  if _hpat : pat = [] then s
  else match _h : cut? pat s with
    | none => s
    | some (before, after) => before ++ rep ++ replaceAll pat rep after
termination_by s.length
decreasing_by exact length_lt_of_cut? _hpat _h

/-- The first occurrence of `pat` written as `rep`. -/
def replaceFirst (pat rep s : List Char) : List Char :=
  match cut? pat s with
  | none => s
  | some (before, after) => before ++ rep ++ after

/-- The pieces of a text between the characters `c`; there is always one. -/
def splitOn {α : Type} [DecidableEq α] (c : α) : List α → List (List α)
  | [] => [[]]
  | d :: s =>
    if d = c then [] :: splitOn c s
    else match splitOn c s with
      | [] => [[d]]
      | piece :: pieces => (d :: piece) :: pieces

/-- What stands before and after the first `c`. -/
def cutAt? (c : Char) : List Char → Option (List Char × List Char)
  | [] => none
  | d :: s =>
    if d = c then some ([], s)
    else (cutAt? c s).map fun (before, after) => (d :: before, after)

/-- What stands before and after the last `c`. -/
def cutLast? (c : Char) : List Char → Option (List Char × List Char)
  | [] => none
  | d :: s =>
    match cutLast? c s with
    | some (before, after) => some (d :: before, after)
    | none => if d = c then some ([], s) else none

end Kumihan.Text
