import Kumihan.Proofs.Markup.Reading

/-!
# Lines in brackets

A line that is nothing but a bracketed name and an argument without a `#` holds no other name,
whatever the argument holds otherwise.

## Main definitions

* `bracketedLine name argument` — the line as it is written.

## Main results

* `eq_of_infix_bracketedLine` — a marker on the line is that of its name.
* `not_hidesBrackets_bracketedLine`, `bracketed?_bracketedLine` — how its brackets are read.
-/

namespace Kumihan.Markup

/-- The line that gives the command of a name an argument. -/
def bracketedLine (name argument : List Char) : List Char :=
  '#' :: (name ++ ',' :: argument) ++ ['#']

/-! ### One line -/

section

variable {name argument : List Char}

/-- What begins with a `#` and goes on can only stand at the beginning of the line. -/
theorem prefix_of_infix_bracketedLine (hname : '#' ∉ name) (hargument : '#' ∉ argument)
    {v : List Char} (hv : v ≠ []) (h : '#' :: v <:+: bracketedLine name argument) :
    v <+: name ++ ',' :: argument ++ ['#'] := by
  have hbody : '#' ∉ name ++ ',' :: argument := by simp [hname, hargument]
  rw [bracketedLine, List.cons_append, List.infix_cons_iff] at h
  rcases h with h | h
  · exact (List.cons_prefix_cons.mp h).2
  · rcases List.infix_concat_iff.mp h with h | h
    · -- it would end with the line, and so be the last `#` alone
      rcases List.suffix_concat_iff.mp h with h | ⟨t, ht, hsuffix⟩
      · contradiction
      · cases t with
        | nil => simp [hv] at ht
        | cons e t =>
          obtain ⟨rfl, -⟩ := List.cons.inj ht
          exact absurd (hsuffix.subset List.mem_cons_self) hbody
    · exact absurd (h.subset List.mem_cons_self) hbody

/-- A marker on the line is that of its name. -/
theorem eq_of_infix_bracketedLine (hname : '#' ∉ name) (hcomma : ',' ∉ name)
    (hargument : '#' ∉ argument) {other : List Char} (hother : ',' ∉ other)
    (h : '#' :: other ++ [','] <:+: bracketedLine name argument) : other = name := by
  obtain ⟨t, ht⟩ := prefix_of_infix_bracketedLine hname hargument (v := other ++ [',']) (by simp) h
  have heq : other ++ ',' :: t = name ++ ',' :: (argument ++ ['#']) := by simpa using ht
  exact (Text.cut_unique hother hcomma heq).1

/-- **The brackets of the line are looked at**, unless it is a reference to a glyph: no mark that
hides them is on it. -/
theorem not_hidesBrackets_bracketedLine (hname : '#' ∉ name) (hcomma : ',' ∉ name)
    (hargument : '#' ∉ argument) (hglyph : name ≠ ['g', 'a', 'i', 'j', 'i']) :
    ¬ HidesBrackets (bracketedLine name argument) := by
  rintro (h | h)
  · -- between the two `#` of the line there is a comma
    obtain ⟨t, ht⟩ := prefix_of_infix_bracketedLine hname hargument (by simp) h
    have hbody : '#' ∉ name ++ ',' :: argument := by simp [hname, hargument]
    have heq : ['t', 'o', 'c'] ++ '#' :: t = (name ++ ',' :: argument) ++ '#' :: [] := by
      simpa using ht
    have htoc := (Text.cut_unique (by decide) hbody heq).1
    have hmem : ',' ∈ ['t', 'o', 'c'] := by simp [htoc]
    simp at hmem
  · have hother : ',' ∉ ['g', 'a', 'i', 'j', 'i'] := by decide
    exact hglyph (eq_of_infix_bracketedLine hname hcomma hargument hother h).symm

theorem bracketed?_bracketedLine (hfeed : '\n' ∉ bracketedLine name argument) :
    bracketed? (bracketedLine name argument) = some (name ++ ',' :: argument) :=
  (bracketed?_eq_some_iff hfeed).mpr
    ⟨[], [], by simp [bracketedLine], List.not_mem_nil, List.not_mem_nil⟩

end

end Kumihan.Markup
