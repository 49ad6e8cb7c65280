import Kumihan.Book.Compiled
import Kumihan.Proofs.Contents.Linking
import Kumihan.Proofs.Markup.Typography

/-!
# Line endings

Neither how the lines of a manuscript end nor whether the last one ends at all makes a
difference to what is compiled from it.  The punctuation is rewritten in the whole text and the
entries of the table of contents are read off the whole text, line ends included; but the one
keeps the lines apart and the other does not look beyond a line, so what a manuscript compiles
to can be said of its lines alone.

## Main definitions

* `Text.withReturns` — a text with a carriage return before every line feed.

## Main results

* `Text.lines_withReturns`, `Text.lines_concat_feed` — the lines do not change.
* `compileText_congr_lines` — **manuscripts with the same lines compile to the same book**, or
  fail to for the same reason.
* `compileText_lineEndings` — **line endings do not matter.**
-/

namespace Kumihan.Text

/-! ### The same lines -/

/-- A text with a carriage return before every line feed. -/
def withReturns (s : List Char) : List Char :=
  s.flatMap fun c => if c = '\n' then ['\r', '\n'] else [c]

theorem withReturns_of_notMem {x : List Char} (h : '\n' ∉ x) : withReturns x = x := by
  induction x with
  | nil => rfl
  | cons c x ih =>
    rw [List.mem_cons, not_or] at h
    have ih := ih h.2
    unfold withReturns at ih ⊢
    rw [List.flatMap_cons, if_neg (Ne.symm h.1), ih, List.singleton_append]

theorem withReturns_append_cons {x : List Char} (h : '\n' ∉ x) (y : List Char) :
    withReturns (x ++ '\n' :: y) = (x ++ ['\r']) ++ '\n' :: withReturns y := by
  have hx := withReturns_of_notMem h
  unfold withReturns at hx ⊢
  rw [List.flatMap_append, List.flatMap_cons, hx, if_pos rfl]
  simp

/-- **The lines do not tell how they end**, unless one of them ends in a carriage return of its
own. -/
theorem lines_withReturns {s : List Char} (h : '\r' ∉ s) : lines (withReturns s) = lines s := by
  induction s using lineInduction with
  | last x hx => rw [withReturns_of_notMem hx]
  | step x y hx ih =>
    have hreturn : '\r' ∉ x := fun hmem => h (List.mem_append_left _ hmem)
    have hy : '\r' ∉ y := fun hmem => h (List.mem_append_right _ (List.mem_cons_of_mem _ hmem))
    have hfeed : '\n' ∉ x ++ ['\r'] := by simpa using hx
    rw [withReturns_append_cons hx, lines_append_cons hfeed, lines_append_cons hx, ih hy,
      dropCarriageReturn_concat, dropCarriageReturn_of_notMem hreturn]

/-- **Nor do they tell whether the last of them ends.** -/
theorem lines_concat_feed {s : List Char} (hne : s ≠ []) (hlast : s.getLast? ≠ some '\n') :
    lines (s ++ ['\n']) = lines s := by
  induction s using lineInduction with
  | last x hx =>
    rw [lines_append_cons hx, lines_of_notMem hx, if_neg hne]
    rfl
  | step x y hx ih =>
    rw [List.append_cons, List.getLast?_append] at hlast
    -- behind the last line feed there is text, or the feed would be the last character
    have hy : y ≠ [] := by
      rintro rfl
      simp at hlast
    have hlast' : y.getLast? ≠ some '\n' := by
      intro hfeed
      rw [hfeed, Option.some_or] at hlast
      exact hlast rfl
    rw [List.append_assoc, List.cons_append, lines_append_cons hx, lines_append_cons hx,
      ih hy hlast']

end Kumihan.Text

namespace Kumihan.Book

open Kumihan.Markup

variable {plan : BookPlan} {s s' : List Char}

/-! ### What the lines decide -/

/-- The directives are read line by line. -/
theorem compose_congr_lines (h : Text.lines s = Text.lines s') : compose s = compose s' := by
  unfold compose Directive.ofText
  rw [h]

theorem buildSkeleton_congr_lines (h : Text.lines s = Text.lines s') :
    buildSkeleton plan s = buildSkeleton plan s' := by
  have hentries : scanEntries s = scanEntries s' := by
    rw [scanEntries_eq_lines, scanEntries_eq_lines s', h]
  unfold buildSkeleton
  rw [hentries]

/-- **Manuscripts with the same lines** compile to the same book, or fail to for the same
reason. -/
theorem compileText_congr_lines {raw raw' : String}
    (h : Text.lines raw.toList = Text.lines raw'.toList) :
    compileText plan raw = compileText plan raw' := by
  have hset : Text.lines (normalize raw.toList) = Text.lines (normalize raw'.toList) := by
    rw [lines_normalize, lines_normalize, h]
  unfold compileText
  dsimp only
  rw [compose_congr_lines hset, buildSkeleton_congr_lines hset]

/-- **Line endings do not matter.**  A manuscript without carriage returns compiles to the same
book with one before every line feed, and a manuscript whose last line does not end compiles to
the same book with a line feed behind it; what cannot be compiled fails for the same reason,
at the same line. -/
theorem compileText_lineEndings (plan : BookPlan) (raw : String) :
    ('\r' ∉ raw.toList →
        compileText plan (String.ofList (Text.withReturns raw.toList)) = compileText plan raw)
      ∧ (raw ≠ "" → raw.toList.getLast? ≠ some '\n' →
        compileText plan (raw ++ "\n") = compileText plan raw) := by
  constructor
  · intro hreturn
    apply compileText_congr_lines
    rw [String.toList_ofList, Text.lines_withReturns hreturn]
  · intro hne hlast
    have hne' : raw.toList ≠ [] := by simpa using hne
    apply compileText_congr_lines
    rw [String.toList_append]
    exact Text.lines_concat_feed hne' hlast

/-- A line that cannot be read is the second one, however the lines end. -/
theorem compileText_lineEndings_unknown :
    compileText slimPlan "本文\n#nope#" = .error (.unknownDirective ⟨"nope", 2⟩)
      ∧ compileText slimPlan "本文\r\n#nope#" = .error (.unknownDirective ⟨"nope", 2⟩)
      ∧ compileText slimPlan "本文\n#nope#\n" = .error (.unknownDirective ⟨"nope", 2⟩) := by
  obtain ⟨hreturns, hlast⟩ := compileText_lineEndings slimPlan "本文\n#nope#"
  have hfault : compileText slimPlan "本文\n#nope#" = .error (.unknownDirective ⟨"nope", 2⟩) := by
    decide +kernel
  exact ⟨hfault, (hreturns (by decide)).trans hfault,
    (hlast (by decide) (by decide)).trans hfault⟩

end Kumihan.Book
