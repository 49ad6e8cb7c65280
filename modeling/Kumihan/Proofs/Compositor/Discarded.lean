import Kumihan.Proofs.Compositor.Galley
import Kumihan.Proofs.Compositor.Leftover
import Kumihan.Proofs.Markup.Reading

/-!
# Text that is discarded

What no directive closes gets on no page, and an author is told the line from which on this is so.
The directives of a text have growing numbers, and what is discarded is what the last of them write:
those behind the last boundary, and that boundary itself if it is a heading.  So one number is
enough to tell what is discarded from what is kept.

## Main definitions

* `Writing`, `writingsFrom` — what directives write, each with the directive that writes it.
* `keptBefore`, `discardedFrom` — what is written before a line, and from it on.
* `ReportsDiscarded` — a composition tells what it has discarded, and where that begins.

## Main results

* `exists_front` — a manuscript ends with its last stretch.
* `leftover_eq_fragmentsFrom` — the leftover is what the directives of this stretch write.
* `compose_reportsDiscarded` — **what is discarded is told exactly.**
-/

namespace Kumihan.Book

open Kumihan.Markup

/-! ### What is written, and by which directive -/

/-- Something that is written. -/
structure Writing where
  /-- The directive that writes it. -/
  writer : Directive
  /-- What it writes. -/
  fragment : Fragment

/-- What directives write, the first heading being number `number`. -/
def writingsFrom : Nat → List Directive → List Writing
  | _, [] => []
  | number, d :: ds =>
    ((fragment? number d).map (⟨d, ·⟩)).toList
      ++ writingsFrom (if d.command.opensHeading then number + 1 else number) ds

/-- What is written before a line. -/
def keptBefore (line : Int) (ds : List Directive) : List Writing :=
  (writingsFrom 1 ds).filter (·.writer.line < line)

/-- What is written from a line on. -/
def discardedFrom (line : Int) (ds : List Directive) : List Writing :=
  (writingsFrom 1 ds).filter (line ≤ ·.writer.line)

theorem map_fragment_writingsFrom (number : Nat) (ds : List Directive) :
    (writingsFrom number ds).map (·.fragment) = fragmentsFrom number ds := by
  induction ds generalizing number with
  | nil => rfl
  | cons d ds ih =>
    rw [writingsFrom, List.map_append, ih, fragmentsFrom]
    cases fragment? number d <;> rfl

theorem fragment?_isSome (number : Nat) (d : Directive) :
    (fragment? number d).isSome = writes d := by
  rw [fragment?, Option.isSome_or, heading?_isSome, textFragment?_isSome, writes]

/-- **What is written is written by the directives that write.** -/
theorem map_writer_writingsFrom (number : Nat) (ds : List Directive) :
    (writingsFrom number ds).map (·.writer) = ds.filter writes := by
  induction ds generalizing number with
  | nil => rfl
  | cons d ds ih =>
    rw [writingsFrom, List.map_append, ih, List.filter_cons, ← fragment?_isSome number d]
    cases fragment? number d <;> rfl

theorem writer_of_mem_writingsFrom {number : Nat} {ds : List Directive} {w : Writing}
    (h : w ∈ writingsFrom number ds) : w.writer ∈ ds.filter writes :=
  map_writer_writingsFrom number ds ▸ List.mem_map_of_mem h

theorem writingsFrom_append (number : Nat) (ds es : List Directive) :
    writingsFrom number (ds ++ es)
      = writingsFrom number ds
        ++ writingsFrom (number + ds.countP (·.command.opensHeading)) es := by
  induction ds generalizing number with
  | nil => rfl
  | cons d ds ih =>
    rw [List.cons_append, writingsFrom, ih, writingsFrom, List.append_assoc, List.countP_cons]
    by_cases hd : d.command.opensHeading = true
    · rw [if_pos hd, if_pos hd, Nat.add_assoc, Nat.add_comm 1]
    · rw [if_neg hd, if_neg hd, Nat.add_zero]

/-! ### The last stretch -/

/-- The directives of the last stretch of a manuscript, with the boundary that opens it. -/
def lastStretch (ds : List Directive) : List Directive :=
  (Manuscript.ofDirectives ds).rest.opener.toList ++ (Manuscript.ofDirectives ds).rest.inner

/-- **A manuscript ends with its last stretch.** -/
theorem exists_front (ds : List Directive) : ∃ front, ds = front ++ lastStretch ds := by
  obtain ⟨hdirectives, hcut⟩ := Manuscript.wellCut_ofDirectives ds
  unfold lastStretch
  rw [hcut.rest_opener_eq]
  conv => enter [1, front]; lhs; rw [← hdirectives]
  rw [Manuscript.directives]
  rcases List.eq_nil_or_concat (Manuscript.ofDirectives ds).segments with h | ⟨before, last, h⟩
  · rw [h]
    exact ⟨[], rfl⟩
  · rw [h, List.concat_eq_append, Manuscript.written_concat, List.getLast?_concat]
    exact ⟨Manuscript.written before ++ last.inner, by simp⟩

/-- What directives without a boundary write is text, whatever the number of the next heading. -/
theorem fragmentsFrom_of_not_isBoundary {ds : List Directive}
    (h : ∀ d ∈ ds, d.command.isBoundary = false) (number : Nat) :
    fragmentsFrom number ds = ds.filterMap textFragment? := by
  induction ds generalizing number with
  | nil => rfl
  | cons d ds ih =>
    obtain ⟨hd, hrest⟩ := List.forall_mem_cons.mp h
    have hheading := opensHeading_of_not_isBoundary hd
    rw [fragmentsFrom, ih hrest, fragment?, heading?_eq_none hheading, Option.none_or,
      List.filterMap_cons]
    cases textFragment? d <;> rfl

/-- Only what opens the last stretch can be a heading. -/
theorem countP_lastStretch (ds : List Directive) :
    (lastStretch ds).countP (·.command.opensHeading)
      = if (Manuscript.ofDirectives ds).rest.opensHeading then 1 else 0 := by
  have hinner : (Manuscript.ofDirectives ds).rest.inner.countP (·.command.opensHeading) = 0 := by
    refine List.countP_eq_zero.mpr fun d hd => ?_
    have hboundary := (Manuscript.wellCut_ofDirectives ds).2.rest d hd
    simp [opensHeading_of_not_isBoundary hboundary]
  rw [lastStretch, List.countP_append, hinner, Stretch.opensHeading]
  cases (Manuscript.ofDirectives ds).rest.opener with
  | none => rfl
  | some d => exact List.countP_singleton

/-- **The leftover is what the directives of the last stretch write.** -/
theorem leftover_eq_fragmentsFrom {ds front : List Directive}
    (hsplit : ds = front ++ lastStretch ds) :
    (Manuscript.ofDirectives ds).leftover
      = fragmentsFrom (1 + front.countP (·.command.opensHeading)) (lastStretch ds) := by
  obtain ⟨-, hcut⟩ := Manuscript.wellCut_ofDirectives ds
  have hnumber : nextHeading (Manuscript.ofDirectives ds).segments
      = 1 + front.countP (·.command.opensHeading) := by
    have hcount := congrArg (List.countP (·.command.opensHeading)) hsplit
    have hnext := Manuscript.next_ofDirectives ds
    rw [List.countP_append, countP_lastStretch] at hcount
    rw [Manuscript.next] at hnext
    omega
  rw [Manuscript.leftover, hnumber, Stretch.fragments, lastStretch]
  cases hopener : (Manuscript.ofDirectives ds).rest.opener with
  | none => exact (fragmentsFrom_of_not_isBoundary hcut.rest _).symm
  | some d =>
    have htext := textFragment?_of_isBoundary (hcut.isBoundary_of_mem_opener hopener)
    rw [Option.bind_some, Option.toList_some, List.singleton_append, fragmentsFrom, fragment?,
      htext, Option.or_none, fragmentsFrom_of_not_isBoundary hcut.rest]

/-- **What gets on the pages** is what the directives before the last stretch write. -/
theorem fragments_sheets_eq {ds front : List Directive} (hsplit : ds = front ++ lastStretch ds) :
    (Manuscript.ofDirectives ds).sheets.flatMap (·.fragments) = fragmentsFrom 1 front := by
  have hall := fragments_ofDirectives ds
  rw [leftover_eq_fragmentsFrom hsplit] at hall
  conv at hall => rhs; rw [hsplit]
  rw [fragmentsFrom_append] at hall
  exact List.append_cancel_right hall

/-! ### Lines -/

/-- A line parts what is written before it from what is written from it on. -/
theorem filter_line_append {line : Int} {xs ys : List Writing}
    (hxs : ∀ w ∈ xs, w.writer.line < line) (hys : ∀ w ∈ ys, line ≤ w.writer.line) :
    (xs ++ ys).filter (·.writer.line < line) = xs
      ∧ (xs ++ ys).filter (line ≤ ·.writer.line) = ys := by
  rw [List.filter_append, List.filter_append]
  constructor
  · rw [List.filter_eq_self.mpr fun w hw => decide_eq_true (hxs w hw),
      List.filter_eq_nil_iff.mpr fun w hw => ?_, List.append_nil]
    simpa using hys w hw
  · rw [List.filter_eq_self.mpr fun w hw => decide_eq_true (hys w hw),
      List.filter_eq_nil_iff.mpr fun w hw => ?_, List.nil_append]
    simpa using hxs w hw

section

variable {ds front : List Directive} {d : Directive}

/-- Before the line of the first directive that writes in the last stretch, and from it on, stand
the directives before the stretch and those of it. -/
theorem writings_split (hlines : ds.Pairwise (·.line < ·.line))
    (hsplit : ds = front ++ lastStretch ds)
    (hfirst : (Manuscript.ofDirectives ds).rest.writers.head? = some d) :
    keptBefore d.line ds = writingsFrom 1 front
      ∧ discardedFrom d.line ds
        = writingsFrom (1 + front.countP (·.command.opensHeading)) (lastStretch ds) := by
  obtain ⟨more, hwriters⟩ := List.head?_eq_some_iff.mp hfirst
  have hmem : d ∈ lastStretch ds := (List.mem_filter.mp (hwriters ▸ List.mem_cons_self)).1
  rw [hsplit] at hlines
  obtain ⟨-, hlast, hbefore⟩ := List.pairwise_append.mp hlines
  have hkept : ∀ w ∈ writingsFrom 1 front, w.writer.line < d.line := fun w hw =>
    hbefore _ (List.mem_filter.mp (writer_of_mem_writingsFrom hw)).1 d hmem
  have hdiscarded : ∀ w ∈ writingsFrom (1 + front.countP (·.command.opensHeading)) (lastStretch ds),
      d.line ≤ w.writer.line := by
    intro w hw
    have hwriter : w.writer ∈ d :: more := hwriters ▸ writer_of_mem_writingsFrom hw
    have hgrow : (d :: more).Pairwise (·.line < ·.line) := hwriters ▸ hlast.filter writes
    rcases List.mem_cons.mp hwriter with heq | hwriter
    · exact Int.le_of_eq (congrArg Directive.line heq).symm
    · exact Int.le_of_lt ((List.pairwise_cons.mp hgrow).1 _ hwriter)
  have hall : writingsFrom 1 ds = writingsFrom 1 front
      ++ writingsFrom (1 + front.countP (·.command.opensHeading)) (lastStretch ds) := by
    conv_lhs => rw [hsplit]
    exact writingsFrom_append ..
  rw [keptBefore, discardedFrom, hall]
  exact filter_line_append hkept hdiscarded

/-- No boundary stands behind the first directive that writes in the last stretch. -/
theorem line_le_of_isBoundary (hlines : ds.Pairwise (·.line < ·.line))
    (hfirst : (Manuscript.ofDirectives ds).rest.writers.head? = some d) {e : Directive}
    (he : e ∈ ds) (hboundary : e.command.isBoundary = true) : e.line ≤ d.line := by
  obtain ⟨front, hsplit⟩ := exists_front ds
  have hmem : d ∈ lastStretch ds := (List.mem_filter.mp (List.mem_of_mem_head? hfirst)).1
  rw [hsplit] at hlines he
  obtain ⟨-, hlast, hbefore⟩ := List.pairwise_append.mp hlines
  rcases List.mem_append.mp he with he | he
  · exact Int.le_of_lt (hbefore e he d hmem)
  · -- in the last stretch only its opener is a boundary, and this comes first
    rw [lastStretch] at he hmem hlast
    rcases List.mem_append.mp he with he | he
    · rw [Option.mem_toList.mp he] at hmem hlast
      rcases List.mem_cons.mp hmem with rfl | hmem
      · exact Int.le_refl _
      · exact Int.le_of_lt ((List.pairwise_cons.mp hlast).1 d hmem)
    · rw [(Manuscript.wellCut_ofDirectives ds).2.rest e he] at hboundary
      contradiction

end

/-! ### Reports -/

/-- A composition of directives tells what it has discarded: the text of the leftover is what is
written from the line of the leftover on, this line is that of the first directive that writes any
of it, no boundary stands behind it, and what is written before it is on the pages. -/
structure ReportsDiscarded (ds : List Directive) (c : Composition) : Prop where
  leftover_eq : c.leftover = render ((discardedFrom c.leftoverLine ds).map (·.fragment))
  first : ∃ w, (discardedFrom c.leftoverLine ds).head? = some w ∧ w.writer.line = c.leftoverLine
  boundary : ∀ d ∈ ds, d.command.isBoundary = true → d.line ≤ c.leftoverLine
  pages : (setSheets ds).flatMap (·.fragments)
    = (keptBefore c.leftoverLine ds).map (·.fragment)

/-- A fragment is not without markup. -/
theorem render_ne_empty (f : Fragment) : f.render ≠ "" := by
  have hbegins {a : String} (ha : a ≠ "") (b : String) : a ++ b ≠ "" := fun h =>
    ha (String.append_eq_empty_iff.mp h).1
  cases f with
  | paragraph indent text => cases indent <;> exact hbegins (hbegins (by decide) _) _
  | blank => decide
  | fill text => exact hbegins (hbegins (hbegins (by decide) _) _) _
  | chapterHeading number title | afterwordHeading number title =>
    exact hbegins (hbegins (hbegins (hbegins (hbegins (by decide) _) _) _) _) _

theorem render_eq_empty_iff {fs : List Fragment} : render fs = "" ↔ fs = [] := by
  refine ⟨fun h => ?_, fun h => by rw [h]; rfl⟩
  cases fs with
  | nil => rfl
  | cons f fs =>
    rw [render, List.map_cons, String.join_cons] at h
    exact absurd (String.append_eq_empty_iff.mp h).1 (render_ne_empty f)

theorem leftover_composeDirectives (ds : List Directive) :
    (composeDirectives ds).leftover = render (Manuscript.ofDirectives ds).leftover :=
  (tracks_feedAll ds).content

theorem reportsDiscarded_composeDirectives {ds : List Directive}
    (hlines : ds.Pairwise (·.line < ·.line)) (h : (composeDirectives ds).leftover ≠ "") :
    ReportsDiscarded ds (composeDirectives ds) := by
  obtain ⟨d, hfirst, hline⟩ := exists_first_of_leftover h
  obtain ⟨front, hsplit⟩ := exists_front ds
  obtain ⟨hkept, hdiscarded⟩ := writings_split hlines hsplit hfirst
  constructor
  · rw [hline, hdiscarded, map_fragment_writingsFrom, ← leftover_eq_fragmentsFrom hsplit,
      leftover_composeDirectives]
  · have hwriter : (writingsFrom (1 + front.countP (·.command.opensHeading))
        (lastStretch ds)).head?.map (·.writer) = some d := by
      rw [← List.head?_map, map_writer_writingsFrom]
      exact hfirst
    obtain ⟨w, hw, hwd⟩ := Option.map_eq_some_iff.mp hwriter
    exact ⟨w, by rw [hline, hdiscarded, hw], by rw [hline, hwd]⟩
  · rw [hline]
    exact fun e he hboundary => line_le_of_isBoundary hlines hfirst he hboundary
  · rw [hline, hkept, map_fragment_writingsFrom, setSheets_eq, fragments_sheets_eq hsplit]

/-- **What is discarded is told exactly.**  In a text all of whose lines are directives, the line of
the leftover is zero exactly if there is no leftover; everything that the text writes is then on the
pages.  Otherwise the leftover is what is written from this line on, this line is that of the first
directive that writes any of it, no boundary stands behind it, and the pages are set from what is
written before it. -/
theorem compose_reportsDiscarded {s : List Char} {ds : List Directive}
    (hread : Directive.ofText s = (ds, none)) :
    ∃ c, compose s = .ok c
      ∧ (writingsFrom 1 ds).map (·.writer) = ds.filter writes
      ∧ c.actions = (setSheets ds).map (·.action) ∧ (∀ sheet ∈ setSheets ds, sheet.WellSet)
      ∧ (c.leftover = "" ↔ c.leftoverLine = 0)
      ∧ (c.leftover = "" → (setSheets ds).flatMap (·.fragments)
          = (writingsFrom 1 ds).map (·.fragment))
      ∧ (c.leftover ≠ "" → ReportsDiscarded ds c) := by
  obtain ⟨hlines, hpositive⟩ := pairwise_line_ofLines (Text.lines s) 1
  rw [← Directive.ofText, hread] at hlines hpositive
  refine ⟨composeDirectives ds, by rw [compose, hread], map_writer_writingsFrom 1 ds,
    (Compositor.map_action_feedAllSheets {} ds).symm, fun sheet hsheet => ?_, ?_, fun hnone => ?_,
    reportsDiscarded_composeDirectives hlines⟩
  · rw [setSheets_eq] at hsheet
    exact Manuscript.wellSet_of_mem_sheets hsheet
  · constructor
    · intro hnone
      exact if_pos (String.isEmpty_iff.mpr hnone)
    · intro hzero
      by_contra hleftover
      obtain ⟨d, hd, -, hline⟩ := exists_writer_of_leftover hleftover
      have := hpositive d hd
      omega
  · have hall := fragments_ofDirectives ds
    rw [leftover_composeDirectives, render_eq_empty_iff] at hnone
    rw [hnone, List.append_nil, ← setSheets_eq, ← map_fragment_writingsFrom] at hall
    exact hall

/-- A chapter that a picture closes, and one that nothing closes. -/
def openEnd : List Char := "#chapter,A#\nx\n#img,a.png#\n----------\n#chapter,B#\ny\n".toList

/-- The directives of the text. -/
def openEndDirectives : List Directive :=
  [{ command := .chapter, argument := "A", line := 1 },
   { command := .text, argument := "x", line := 2 },
   { command := .image, argument := "a.png", line := 3 },
   { command := .pageBreak, line := 4 },
   { command := .chapter, argument := "B", line := 5 },
   { command := .text, argument := "y", line := 6 }]

theorem reportsDiscarded_openEnd :
    ∃ c, compose openEnd = .ok c ∧ c.leftoverLine = 5 ∧ ReportsDiscarded openEndDirectives c
      ∧ (discardedFrom 5 openEndDirectives).map (·.fragment)
        = [.chapterHeading 2 "B", .paragraph true "y"]
      ∧ (keptBefore 5 openEndDirectives).map (·.fragment)
        = [.chapterHeading 1 "A", .paragraph true "x"] := by
  have hread : Directive.ofText openEnd = (openEndDirectives, none) := by
    cbv
  have hline : (composeDirectives openEndDirectives).leftoverLine = 5 := by decide +kernel
  obtain ⟨c, hc, -, -, -, hzero, -, hreports⟩ := compose_reportsDiscarded hread
  obtain rfl : composeDirectives openEndDirectives = c := by
    rw [compose, hread] at hc
    exact Except.ok.inj hc
  have hleftover : (composeDirectives openEndDirectives).leftover ≠ "" := by
    rw [ne_eq, hzero, hline]
    decide
  exact ⟨_, hc, hline, hreports hleftover, by decide +kernel, by decide +kernel⟩

end Kumihan.Book
