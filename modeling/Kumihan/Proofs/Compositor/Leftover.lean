import Kumihan.Proofs.Compositor.Continuing

/-!
# Where the leftover begins

A compositor notes the line of a fragment that goes into an empty galley.  The galley is what the
last stretch of the manuscript puts on a page, so the line noted is that of the first directive of
this stretch that writes something: the heading that opens it, or else its first text.

## Main definitions

* `Stretch.writers` — the directives of a stretch that put something on its page.
* `OpensAt` — a compositor has noted the line of the first of them.

## Main results

* `OpensAt.feed`, `opensAt_composed` — one directive, and a whole list of them.
* `exists_first_of_leftover` — the line noted is that of the first writer of the last stretch.
* `exists_writer_of_leftover` — **the leftover begins where a directive writes.**
-/

namespace Kumihan.Book

open Kumihan.Markup

/-! ### What is written -/

/-- The directive puts something on a page: a heading or text. -/
def writes (d : Directive) : Bool := d.command.opensHeading || d.command.producesText

/-- The directives that put something on the page of a stretch, in their order. -/
def Stretch.writers (s : Stretch) : List Directive := (s.opener.toList ++ s.inner).filter writes

theorem writes_of_isBoundary {d : Directive} (h : d.command.isBoundary = true) :
    writes d = d.command.opensHeading := by
  rw [writes, ← textFragment?_isSome, textFragment?_of_isBoundary h]
  exact Bool.or_false _

theorem writes_of_not_isBoundary {d : Directive} (h : d.command.isBoundary = false) :
    writes d = (textFragment? d).isSome := by
  rw [writes, opensHeading_of_not_isBoundary h, textFragment?_isSome]
  exact Bool.false_or _

/-- A new stretch writes the heading of its opener, if that has one. -/
theorem Stretch.writers_opener {d : Directive} (h : d.command.isBoundary = true) :
    ({ opener := some d } : Stretch).writers = if d.command.opensHeading then [d] else [] := by
  rw [← writes_of_isBoundary h]
  exact List.filter_cons

/-- A stretch that goes on writes what it wrote before, and the next text. -/
theorem Stretch.writers_concat (s : Stretch) {d : Directive} (h : d.command.isBoundary = false) :
    ({ s with inner := s.inner ++ [d] } : Stretch).writers
      = s.writers ++ if (textFragment? d).isSome then [d] else [] := by
  simp only [writers, ← List.append_assoc, List.filter_append, ← writes_of_not_isBoundary h,
    List.filter_cons, List.filter_nil]

/-- The last stretch is opened by a boundary. -/
theorem Manuscript.WellCut.isBoundary_of_mem_opener {m : Manuscript} (h : m.WellCut)
    {d : Directive} (hd : d ∈ m.rest.opener) : d.command.isBoundary = true := by
  rw [h.rest_opener_eq] at hd
  obtain ⟨s, hs, rfl⟩ := Option.map_eq_some_iff.mp hd
  exact h.closers s (List.mem_of_getLast? hs)

/-- **A stretch is empty exactly if no directive of it writes.** -/
theorem Stretch.writers_eq_nil_iff {m : Manuscript} (hcut : m.WellCut) :
    m.rest.writers = [] ↔ m.rest.isEmpty = true := by
  have hinner : m.rest.inner.filter writes = []
      ↔ (m.rest.inner.all fun d => !d.command.producesText) = true := by
    rw [List.filter_eq_nil_iff, List.all_eq_true]
    refine forall₂_congr fun d hd => ?_
    rw [writes_of_not_isBoundary (hcut.rest d hd), textFragment?_isSome]
    simp
  rw [writers, List.filter_append, List.append_eq_nil_iff, hinner, isEmpty, opensHeading,
    Bool.and_eq_true]
  refine and_congr_left' ?_
  cases hd : m.rest.opener with
  | none => simp
  | some d => simp [writes_of_isBoundary (hcut.isBoundary_of_mem_opener hd)]

/-! ### What is noted -/

/-- A compositor has noted the line of the first directive that writes in the last stretch. -/
def OpensAt (c : Compositor) (m : Manuscript) : Prop :=
  ∀ d, m.rest.writers.head? = some d → c.openedAt = d.line

namespace OpensAt

variable {c : Compositor} {m : Manuscript} {d : Directive}

/-- A boundary without a heading begins a stretch in which nothing is written yet. -/
theorem close (hd : d.command.isBoundary = true) (hheading : d.command.opensHeading = false)
    (c : Compositor) : OpensAt c (m.add d) := by
  intro e he
  rw [Manuscript.add_of_isBoundary m hd, Stretch.writers_opener hd, hheading] at he
  contradiction

/-- A boundary with a heading begins a stretch in which it has written. -/
theorem openHeading (hd : d.command.isBoundary = true) (hheading : d.command.opensHeading = true)
    (hline : c.openedAt = d.line) : OpensAt c (m.add d) := by
  intro e he
  rw [Manuscript.add_of_isBoundary m hd, Stretch.writers_opener hd, hheading] at he
  obtain rfl := Option.some.inj he
  exact hline

/-- Where nothing more is written, the same line is noted. -/
theorem skip (h : OpensAt c m) (hf : textFragment? d = none) (hd : d.command.isBoundary = false) :
    OpensAt c (m.add d) := by
  intro e he
  rw [Manuscript.add_of_not_isBoundary m hd, Stretch.writers_concat _ hd, hf] at he
  exact h e (by simpa using he)

/-- Where text is written, its line is noted if the galley is empty. -/
theorem push (h : OpensAt c m) (htracks : Tracks c m) (hcut : m.WellCut) {f : Fragment}
    (hf : textFragment? d = some f) (hd : d.command.isBoundary = false) :
    OpensAt (c.push f d.line) (m.add d) := by
  intro e he
  rw [Manuscript.add_of_not_isBoundary m hd, Stretch.writers_concat _ hd, hf, Option.isSome_some,
    if_pos rfl] at he
  show (if c.galley.isEmpty then d.line else c.openedAt) = e.line
  rw [htracks.isEmpty_galley]
  by_cases hempty : m.rest.isEmpty = true
  · rw [Stretch.writers_eq_nil_iff hcut |>.mpr hempty] at he
    obtain rfl := Option.some.inj he
    rw [if_pos hempty]
  · obtain ⟨first, more, hwriters⟩ :=
      List.exists_cons_of_ne_nil (mt (Stretch.writers_eq_nil_iff hcut).mp hempty)
    rw [hwriters] at he
    rw [if_neg hempty]
    exact h e (by rw [hwriters]; exact he)

/-- **One directive**: the compositor notes the line where a new galley begins. -/
theorem feed (h : OpensAt c m) (htracks : Tracks c m) (hcut : m.WellCut) (d : Directive) :
    OpensAt (c.feed d).1 (m.add d) := by
  unfold Compositor.feed
  cases hd : d.command with
  | chapter =>
    simp only [htracks.closeForChapter_eq hd]
    exact openHeading (by rw [hd]; rfl) (by rw [hd]; rfl) rfl
  | afterword =>
    simp only [htracks.closeForAfterword_eq hd]
    exact openHeading (by rw [hd]; rfl) (by rw [hd]; rfl) rfl
  | image | bibliography | endBibliography | endCopyright | endColophonText | endAfterword =>
    exact close (by rw [hd]; rfl) (by rw [hd]; rfl) _
  | toc | titlePage | prefaceImage | colophon | tocChapter | pageBreak =>
    exact h.skip (by simp [textFragment?, hd]) (by rw [hd]; rfl)
  | text | glyph | noIndent | blank | fill =>
    exact h.push htracks hcut (by simp [textFragment?, hd]) (by rw [hd]; rfl)

end OpensAt

/-! ### Whole manuscripts -/

theorem feedAll_concat (c : Compositor) (ds : List Directive) (d : Directive) :
    (c.feedAll (ds ++ [d])).1 = ((c.feedAll ds).1.feed d).1 := by
  induction ds generalizing c with
  | nil => rfl
  | cons e ds ih => exact ih _

/-- **A whole list of directives.** -/
theorem opensAt_composed (ds : List Directive) :
    OpensAt (composed ds) (Manuscript.ofDirectives ds) := by
  induction ds using List.reverseRecOn with
  | nil => nofun
  | append_singleton ds d ih =>
    rw [composed, feedAll_concat, Manuscript.ofDirectives_concat]
    exact ih.feed (tracks_feedAll ds) (Manuscript.wellCut_ofDirectives ds).2 d

/-- What writes in the last stretch is among the directives. -/
theorem mem_of_mem_writers_rest {ds : List Directive} {d : Directive}
    (h : d ∈ (Manuscript.ofDirectives ds).rest.writers) : d ∈ ds ∧ writes d = true := by
  obtain ⟨h, hwrites⟩ := List.mem_filter.mp h
  refine ⟨?_, hwrites⟩
  rcases List.mem_append.mp h with hopener | hinner
  · rw [Option.mem_toList, rest_opener_ofDirectives] at hopener
    exact mem_of_latestBoundary? hopener
  · rw [← (Manuscript.wellCut_ofDirectives ds).1]
    exact List.mem_append_right _ hinner

/-- **The line of the leftover** is that of the first directive that writes in the last stretch. -/
theorem exists_first_of_leftover {ds : List Directive}
    (h : (composeDirectives ds).leftover ≠ "") :
    ∃ d, (Manuscript.ofDirectives ds).rest.writers.head? = some d
      ∧ (composeDirectives ds).leftoverLine = d.line := by
  have htracks : Tracks (composed ds) _ := tracks_feedAll ds
  have hcontent : (composed ds).content ≠ "" := h
  have hline : (composeDirectives ds).leftoverLine = (composed ds).openedAt :=
    if_neg (by rwa [String.isEmpty_iff])
  have hempty : ¬ (Manuscript.ofDirectives ds).rest.isEmpty = true := by
    intro hempty
    rw [← htracks.isEmpty_galley, List.isEmpty_iff] at hempty
    exact hcontent (by rw [Compositor.content, hempty]; rfl)
  have hwriters := mt (Stretch.writers_eq_nil_iff (Manuscript.wellCut_ofDirectives ds).2).mp hempty
  obtain ⟨d, rest, hd⟩ := List.exists_cons_of_ne_nil hwriters
  have hfirst : (Manuscript.ofDirectives ds).rest.writers.head? = some d := by rw [hd]; rfl
  exact ⟨d, hfirst, hline.trans (opensAt_composed ds d hfirst)⟩

/-- **The leftover begins where a directive writes.** -/
theorem exists_writer_of_leftover {ds : List Directive}
    (h : (composeDirectives ds).leftover ≠ "") :
    ∃ d ∈ ds, writes d = true ∧ d.line = (composeDirectives ds).leftoverLine := by
  obtain ⟨d, hfirst, hline⟩ := exists_first_of_leftover h
  obtain ⟨hmem, hwrites⟩ := mem_of_mem_writers_rest (List.mem_of_mem_head? hfirst)
  exact ⟨d, hmem, hwrites, hline.symm⟩

end Kumihan.Book
