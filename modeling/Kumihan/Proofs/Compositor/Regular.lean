import Kumihan.Proofs.Compositor.Heading
import Kumihan.Proofs.Counting

/-!
# Manuscripts in regular order

In a manuscript in regular order every text that begins with a heading gets on a page that
the table of contents links to, and no other text does.  What the order asks for is said of
the directives; what it comes to is said of the segments between the boundaries.

## Main definitions

* `boundaries ds` — the boundaries among directives.
* `Regular ds` — the directives are in regular order.

## Main results

* `Regular.isLinked_eq_opensHeading` — **the linked sheets are those with a heading.**
* `Regular.countP_isLinked` — there is one for each heading that is written.
-/

namespace Kumihan.Markup.Command

/-- The commands that end a part of the book. -/
def isEndMarker : Command → Bool
  | endBibliography | endCopyright | endColophonText | endAfterword => true
  | toc | chapter | image | titlePage | prefaceImage | afterword | bibliography | fill | colophon
  | tocChapter | glyph | noIndent | pageBreak | blank | text => false

end Kumihan.Markup.Command

namespace Kumihan.Book

open Kumihan.Markup

/-- The boundaries among directives, in their order. -/
def boundaries (ds : List Directive) : List Command := (ds.map (·.command)).filter (·.isBoundary)

/-- Directives in regular order. -/
structure Regular (ds : List Directive) : Prop where
  /-- A chapter is closed by the next one or by a picture. -/
  chapter : ∀ pre d post, ds = pre ++ d :: post → d.command = .chapter →
    (boundaries post).head? = some .chapter ∨ (boundaries post).head? = some .image
  /-- There is no bibliography. -/
  noBibliography : ∀ d ∈ ds, d.command ≠ .bibliography
  /-- There is no copyright page. -/
  noCopyright : ∀ d ∈ ds, d.command ≠ .endCopyright
  /-- An afterword is closed by its end marker; no other one and no chapter comes behind it. -/
  afterword : ∀ pre d post, ds = pre ++ d :: post → d.command = .afterword →
    (boundaries post).head? = some .endAfterword
      ∧ ∀ e ∈ post, e.command ≠ .chapter ∧ e.command ≠ .afterword
  /-- The end marker of an afterword closes one. -/
  endAfterword : ∀ pre d post, ds = pre ++ d :: post → d.command = .endAfterword →
    (boundaries pre).getLast? = some .afterword
  /-- Behind the first chapter no text stands between a picture or an end marker and the next
  chapter. -/
  continued : ∀ pre d post, ds = pre ++ d :: post →
    d.command = .image ∨ d.command.isEndMarker = true → (∃ c ∈ pre, c.command = .chapter) →
    (boundaries post).head? = some .chapter →
    ∀ e ∈ post.takeWhile (!·.command.isBoundary), e.command.producesText = false

/-! ### Boundaries -/

theorem boundaries_append (ds es : List Directive) :
    boundaries (ds ++ es) = boundaries ds ++ boundaries es := by
  simp [boundaries]

theorem boundaries_eq_nil {ds : List Directive} (h : ∀ d ∈ ds, d.command.isBoundary = false) :
    boundaries ds = [] := by
  rw [boundaries, List.filter_eq_nil_iff]
  intro c hc
  obtain ⟨d, hd, rfl⟩ := List.mem_map.mp hc
  simp [h d hd]

theorem boundaries_cons {d : Directive} (h : d.command.isBoundary = true) (ds : List Directive) :
    boundaries (d :: ds) = d.command :: boundaries ds := by
  simp [boundaries, h]

namespace Manuscript

variable {m : Manuscript}

/-- The boundaries of segments are what closes them. -/
theorem boundaries_written {segments : List Segment}
    (hclosers : ∀ s ∈ segments, s.closer.command.isBoundary = true)
    (hinners : ∀ s ∈ segments, ∀ d ∈ s.inner, d.command.isBoundary = false) :
    boundaries (written segments) = segments.map (·.closer.command) := by
  induction segments with
  | nil => rfl
  | cons s segments ih =>
    have ih := ih (fun t ht => hclosers t (List.mem_cons_of_mem s ht))
      fun t ht => hinners t (List.mem_cons_of_mem s ht)
    have hs : written (s :: segments) = s.inner ++ s.closer :: written segments := by
      simp [written]
    rw [hs, boundaries_append, boundaries_eq_nil (hinners s List.mem_cons_self), List.nil_append,
      boundaries_cons (hclosers s List.mem_cons_self), ih, List.map_cons]

end Manuscript

/-! ### Segments in regular order -/

section

variable {ds : List Directive} {earlier later : List Segment} {s : Segment}

/-- The directives around a segment that has an opener. -/
theorem exists_cut_of_opener
    (hsplit : (Manuscript.ofDirectives ds).segments = earlier ++ s :: later) {o : Directive}
    (ho : s.opener = some o) :
    ∃ front back, ds = front ++ o :: (s.inner ++ s.closer :: back)
      ∧ o.command.isBoundary = true ∧ ∀ e ∈ earlier, e.closer = o ∨ e.closer ∈ front := by
  obtain ⟨hdirectives, hcut⟩ := Manuscript.wellCut_ofDirectives ds
  obtain ⟨back, hback⟩ := Manuscript.directives_split hsplit
  have hopener := hcut.opener_eq hsplit
  obtain ⟨e, he, rfl⟩ := Option.map_eq_some_iff.mp (hopener.symm.trans ho)
  obtain ⟨before, rfl⟩ := List.getLast?_eq_some_iff.mp he
  rw [hdirectives, Manuscript.written_concat] at hback
  refine ⟨Manuscript.written before ++ e.inner, back, by simpa using hback,
    hcut.closers e (by simp [hsplit]), ?_⟩
  intro t ht
  rcases List.mem_append.mp ht with ht | ht
  · refine Or.inr (List.mem_append_left _ (List.mem_flatMap.mpr ⟨t, ht, ?_⟩))
    simp
  · exact Or.inl (by rw [List.mem_singleton.mp ht])

/-- What comes next behind the opener of a segment is its closer. -/
theorem head?_boundaries_segment
    (hsplit : (Manuscript.ofDirectives ds).segments = earlier ++ s :: later)
    (back : List Directive) :
    (boundaries (s.inner ++ s.closer :: back)).head? = some s.closer.command := by
  obtain ⟨-, hcut⟩ := Manuscript.wellCut_ofDirectives ds
  have hs : s ∈ (Manuscript.ofDirectives ds).segments := by simp [hsplit]
  rw [boundaries_append, boundaries_eq_nil (hcut.inners s hs), List.nil_append,
    boundaries_cons (hcut.closers s hs), List.head?_cons]

/-- Every boundary among the directives before a segment closes one of the segments before
it, so its opener is the last of them. -/
theorem getLast?_boundaries_segment
    (hsplit : (Manuscript.ofDirectives ds).segments = earlier ++ s :: later) :
    (boundaries (Manuscript.written earlier ++ s.inner)).getLast? = s.opener.map (·.command) := by
  obtain ⟨-, hcut⟩ := Manuscript.wellCut_ofDirectives ds
  have hs : s ∈ (Manuscript.ofDirectives ds).segments := by simp [hsplit]
  have hearlier : ∀ e ∈ earlier, e ∈ (Manuscript.ofDirectives ds).segments := by
    intro e he
    simp [hsplit, he]
  rw [boundaries_append, boundaries_eq_nil (hcut.inners s hs), List.append_nil,
    Manuscript.boundaries_written (fun e he => hcut.closers e (hearlier e he))
      fun e he => hcut.inners e (hearlier e he),
    hcut.opener_eq hsplit, List.getLast?_map, Option.map_map]
  rfl

namespace Regular

/-- A segment that a chapter opens is closed by a chapter or by a picture. -/
theorem closer_of_chapter (h : Regular ds)
    (hsplit : (Manuscript.ofDirectives ds).segments = earlier ++ s :: later) {o : Directive}
    (ho : s.opener = some o) (hchapter : o.command = .chapter) :
    s.closer.command = .chapter ∨ s.closer.command = .image := by
  obtain ⟨front, back, hds, -, -⟩ := exists_cut_of_opener hsplit ho
  have hnext := h.chapter front o _ hds hchapter
  rw [head?_boundaries_segment hsplit] at hnext
  simpa using hnext

/-- A segment that an afterword opens is closed by the end marker of an afterword. -/
theorem closer_of_afterword (h : Regular ds)
    (hsplit : (Manuscript.ofDirectives ds).segments = earlier ++ s :: later) {o : Directive}
    (ho : s.opener = some o) (hafterword : o.command = .afterword) :
    s.closer.command = .endAfterword := by
  obtain ⟨front, back, hds, -, -⟩ := exists_cut_of_opener hsplit ho
  have hnext := (h.afterword front o _ hds hafterword).1
  rw [head?_boundaries_segment hsplit] at hnext
  exact Option.some.inj hnext

/-- A segment that the end marker of an afterword closes is opened by an afterword. -/
theorem opener_of_endAfterword (h : Regular ds)
    (hsplit : (Manuscript.ofDirectives ds).segments = earlier ++ s :: later)
    (hcloser : s.closer.command = .endAfterword) :
    ∃ o, s.opener = some o ∧ o.command = .afterword := by
  obtain ⟨back, hback⟩ := Manuscript.directives_split hsplit
  rw [(Manuscript.wellCut_ofDirectives ds).1, ← List.append_assoc] at hback
  have hlast := h.endAfterword _ _ _ hback hcloser
  rw [getLast?_boundaries_segment hsplit] at hlast
  exact Option.map_eq_some_iff.mp hlast

/-- Behind a recorded title a segment without a heading that a chapter closes is empty. -/
theorem isEmpty_of_titles (h : Regular ds)
    (hsplit : (Manuscript.ofDirectives ds).segments = earlier ++ s :: later)
    (hcloser : s.closer.command = .chapter) (hopens : s.opensHeading = false)
    (htitles : recordedTitles earlier ≠ []) : s.isEmpty = true := by
  obtain ⟨-, hcut⟩ := Manuscript.wellCut_ofDirectives ds
  -- a title is recorded by a chapter, and it stands before the opener
  obtain ⟨title, htitle⟩ := List.exists_mem_of_ne_nil _ htitles
  obtain ⟨e, he, htitle⟩ := List.mem_flatMap.mp htitle
  have hne : earlier ≠ [] := List.ne_nil_of_mem he
  obtain ⟨o, ho⟩ : ∃ o, s.opener = some o := by
    rw [hcut.opener_eq hsplit, List.getLast?_eq_some_getLast hne]
    exact ⟨_, rfl⟩
  obtain ⟨front, back, hds, hboundary, hfront⟩ := exists_cut_of_opener hsplit ho
  -- only chapters record a title where there is no bibliography
  have hin : e.closer ∈ ds := by
    rw [hds]
    rcases hfront e he with h | h <;> simp [h]
  have hchapter : e.closer.command = .chapter := by
    have hbibliography := h.noBibliography _ hin
    unfold Segment.records at htitle
    split at htitle
    · assumption
    · contradiction
    · simp at htitle
  have hplain : o.command.opensHeading = false := by
    simpa [Stretch.opensHeading, ho] using hopens
  -- so the opener is a picture or an end marker, behind which nothing may be written
  have hpause : o.command = .image ∨ o.command.isEndMarker = true := by
    have hbibliography : o.command ≠ .bibliography := h.noBibliography o (by simp [hds])
    revert hboundary hplain hbibliography
    cases o.command <;> simp [Command.isBoundary, Command.opensHeading, Command.isEndMarker]
  have hbefore : e.closer ∈ front := by
    rcases hfront e he with heq | hbefore
    · rw [← heq, hchapter] at hplain
      contradiction
    · exact hbefore
  have hs : s ∈ (Manuscript.ofDirectives ds).segments := by simp [hsplit]
  have hinner : (s.inner ++ s.closer :: back).takeWhile (!·.command.isBoundary) = s.inner := by
    have hall : ∀ d ∈ s.inner, (!d.command.isBoundary) = true := by
      intro d hd
      rw [hcut.inners s hs d hd]
      rfl
    rw [List.takeWhile_append_of_pos hall, List.takeWhile_cons_of_neg (by simp [hcloser,
      Command.isBoundary]), List.append_nil]
  have hsilent := h.continued front o _ hds hpause ⟨e.closer, hbefore, hchapter⟩
    (by rw [head?_boundaries_segment hsplit, hcloser])
  rw [hinner] at hsilent
  simpa [Stretch.isEmpty, hopens] using hsilent

/-- A segment opens with a heading if and only if a chapter opens it, or it is the afterword. -/
theorem opensHeading_eq (h : Regular ds)
    (hsplit : (Manuscript.ofDirectives ds).segments = earlier ++ s :: later)
    (hcloser : s.closer.command ≠ .endAfterword) : s.opensHeading = s.chapterTitle?.isSome := by
  unfold Stretch.opensHeading Stretch.chapterTitle? Stretch.argumentOf?
  cases ho : s.opener with
  | none => rfl
  | some o =>
    have hafterword : o.command ≠ .afterword := fun hafterword =>
      hcloser (h.closer_of_afterword hsplit ho hafterword)
    rw [Option.any_some, Option.bind_some]
    cases hc : o.command <;> simp_all [Command.opensHeading]

/-- A segment that neither a chapter nor a picture closes opens without a chapter. -/
theorem chapterTitle?_eq_none (h : Regular ds)
    (hsplit : (Manuscript.ofDirectives ds).segments = earlier ++ s :: later)
    (hcloser : ¬ (s.closer.command = .chapter ∨ s.closer.command = .image)) :
    s.chapterTitle? = none := by
  unfold Stretch.chapterTitle? Stretch.argumentOf?
  cases ho : s.opener with
  | none => rfl
  | some o =>
    rw [Option.bind_some, if_neg fun hchapter => hcloser (h.closer_of_chapter hsplit ho hchapter)]

/-- **The page of a segment is linked if and only if the segment opens with a heading.**  The
cases are the boundaries that can close it. -/
theorem isLinked_of_sheet? (h : Regular ds)
    (hsplit : (Manuscript.ofDirectives ds).segments = earlier ++ s :: later) {sheet : Sheet}
    (hsheet : s.sheet? earlier = some sheet) : sheet.isLinked = s.opensHeading := by
  obtain ⟨back, hback⟩ := Manuscript.directives_split hsplit
  rw [(Manuscript.wellCut_ofDirectives ds).1] at hback
  have hin : s.closer ∈ ds := by simp [hback]
  obtain ⟨page, hpage, rfl⟩ := Option.map_eq_some_iff.mp hsheet
  have hbody : ∀ content title, (bodyPage content title).kind.isLinked = title.isSome := by
    intro content title
    cases title <;> rfl
  unfold Sheet.isLinked
  unfold Segment.page? at hpage
  cases hc : s.closer.command <;> rw [hc] at hpage <;>
    simp only [Option.ite_none_left_eq_some, Option.some.injEq, reduceCtorEq] at hpage
  case image =>
    rw [h.opensHeading_eq hsplit (by simp [hc]), ← hpage.2, hbody]
  case chapter =>
    rw [h.opensHeading_eq hsplit (by simp [hc]), ← hpage.2, hbody]
    cases htitle : s.chapterTitle? with
    | some title => rfl
    | none =>
      -- a title that was recorded before would need a segment without text
      have hopens : s.opensHeading = false := by
        rw [h.opensHeading_eq hsplit (by simp [hc]), htitle]
        rfl
      have htitles : recordedTitles earlier = [] := by
        by_cases htitles : recordedTitles earlier = []
        · exact htitles
        · exact absurd (h.isEmpty_of_titles hsplit hc hopens htitles) hpage.1
      rw [htitles]
      rfl
  case afterword =>
    rw [h.opensHeading_eq hsplit (by simp [hc]), h.chapterTitle?_eq_none hsplit (by simp [hc]),
      ← hpage.2]
    rfl
  -- the order has no place for these two
  case bibliography => exact absurd hc (h.noBibliography _ hin)
  case endCopyright => exact absurd hc (h.noCopyright _ hin)
  case endBibliography | endColophonText =>
    rw [h.opensHeading_eq hsplit (by simp [hc]), h.chapterTitle?_eq_none hsplit (by simp [hc]),
      ← hpage]
    rfl
  case endAfterword =>
    obtain ⟨o, ho, hafterword⟩ := h.opener_of_endAfterword hsplit hc
    rw [← hpage, Stretch.opensHeading, ho, Option.any_some, hafterword]
    rfl

/-- **The linked sheets are those with a heading.** -/
theorem isLinked_eq_opensHeading (h : Regular ds) {sheet : Sheet}
    (hsheet : sheet ∈ (Manuscript.ofDirectives ds).sheets) :
    sheet.isLinked = sheet.opensHeading := by
  rcases Manuscript.mem_sheets hsheet with ⟨es, hmark⟩ | ⟨earlier, s, later, hsplit, hpage⟩
  · obtain ⟨hkind, hfragments⟩ := wellSet_of_mem_markSheets hmark
    have hlinked : sheet.isLinked = false := by
      revert hkind
      unfold Sheet.isLinked
      cases sheet.action.kind <;> simp [ActionKind.holdsText, ActionKind.isLinked]
    rw [hlinked, Sheet.opensHeading, hfragments]
    rfl
  · rw [h.isLinked_of_sheet? hsplit hpage, Segment.opensHeading_of_sheet? hpage]

/-- No heading is left over. -/
theorem rest_opensHeading (h : Regular ds) :
    (Manuscript.ofDirectives ds).rest.opensHeading = false := by
  obtain ⟨hdirectives, hcut⟩ := Manuscript.wellCut_ofDirectives ds
  have hopener := hcut.rest_opener_eq
  unfold Stretch.opensHeading
  cases ho : (Manuscript.ofDirectives ds).rest.opener with
  | none => rfl
  | some o =>
    obtain ⟨e, he, rfl⟩ := Option.map_eq_some_iff.mp (hopener.symm.trans ho)
    obtain ⟨before, hsegments⟩ := List.getLast?_eq_some_iff.mp he
    rw [Manuscript.directives, hsegments, Manuscript.written_concat] at hdirectives
    have hds : ds = (Manuscript.written before ++ e.inner) ++ e.closer
        :: (Manuscript.ofDirectives ds).rest.inner := by
      simpa using hdirectives.symm
    -- nothing closes the heading, against the order
    have hnil := boundaries_eq_nil hcut.rest
    have hchapter : e.closer.command ≠ .chapter := by
      intro hchapter
      have hnext := h.chapter _ _ _ hds hchapter
      simp [hnil] at hnext
    have hafterword : e.closer.command ≠ .afterword := by
      intro hafterword
      have hnext := (h.afterword _ _ _ hds hafterword).1
      simp [hnil] at hnext
    rw [Option.any_some]
    revert hchapter hafterword
    cases e.closer.command <;> simp [Command.opensHeading]

/-- **There is a linked sheet for each heading that is written.** -/
theorem countP_isLinked (h : Regular ds) :
    (Manuscript.ofDirectives ds).sheets.countP (·.isLinked)
      = ds.countP (·.command.opensHeading) := by
  have hall := congrArg List.length (headings_ofDirectives ds)
  rw [List.length_append, length_flatMap_headings (fun s hs => hs), List.length_map,
    List.length_range', Manuscript.leftover, filterMap_headingNumber?_fragments,
    h.rest_opensHeading] at hall
  rw [← hall, if_neg Bool.false_ne_true, List.length_nil, Nat.add_zero]
  exact List.countP_congr fun s hs => by rw [h.isLinked_eq_opensHeading hs]

end Regular

end

end Kumihan.Book
