import Kumihan.Proofs.Compositor.Conservation
import Kumihan.Proofs.Compositor.Marks
import Kumihan.Proofs.Markup.Glyphs
import Kumihan.Proofs.Text.Decimal

/-!
# Glyphs in a composed manuscript

The pictures of the glyphs on a line are made where the line stands, and the line gets on its page
only at the next boundary.  So the page of a segment stands right behind what is made inside the
segment, the pictures of its glyphs among it.

A page is put together from texts without a reference to a glyph, in markup that has no `#` and
ends every text with its line; so no reference comes up in between.

## Main definitions

* `Fragment.words` — the text in a fragment.
* `GlyphsClosed` — the references of a text are closed in the actions that are made of it.

## Main results

* `Manuscript.sheets_split` — what stands before the page of a segment.
* `glyphs_earlier` — the pictures of the glyphs on a page are made before the page.
* `not_refersToGlyph_content` — no action refers to a glyph in its content.
* `glyphsClosed_composeDirectives` — **the references of a text are closed.**
-/

namespace Kumihan.Book

open Kumihan.Markup

/-! ### What stands before a page -/

/-- What is no member of a list stands behind that list. -/
theorem exists_of_append_eq {α : Type} {a : α} {xs ys before after : List α} (ha : a ∉ xs)
    (h : xs ++ ys = before ++ a :: after) :
    ∃ more, before = xs ++ more ∧ ys = more ++ a :: after := by
  rcases List.append_eq_append_iff.mp h with ⟨more, hbefore, hys⟩ | ⟨left, hxs, hys⟩
  · exact ⟨more, hbefore, hys⟩
  · cases left with
    | nil => exact ⟨[], by simpa using hxs.symm, hys.symm⟩
    | cons b left =>
      obtain ⟨rfl, -⟩ := List.cons.inj hys
      exact absurd (by simp [hxs]) ha

/-- A page of text stands behind what directives make where they stand. -/
theorem exists_of_markSheets_append {ds : List Directive} {sheet : Sheet}
    (htext : sheet.action.kind.holdsText = true) {rest before after : List Sheet}
    (h : markSheets ds ++ rest = before ++ sheet :: after) :
    ∃ more, before = markSheets ds ++ more ∧ rest = more ++ sheet :: after := by
  refine exists_of_append_eq (fun hmem => ?_) h
  rw [(wellSet_of_mem_markSheets hmem).1] at htext
  contradiction

/-- A page of text is the page of the first segment, or stands behind its sheets. -/
theorem Segment.sheets_split {earlier : List Segment} {s : Segment} {sheet : Sheet}
    (htext : sheet.action.kind.holdsText = true) {rest before after : List Sheet}
    (h : s.sheets earlier ++ rest = before ++ sheet :: after) :
    (s.sheet? earlier = some sheet ∧ before = markSheets s.inner)
      ∨ ∃ more, before = s.sheets earlier ++ more ∧ rest = more ++ sheet :: after := by
  unfold Segment.sheets at h ⊢
  rw [List.append_assoc, List.append_assoc] at h
  obtain ⟨made, rfl, hpage⟩ := exists_of_markSheets_append htext h
  cases hsheet : s.sheet? earlier with
  | none =>
    rw [hsheet, Option.toList_none, List.nil_append] at hpage
    obtain ⟨more, rfl, hrest⟩ := exists_of_markSheets_append htext hpage
    exact Or.inr ⟨more, by simp, hrest⟩
  | some page =>
    rw [hsheet, Option.toList_some, List.singleton_append] at hpage
    cases made with
    | nil =>
      obtain ⟨rfl, -⟩ := List.cons.inj hpage
      exact Or.inl ⟨rfl, List.append_nil _⟩
    | cons first made =>
      obtain ⟨rfl, hcloser⟩ := List.cons.inj hpage
      obtain ⟨more, rfl, hrest⟩ := exists_of_markSheets_append htext hcloser
      exact Or.inr ⟨more, by simp, hrest⟩

/-- **Before the page of a segment** stand the sheets of the segments before it, and what is made
inside it.  The induction is on the segments, which are taken off together with their sheets. -/
theorem sheetsFrom_split {earlier segments : List Segment} {tail : List Directive}
    {before after : List Sheet} {sheet : Sheet} (htext : sheet.action.kind.holdsText = true)
    (h : sheetsFrom earlier segments ++ markSheets tail = before ++ sheet :: after) :
    ∃ front s back, segments = front ++ s :: back ∧ s.sheet? (earlier ++ front) = some sheet
      ∧ before = sheetsFrom earlier front ++ markSheets s.inner := by
  induction segments generalizing earlier before with
  | nil =>
    -- behind the last boundary no page is made
    rw [sheetsFrom, List.nil_append, ← List.append_nil (markSheets tail)] at h
    obtain ⟨more, -, hrest⟩ := exists_of_markSheets_append htext h
    simp at hrest
  | cons s segments ih =>
    rw [sheetsFrom, List.append_assoc] at h
    rcases Segment.sheets_split htext h with ⟨hsheet, rfl⟩ | ⟨more, rfl, hrest⟩
    · exact ⟨[], s, segments, rfl, by rwa [List.append_nil], by simp [sheetsFrom]⟩
    · obtain ⟨front, t, back, rfl, hsheet, rfl⟩ := ih hrest
      exact ⟨s :: front, t, back, rfl, by rwa [List.append_cons], by simp [sheetsFrom]⟩

/-- **Before the page of a segment** of a manuscript. -/
theorem Manuscript.sheets_split {m : Manuscript} {before after : List Sheet} {sheet : Sheet}
    (htext : sheet.action.kind.holdsText = true) (h : m.sheets = before ++ sheet :: after) :
    ∃ earlier s later, m.segments = earlier ++ s :: later ∧ s.sheet? earlier = some sheet
      ∧ before = sheetsFrom [] earlier ++ markSheets s.inner := by
  obtain ⟨earlier, s, later, hsegments, hsheet, hbefore⟩ := sheetsFrom_split htext h
  rw [List.nil_append] at hsheet
  exact ⟨earlier, s, later, hsegments, hsheet, hbefore⟩

/-- A directive makes the pictures of its glyphs where it stands. -/
theorem mem_markSheets_of_glyph {ds : List Directive} {d : Directive} (hd : d ∈ ds)
    (hcommand : d.command = .glyph) {file : String} (hfile : file ∈ d.glyphs) :
    ({ action := { kind := .glyphImage, content := file } } : Sheet) ∈ markSheets ds := by
  refine List.mem_map_of_mem (List.mem_flatMap.mpr ⟨d, hd, ?_⟩)
  unfold marks
  rw [hcommand]
  exact List.mem_map_of_mem hfile

/-- A segment is cut from the directives of its manuscript, and its opener is a boundary. -/
theorem mem_directives_of_segment {ds : List Directive} {earlier later : List Segment}
    {s : Segment} (hsegments : (Manuscript.ofDirectives ds).segments = earlier ++ s :: later)
    {d : Directive} (hd : d ∈ s.opener.toList ++ s.inner) :
    d ∈ ds ∧ (d.command.isBoundary = true ∨ d ∈ s.inner) := by
  obtain ⟨hdirectives, hcut⟩ := Manuscript.wellCut_ofDirectives ds
  obtain ⟨back, hwritten⟩ := Manuscript.directives_split hsegments
  rw [hdirectives] at hwritten
  rcases List.mem_append.mp hd with hopener | hinner
  · rw [hcut.opener_eq hsegments, Option.mem_toList] at hopener
    obtain ⟨e, he, rfl⟩ := Option.map_eq_some_iff.mp hopener
    have hmem : e ∈ earlier := List.mem_of_getLast? he
    refine ⟨?_, Or.inl (hcut.closers e (by simp [hsegments, hmem]))⟩
    rw [hwritten]
    exact List.mem_append_left _ (List.mem_flatMap.mpr ⟨e, hmem, by simp⟩)
  · refine ⟨?_, Or.inr hinner⟩
    rw [hwritten]
    simp [hinner]

/-- **The pictures of the glyphs on a page** are made before the page. -/
theorem glyphs_earlier {ds : List Directive} {before after : List Action} {page : Action}
    (hpage : page.kind.holdsText = true)
    (h : (composeDirectives ds).actions = before ++ page :: after) :
    ∃ earlier s later, (Manuscript.ofDirectives ds).segments = earlier ++ s :: later
      ∧ page.content = render (s.text earlier)
      ∧ before = (sheetsFrom [] earlier ++ markSheets s.inner).map (·.action)
      ∧ ∀ d ∈ s.opener.toList ++ s.inner, d ∈ ds ∧ (d.command = .glyph →
        ∀ file ∈ d.glyphs, { kind := .glyphImage, content := file } ∈ before) := by
  have hactions : (composeDirectives ds).actions
      = (Manuscript.ofDirectives ds).sheets.map (·.action) := actions_feedAll ds
  obtain ⟨front, rest, hsheets, rfl, hrest⟩ := List.map_eq_append_iff.mp (hactions.symm.trans h)
  obtain ⟨sheet, back, rfl, rfl, -⟩ := List.map_eq_cons_iff.mp hrest
  obtain ⟨earlier, s, later, hsegments, hsheet, rfl⟩ := Manuscript.sheets_split hpage hsheets
  refine ⟨earlier, s, later, hsegments, (Segment.sheet?_eq_some hsheet).2.1, rfl, fun d hd => ?_⟩
  obtain ⟨hmem, hboundary | hinner⟩ := mem_directives_of_segment hsegments hd
  · refine ⟨hmem, fun hcommand => ?_⟩
    rw [hcommand] at hboundary
    contradiction
  · refine ⟨hmem, fun hcommand file hfile => ?_⟩
    have hmade := mem_markSheets_of_glyph hinner hcommand hfile
    exact List.mem_map.mpr ⟨_, List.mem_append_right _ hmade, rfl⟩

/-! ### What pages are put together from -/

/-- The text in a fragment. -/
def Fragment.words : Fragment → String
  | paragraph _ text | fill text => text
  | blank => ""
  | chapterHeading _ title | afterwordHeading _ title => title

theorem hash_notMem_padded (width : Nat) (number : Int) : '#' ∉ Text.padded width number := by
  have hdigits : ∀ width n, '#' ∉ Text.paddedDigits width n := fun width n hmem =>
    absurd (Text.isDigit_of_mem_paddedDigits hmem) (by decide)
  cases number with
  | ofNat n => exact hdigits width n
  | negSucc n =>
    intro hmem
    exact hdigits (width - 1) (n + 1) ((List.mem_cons.mp hmem).resolve_left (by decide))

/-- The opening of a heading, up to its text. -/
theorem hash_notMem_headingOpening (number : Int) (gap : String) (h : '#' ∉ gap.toList) :
    '#' ∉ ("<p class=\"mfont font-1em30\" id=\"" ++ anchor number ++ gap).toList := by
  unfold anchor
  simp only [String.toList_append, String.toList_ofList, List.mem_append, not_or]
  exact ⟨⟨by decide, by decide, hash_notMem_padded 4 number⟩, h⟩

/-- **The markup of a fragment** has its text in a frame without `#`, and ends a line. -/
theorem Fragment.render_eq_frame (f : Fragment) :
    ∃ opening closing, f.render = opening ++ f.words ++ (closing ++ "\n")
      ∧ '#' ∉ opening.toList ∧ '#' ∉ closing.toList := by
  have hparagraph : "</p>\n" = "</p>" ++ "\n" := by decide
  have hheading : "</p>\n" ++ blankParagraph = "</p>\n<p><br/></p>" ++ "\n" := by decide
  cases f with
  | paragraph indent text =>
    cases indent with
    | false =>
      refine ⟨"<p>", "</p>", ?_, by decide, by decide⟩
      rw [← hparagraph]
      rfl
    | true =>
      refine ⟨"<p>　", "</p>", ?_, by decide, by decide⟩
      rw [← hparagraph]
      rfl
  | blank =>
    exact ⟨"", "<p><br/></p>", by decide, by decide, by decide⟩
  | fill text =>
    have hfill : "</p>\n</div>\n" = "</p>\n</div>" ++ "\n" := by decide
    refine ⟨blankParagraph ++ "<div class=\"align-end\">\n<p>", "</p>\n</div>", ?_, by decide,
      by decide⟩
    rw [← hfill]
    rfl
  | chapterHeading number title =>
    refine ⟨_, "</p>\n<p><br/></p>", ?_, hash_notMem_headingOpening number "\">" (by decide),
      by decide⟩
    rw [← hheading, ← String.append_assoc]
    rfl
  | afterwordHeading number title =>
    refine ⟨_, "</p>\n<p><br/></p>", ?_, hash_notMem_headingOpening number "\">　" (by decide),
      by decide⟩
    rw [← hheading, ← String.append_assoc]
    rfl

/-- Pages that are put together from texts without a reference have none. -/
theorem not_refersToGlyph_render {fs : List Fragment}
    (h : ∀ f ∈ fs, ¬ RefersToGlyph f.words.toList) : ¬ RefersToGlyph (render fs).toList := by
  induction fs with
  | nil => simp [render]
  | cons f fs ih =>
    obtain ⟨opening, closing, hframe, hopening, hclosing⟩ := f.render_eq_frame
    have hrender : (render (f :: fs)).toList
        = opening.toList ++ (f.words.toList ++ closing.toList)
          ++ '\n' :: (render fs).toList := by
      unfold render
      rw [List.map_cons, String.join_cons, hframe]
      simp only [String.toList_append, List.append_assoc]
      rfl
    rw [hrender, refersToGlyph_append_cons, refersToGlyph_append_right hopening,
      refersToGlyph_append_left hclosing, not_or]
    exact ⟨h f List.mem_cons_self, ih fun g hg => h g (List.mem_cons_of_mem f hg)⟩

/-- What a directive writes has the argument of the directive for its text, or none. -/
theorem words_of_fragment? {number : Nat} {d : Directive} {f : Fragment}
    (h : fragment? number d = some f) : f.words = d.argument ∨ f.words = "" := by
  unfold fragment? heading? textFragment? at h
  cases hd : d.command <;> rw [hd] at h <;>
    simp only [Option.some_or, Option.none_or, Option.some.injEq, reduceCtorEq] at h
  case blank =>
    subst h
    exact Or.inr rfl
  all_goals
    subst h
    exact Or.inl rfl

theorem exists_of_mem_fragmentsFrom {number : Nat} {ds : List Directive} {f : Fragment}
    (h : f ∈ fragmentsFrom number ds) : ∃ d ∈ ds, ∃ k, fragment? k d = some f := by
  induction ds generalizing number with
  | nil => exact absurd h List.not_mem_nil
  | cons d ds ih =>
    rcases List.mem_append.mp h with h | h
    · exact ⟨d, List.mem_cons_self, number, Option.mem_toList.mp h⟩
    · obtain ⟨e, he, k, hk⟩ := ih h
      exact ⟨e, List.mem_cons_of_mem d he, k, hk⟩

/-- What a page of a manuscript is put together from is written by one of its directives. -/
theorem exists_of_mem_fragments {ds : List Directive} {sheet : Sheet}
    (hsheet : sheet ∈ (Manuscript.ofDirectives ds).sheets) {f : Fragment}
    (hf : f ∈ sheet.fragments) : ∃ d ∈ ds, f.words = d.argument ∨ f.words = "" := by
  have hwritten : f ∈ fragmentsFrom 1 ds := by
    rw [← fragments_ofDirectives]
    exact List.mem_append_left _ (List.mem_flatMap.mpr ⟨sheet, hsheet, hf⟩)
  obtain ⟨d, hd, k, hk⟩ := exists_of_mem_fragmentsFrom hwritten
  exact ⟨d, hd, words_of_fragment? hk⟩

/-- What a directive makes where it stands has its argument or the name of a glyph for content. -/
theorem content_of_mem_marks {d : Directive} {a : Action} (h : a ∈ marks d) :
    a.content = d.argument ∨ a.content ∈ d.glyphs := by
  unfold marks at h
  cases hd : d.command <;> rw [hd] at h <;>
    simp only [List.mem_map, List.mem_singleton, List.not_mem_nil] at h
  case glyph =>
    obtain ⟨name, hname, rfl⟩ := h
    exact Or.inr hname
  all_goals
    subst h
    exact Or.inl rfl

/-- **No action refers to a glyph** in its content, where the directives are set. -/
theorem not_refersToGlyph_content {ds : List Directive} (hds : ∀ d ∈ ds, d.IsSet) {a : Action}
    (ha : a ∈ (composeDirectives ds).actions) : ¬ RefersToGlyph a.content.toList := by
  by_cases htext : a.kind.holdsText = true
  · have hactions : (composeDirectives ds).actions
        = (Manuscript.ofDirectives ds).sheets.map (·.action) := actions_feedAll ds
    rw [hactions] at ha
    obtain ⟨sheet, hsheet, rfl⟩ := List.mem_map.mp ha
    have hset := Manuscript.wellSet_of_mem_sheets hsheet
    unfold Sheet.WellSet at hset
    rw [if_pos htext] at hset
    rw [hset]
    refine not_refersToGlyph_render fun f hf => ?_
    obtain ⟨d, hd, hwords | hwords⟩ := exists_of_mem_fragments hsheet hf
    · rw [hwords]
      exact (hds d hd).argument
    · simp [hwords]
  · -- all other actions are made where a directive stands
    have hmark : a ∈ (ds.flatMap marks).filter fun b => !b.kind.holdsText := by
      rw [← filter_actions (fun b hb => by simp [hb])]
      exact List.mem_filter.mpr ⟨ha, by simpa using htext⟩
    obtain ⟨d, hd, hmade⟩ := List.mem_flatMap.mp (List.mem_filter.mp hmark).1
    rcases content_of_mem_marks hmade with hcontent | hcontent
    · rw [hcontent]
      exact (hds d hd).argument
    · exact (hds d hd).glyphs _ hcontent

/-! ### Whole texts -/

/-- The references of a text are closed in the actions that are made of it. -/
structure GlyphsClosed (text : List Char) (actions : List Action) : Prop where
  /-- A page of text is put together from the lines of one segment and stands right behind what is
  made inside it, and the picture of every glyph that one of these lines is set with is made before
  the page.  A line that asks for the table of contents is not set. -/
  glyphs_earlier : ∀ before page after, actions = before ++ page :: after →
    page.kind.holdsText = true →
    ∃ earlier s later,
      (Manuscript.ofDirectives (Directive.ofText text).1).segments = earlier ++ s :: later
        ∧ page.content = render (s.text earlier)
        ∧ before = (sheetsFrom [] earlier ++ markSheets s.inner).map (·.action)
        ∧ ∀ d ∈ s.opener.toList ++ s.inner, ∃ line ∈ Text.lines text,
          (∃ n, Directive.ofLine line n = .ok d)
            ∧ (d.command ≠ .toc → ∀ name, Piece.glyph name ∈ pieces line →
              { kind := .glyphImage, content := String.ofList name } ∈ before)
  /-- No reference is left in what an action shows. -/
  not_refersToGlyph : ∀ a ∈ actions, ¬ RefersToGlyph a.content.toList

/-- **The references of a text are closed**, whatever directives it is read as. -/
theorem glyphsClosed_composeDirectives (text : List Char) :
    GlyphsClosed text (composeDirectives (Directive.ofText text).1).actions := by
  have hline : ∀ d ∈ (Directive.ofText text).1, ∃ line ∈ Text.lines text,
      '\n' ∉ line ∧ ∃ n, Directive.ofLine line n = .ok d := by
    intro d hd
    obtain ⟨line, hmem, hread⟩ := exists_ofLine_of_mem hd
    exact ⟨line, hmem, Text.notMem_of_mem_lines hmem, hread⟩
  constructor
  · intro before page after hactions hpage
    obtain ⟨earlier, s, later, hsegments, hcontent, hbefore, hmade⟩ :=
      glyphs_earlier hpage hactions
    refine ⟨earlier, s, later, hsegments, hcontent, hbefore, fun d hd => ?_⟩
    obtain ⟨hmem, hpictures⟩ := hmade d hd
    obtain ⟨line, hlines, hfeed, n, hread⟩ := hline d hmem
    refine ⟨line, hlines, ⟨n, hread⟩, fun htoc name hpiece => ?_⟩
    obtain ⟨hcommand, hglyph⟩ := mem_glyphs_of_ofLine hfeed hread htoc hpiece
    exact hpictures hcommand _ hglyph
  · intro a ha
    apply not_refersToGlyph_content _ ha
    intro d hd
    obtain ⟨line, -, hfeed, n, hread⟩ := hline d hd
    exact isSet_of_ofLine hfeed hread

end Kumihan.Book
