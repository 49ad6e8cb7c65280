import Kumihan.Proofs.Compositor.Galley

/-!
# Text that a chapter continues

A chapter closes the text before it.  If that text does not open with the heading of a chapter, it
is meant to continue an earlier chapter, behind a picture, and gets the latest chapter title.  The
compositor asks only whether a title is recorded, so two other texts get one: an afterword that
nothing has closed, under its own heading, and a text that no chapter stands before, where a
bibliography has recorded a title.

## Main definitions

* `composed ds` — a fresh compositor that has been fed some directives.
* `Compositor.Continues` — a directive titles a page that does not open with a chapter's heading.
* `latestBoundary?` — the directive that opened the text which is in the galley.
* `Continuation` — the three ways in which a text gets the title of something before it.

## Main results

* `titles_ne_nil_iff` — which directives record a title.
* `continues_iff` — **what a chapter titles although it does not open with a chapter's heading.**
* `exists_continues_elsewhere` — two such texts continue no chapter.
-/

namespace Kumihan.Book

open Kumihan.Markup

/-! ### Pages under a title that is not theirs -/

namespace Compositor

/-- The galley opens with the heading of a chapter. -/
def opensWithChapter (c : Compositor) : Bool :=
  match c.galley.head? with
  | some (.chapterHeading _ _) => true
  | _ => false

/-- A directive makes a titled page of a galley that does not open with a chapter's heading. -/
def Continues (c : Compositor) (d : Directive) (page : Action) : Prop :=
  page ∈ (c.feed d).2 ∧ page.kind = .titledBody ∧ c.opensWithChapter = false

/-- The page of the galley under the chapter title that was recorded last. -/
def latestPage (c : Compositor) : Action :=
  { kind := .titledBody, content := c.content, title := c.titles.getLast? }

theorem opensWithChapter_iff (c : Compositor) :
    c.opensWithChapter = true ↔ ∃ k title, c.galley.head? = some (.chapterHeading k title) := by
  unfold opensWithChapter
  split
  · next k title hhead => exact iff_of_true rfl ⟨k, title, hhead⟩
  · next hhead =>
    refine iff_of_false Bool.false_ne_true ?_
    rintro ⟨k, title, hchapter⟩
    exact hhead k title hchapter

end Compositor

/-- A galley opens with a chapter's heading exactly while a chapter is open. -/
theorem Tracks.opensWithChapter_iff_mode {c : Compositor} {m : Manuscript} (h : Tracks c m) :
    c.opensWithChapter = true ↔ c.mode = .chapter := by
  rw [Compositor.opensWithChapter_iff]
  constructor
  · rintro ⟨k, title, hhead⟩
    exact (h.head?_galley_chapter_iff.mp hhead).1
  · intro hmode
    rcases h.mode_cases with ⟨title, -, hpending, -⟩ | ⟨_, hother, -⟩ | ⟨hother, -⟩
    · exact ⟨c.next - 1, title, h.head?_galley_chapter_iff.mpr ⟨hmode, hpending, by omega⟩⟩
    · rw [hmode] at hother
      contradiction
    · rw [hmode] at hother
      contradiction

/-- What a chapter closes, if no chapter is open, gets the latest title. -/
theorem Compositor.closeForChapter_of_ne {c : Compositor} (hmode : c.mode ≠ .chapter)
    (hgalley : c.galley ≠ []) :
    c.closeForChapter.2 = [bodyPage c.content c.titles.getLast?] := by
  have hempty : ¬ c.galley.isEmpty = true := by rwa [List.isEmpty_iff]
  rw [closeForChapter, if_neg hempty]
  cases hm : c.mode with
  | chapter => exact absurd hm hmode
  | idle => cases c.titles.getLast? <;> rfl
  | afterword => cases c.titles.getLast? <;> rfl

theorem Compositor.eq_bodyPage_iff (c : Compositor) (page : Action) :
    page = bodyPage c.content c.titles.getLast? ∧ page.kind = .titledBody
      ↔ page = c.latestPage ∧ c.titles ≠ [] := by
  unfold latestPage
  rw [Ne, ← List.getLast?_eq_none_iff]
  cases c.titles.getLast? with
  | none =>
    refine iff_of_false ?_ fun h => h.2 rfl
    rintro ⟨rfl, hkind⟩
    contradiction
  | some latest =>
    constructor
    · rintro ⟨hpage, -⟩
      exact ⟨hpage, Option.some_ne_none latest⟩
    · rintro ⟨rfl, -⟩
      exact ⟨rfl, rfl⟩

/-- A text gets the title of something before it exactly if no chapter is open and some title is
recorded. -/
theorem Tracks.continues_iff_titles {c : Compositor} {m : Manuscript} (h : Tracks c m)
    {d : Directive} (hd : d.command = .chapter) (page : Action) :
    c.Continues d page
      ↔ c.galley ≠ [] ∧ c.mode ≠ .chapter ∧ page = c.latestPage ∧ c.titles ≠ [] := by
  have hclosed : c.opensWithChapter = false ↔ c.mode ≠ .chapter := by
    rw [← Bool.not_eq_true, h.opensWithChapter_iff_mode]
  have hactions : (c.feed d).2 = c.closeForChapter.2 := by
    unfold Compositor.feed
    rw [hd]
  unfold Compositor.Continues
  rw [hclosed, hactions]
  by_cases hmode : c.mode = .chapter
  · exact iff_of_false (fun hpage => hpage.2.2 hmode) fun hpage => hpage.2.1 hmode
  by_cases hgalley : c.galley = []
  · refine iff_of_false ?_ fun hpage => hpage.1 hgalley
    rintro ⟨hpage, -⟩
    simp [Compositor.closeForChapter, hgalley] at hpage
  · rw [Compositor.closeForChapter_of_ne hmode hgalley, List.mem_singleton, ← and_assoc,
      c.eq_bodyPage_iff]
    constructor
    · rintro ⟨hpage, -⟩
      exact ⟨hgalley, hmode, hpage⟩
    · rintro ⟨-, -, hpage⟩
      exact ⟨hpage, hmode⟩

/-! ### What is recorded -/

/-- A directive names a title: a chapter, or a bibliography with an argument. -/
def NamesTitle (d : Directive) : Prop :=
  d.command = .chapter ∨ d.command = .bibliography ∧ d.argument ≠ ""

/-- The last of some directives that closes a text, and opens the next. -/
def latestBoundary? (ds : List Directive) : Option Directive :=
  (ds.filter (·.command.isBoundary)).getLast?

/-- The stretch behind the last boundary is opened by it. -/
theorem rest_opener_ofDirectives (ds : List Directive) :
    (Manuscript.ofDirectives ds).rest.opener = latestBoundary? ds := by
  induction ds using List.reverseRecOn with
  | nil => rfl
  | append_singleton ds d ih =>
    rw [Manuscript.ofDirectives_concat, latestBoundary?, List.filter_append, List.filter_cons,
      List.filter_nil]
    by_cases hd : d.command.isBoundary = true
    · rw [Manuscript.add_of_isBoundary _ hd, if_pos hd, List.getLast?_concat]
    · rw [Manuscript.add_of_not_isBoundary _ (Bool.not_eq_true _ ▸ hd), if_neg hd, List.append_nil]
      exact ih

theorem mem_of_latestBoundary? {ds : List Directive} {d : Directive}
    (h : latestBoundary? ds = some d) : d ∈ ds :=
  (List.mem_filter.mp (List.mem_of_getLast? h)).1

theorem Segment.namesTitle_of_records {s : Segment} (h : s.records ≠ []) : NamesTitle s.closer := by
  unfold records at h
  cases hcommand : s.closer.command <;> rw [hcommand] at h
  case chapter => exact Or.inl hcommand
  case bibliography =>
    refine Or.inr ⟨hcommand, ?_⟩
    intro hargument
    exact h (if_pos (Or.inr hargument))
  all_goals contradiction

/-- Only under an open chapter a title is named in vain. -/
theorem Segment.records_of_namesTitle {s : Segment} (h : NamesTitle s.closer)
    (hchapter : s.chapterTitle? = none) : s.records ≠ [] := by
  unfold records
  rcases h with hcommand | ⟨hcommand, hargument⟩
  · rw [hcommand]
    nofun
  · rw [hcommand, hchapter]
    simp [hargument]

theorem Manuscript.titles_add (m : Manuscript) (d : Directive) :
    (m.add d).titles = m.titles ++ ({ m.rest with closer := d } : Segment).records := by
  by_cases hd : d.command.isBoundary = true
  · rw [add_of_isBoundary m hd, titles, recordedTitles_concat]
    rfl
  · rw [add_of_not_isBoundary m (Bool.not_eq_true _ ▸ hd)]
    have hrecords : ({ m.rest with closer := d } : Segment).records = [] := by
      by_contra hnot
      rcases Segment.namesTitle_of_records hnot with hcommand | ⟨hcommand, -⟩
      · exact hd (by rw [hcommand]; rfl)
      · exact hd (by rw [hcommand]; rfl)
    rw [hrecords, List.append_nil]
    rfl

/-- **Some title is recorded exactly if a directive names one.**  A bibliography under an open
chapter does not record its own, but then the chapter has. -/
theorem titles_ne_nil_iff (ds : List Directive) :
    (Manuscript.ofDirectives ds).titles ≠ [] ↔ ∃ d ∈ ds, NamesTitle d := by
  induction ds using List.reverseRecOn with
  | nil => simp [Manuscript.ofDirectives, Manuscript.titles, recordedTitles]
  | append_singleton ds d ih =>
    rw [Manuscript.ofDirectives_concat, Manuscript.titles_add, Ne, List.append_eq_nil_iff,
      not_and_or, ← Ne, ih]
    constructor
    · rintro (⟨e, he, hnames⟩ | hrecords)
      · exact ⟨e, List.mem_append_left _ he, hnames⟩
      · exact ⟨d, List.mem_concat_self, Segment.namesTitle_of_records hrecords⟩
    · rintro ⟨e, he, hnames⟩
      rcases List.mem_append.mp he with hearlier | hlast
      · exact Or.inl ⟨e, hearlier, hnames⟩
      obtain rfl := List.mem_singleton.mp hlast
      cases hchapter : (Manuscript.ofDirectives ds).rest.chapterTitle? with
      | none => exact Or.inr (Segment.records_of_namesTitle hnames hchapter)
      | some title =>
        -- the open chapter is among the directives before
        obtain ⟨opener, hopener, hcommand, -⟩ := Stretch.argumentOf?_eq_some_iff.mp hchapter
        rw [rest_opener_ofDirectives] at hopener
        exact Or.inl ⟨opener, mem_of_latestBoundary? hopener, Or.inl hcommand⟩

/-! ### Whole manuscripts -/

/-- A fresh compositor that has been fed some directives. -/
def composed (ds : List Directive) : Compositor := (({} : Compositor).feedAll ds).1

/-- The three ways in which a text gets the title of something before it. -/
inductive Continuation (ds : List Directive) : Prop
  /-- It stands behind a chapter and under no heading. -/
  | chapter (idle : (composed ds).mode = .idle) (opened : ∃ d ∈ ds, d.command = .chapter)
  /-- It is an afterword that nothing has closed, under its own heading, and some title is
  recorded. -/
  | afterword (mode : (composed ds).mode = .afterword) (d : Directive)
      (latest : latestBoundary? ds = some d) (opener : d.command = .afterword)
      (heading : ∃ k, (composed ds).galley.head? = some (.afterwordHeading k d.argument))
      (named : ∃ e ∈ ds, NamesTitle e)
  /-- It stands under no heading and behind no chapter, but a bibliography has recorded a title. -/
  | bibliography (idle : (composed ds).mode = .idle) (unopened : ∀ d ∈ ds, d.command ≠ .chapter)
      (named : ∃ d ∈ ds, d.command = .bibliography ∧ d.argument ≠ "")

/-- A text that is a continuation is under no chapter's heading, and some title is recorded. -/
theorem Continuation.mode_ne_and_named {ds : List Directive} (h : Continuation ds) :
    (composed ds).mode ≠ .chapter ∧ ∃ d ∈ ds, NamesTitle d := by
  cases h with
  | chapter idle opened =>
    obtain ⟨d, hd, hcommand⟩ := opened
    rw [idle]
    exact ⟨nofun, d, hd, Or.inl hcommand⟩
  | afterword mode d latest opener heading named =>
    rw [mode]
    exact ⟨nofun, named⟩
  | bibliography idle unopened named =>
    obtain ⟨d, hd, hbibliography⟩ := named
    rw [idle]
    exact ⟨nofun, d, hd, Or.inr hbibliography⟩

/-- Under no chapter's heading, a text with a recorded title is a continuation. -/
theorem continuation_of_mode_ne {ds : List Directive} (hmode : (composed ds).mode ≠ .chapter)
    (hnamed : ∃ d ∈ ds, NamesTitle d) : Continuation ds := by
  have htracks : Tracks (composed ds) _ := tracks_feedAll ds
  rcases htracks.mode_cases with ⟨title, hchapter, -⟩ |
    ⟨title, hafterword, hpending, -, htitle⟩ | ⟨hidle, -⟩
  · exact absurd hchapter hmode
  · obtain ⟨d, hopener, hcommand, rfl⟩ := Stretch.argumentOf?_eq_some_iff.mp htitle
    rw [rest_opener_ofDirectives] at hopener
    have hhead := htracks.head?_galley_afterword_iff.mpr
      ⟨hafterword, hpending, Int.sub_add_cancel _ _⟩
    exact .afterword hafterword d hopener hcommand ⟨_, hhead⟩ hnamed
  · by_cases hopened : ∃ d ∈ ds, d.command = .chapter
    · exact .chapter hidle hopened
    · have hunopened : ∀ d ∈ ds, d.command ≠ .chapter := by
        intro d hd hcommand
        exact hopened ⟨d, hd, hcommand⟩
      obtain ⟨d, hd, hcommand | hbibliography⟩ := hnamed
      · exact absurd hcommand (hunopened d hd)
      · exact .bibliography hidle hunopened ⟨d, hd, hbibliography⟩

/-- **What a chapter titles although it does not open with a chapter's heading**: a text that is
not empty gets the latest title if it continues a chapter, and also if it is an afterword that
nothing has closed, or if a bibliography has recorded a title before the first chapter. -/
theorem continues_iff (ds : List Directive) {d : Directive} (hd : d.command = .chapter)
    (page : Action) :
    (composed ds).Continues d page
      ↔ (composed ds).galley ≠ [] ∧ page = (composed ds).latestPage ∧ Continuation ds := by
  have htracks : Tracks (composed ds) _ := tracks_feedAll ds
  rw [htracks.continues_iff_titles hd, htracks.titles, titles_ne_nil_iff]
  constructor
  · rintro ⟨hgalley, hmode, hpage, hnamed⟩
    exact ⟨hgalley, hpage, continuation_of_mode_ne hmode hnamed⟩
  · rintro ⟨hgalley, hpage, hcontinuation⟩
    obtain ⟨hmode, hnamed⟩ := hcontinuation.mode_ne_and_named
    exact ⟨hgalley, hmode, hpage, hnamed⟩

/-- The text behind a picture continues the chapter before the picture. -/
theorem continues_behindPicture :
    (composed [{ command := .chapter, argument := "A", line := 1 },
        { command := .image, argument := "a.png", line := 2 },
        { command := .text, argument := "x", line := 3 }]).Continues
      { command := .chapter, argument := "B", line := 4 }
      { kind := .titledBody, content := "<p>　x</p>\n", title := some "A" } :=
  (continues_iff _ rfl _).mpr ⟨nofun, rfl, .chapter rfl ⟨_, List.mem_cons_self, rfl⟩⟩

/-- An afterword that nothing closes, behind a chapter. -/
def unclosedAfterword : List Directive :=
  [{ command := .chapter, argument := "A", line := 1 },
    { command := .afterword, argument := "B", line := 2 },
    { command := .text, argument := "x", line := 3 }]

/-- A bibliography with a text behind it, before any chapter. -/
def earlyBibliography : List Directive :=
  [{ command := .text, argument := "x", line := 1 },
    { command := .bibliography, argument := "B", line := 2 },
    { command := .text, argument := "y", line := 3 }]

/-- **Two texts continue no chapter and get the title of something before them**: an open
afterword, and a text behind an early bibliography. -/
theorem exists_continues_elsewhere :
    ((composed unclosedAfterword).mode = .afterword
      ∧ (composed unclosedAfterword).Continues { command := .chapter, argument := "C", line := 4 }
        { kind := .titledBody,
          content := "<p class=\"mfont font-1em30\" id=\"mokuji-0002\">　B</p>\n<p><br/></p>\n"
            ++ "<p>　x</p>\n"
          title := some "A" })
    ∧ (∀ d ∈ earlyBibliography, d.command ≠ .chapter)
      ∧ (composed earlyBibliography).Continues { command := .chapter, argument := "A", line := 4 }
        { kind := .titledBody, content := "<p>　y</p>\n", title := some "B" } := by
  refine ⟨⟨rfl, List.mem_singleton.mpr ?_, rfl, rfl⟩, ?_, List.mem_singleton.mpr ?_, rfl, rfl⟩
  · rfl
  · decide
  · rfl

end Kumihan.Book
