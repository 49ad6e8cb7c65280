import Kumihan.Proofs.Compositor.Segment

/-!
# The compositor composes segment by segment

A compositor that has been fed some directives knows exactly what the manuscript of these
directives knows about its last stretch: which heading opens it, what it puts on a page,
how many headings there have been and which titles are recorded.  Each directive keeps
this, and makes the actions that the manuscript gains.

## Main definitions

* `Tracks` — a compositor and a manuscript agree.

## Main results

* `Tracks.feed` — one directive, fed to a compositor and added to its manuscript.
* `actions_eq_manuscript` — **a list of directives is composed segment by segment.**
-/

namespace Kumihan.Book

open Kumihan.Markup

/-! ### Sheets of longer manuscripts -/

@[simp] theorem markSheets_nil : markSheets [] = [] := rfl

@[simp] theorem markSheets_append (ds es : List Directive) :
    markSheets (ds ++ es) = markSheets ds ++ markSheets es := by
  simp [markSheets]

theorem sheetsFrom_concat (earlier segments : List Segment) (s : Segment) :
    sheetsFrom earlier (segments ++ [s])
      = sheetsFrom earlier segments ++ s.sheets (earlier ++ segments) := by
  induction segments generalizing earlier with
  | nil => simp [sheetsFrom]
  | cons t segments ih => simp [sheetsFrom, ih]

/-- The sheets that a manuscript gains by one more directive. -/
def Manuscript.gain (m : Manuscript) (d : Directive) : List Sheet :=
  (if d.command.isBoundary then
      (({ m.rest with closer := d } : Segment).sheet? m.segments).toList
    else [])
    ++ markSheets [d]

/-- The page that a boundary makes of the last stretch. -/
def Manuscript.nextPage? (m : Manuscript) (d : Directive) : Option Action :=
  ({ m.rest with closer := d } : Segment).page? m.titles.getLast? (render m.leftover)

theorem Manuscript.map_action_gain (m : Manuscript) (d : Directive) :
    (m.gain d).map (·.action)
      = (if d.command.isBoundary then (m.nextPage? d).toList else []) ++ marks d := by
  have hpage : (({ m.rest with closer := d } : Segment).sheet? m.segments).map (·.action)
      = m.nextPage? d := by
    rw [Segment.sheet?, Option.map_map]
    exact Option.map_id' ..
  rw [gain, List.map_append]
  congr 1
  · split
    · rw [← hpage, Option.toList_map]
    · rfl
  · simp only [markSheets, List.flatMap_singleton, List.map_map]
    exact List.map_id' ..

theorem Manuscript.sheets_add (m : Manuscript) (d : Directive) :
    (m.add d).sheets = m.sheets ++ m.gain d := by
  by_cases h : d.command.isBoundary = true
  · rw [add_of_isBoundary m h, gain, if_pos h, sheets, sheets, sheetsFrom_concat]
    simp [Segment.sheets]
  · rw [add_of_not_isBoundary m (by simpa using h), gain, if_neg h, sheets, sheets]
    simp

/-- What a directive makes where it stands is among the sheets. -/
theorem Manuscript.mem_sheets_of_mem_markSheets {ds : List Directive} {d : Directive}
    {sheet : Sheet} (hd : d ∈ ds) (h : sheet ∈ markSheets [d]) :
    sheet ∈ (ofDirectives ds).sheets := by
  induction ds using List.reverseRecOn with
  | nil => exact absurd hd List.not_mem_nil
  | append_singleton ds e ih =>
    rw [ofDirectives_concat, sheets_add, gain, List.mem_append, List.mem_append]
    rcases List.mem_append.mp hd with hd | hd
    · exact Or.inl (ih hd)
    · rw [List.mem_singleton.mp hd] at h
      exact Or.inr (Or.inr h)

/-! ### Compositors and manuscripts -/

/-- What the galley holds while a stretch is read. -/
def Stretch.mode (s : Stretch) : Mode :=
  if s.chapterTitle?.isSome then .chapter
  else if s.afterwordTitle?.isSome then .afterword
  else .idle

/-- The title of the heading that opens the stretch. -/
def Stretch.headingTitle? (s : Stretch) : Option String :=
  s.chapterTitle?.or s.afterwordTitle?

theorem Stretch.argumentOf?_eq_none {s : Stretch} {command : Command}
    (hcommand : command.opensHeading = true) (h : s.opensHeading = false) :
    s.argumentOf? command = none := by
  unfold Stretch.opensHeading at h
  unfold Stretch.argumentOf?
  cases hopener : s.opener with
  | none => rfl
  | some d =>
    rw [hopener, Option.any_some] at h
    have hne : d.command ≠ command := by
      rintro rfl
      rw [h] at hcommand
      contradiction
    rw [Option.bind_some, if_neg hne]

theorem Stretch.afterwordTitle?_eq_none {s : Stretch} {title : String}
    (h : s.chapterTitle? = some title) : s.afterwordTitle? = none := by
  unfold Stretch.chapterTitle? Stretch.argumentOf? at h
  unfold Stretch.afterwordTitle? Stretch.argumentOf?
  obtain ⟨d, hopener, hd⟩ := Option.bind_eq_some_iff.mp h
  have hchapter : d.command = .chapter := (Option.ite_none_right_eq_some.mp hd).1
  rw [hopener, Option.bind_some, hchapter]
  rfl

/-- The kind of the page that an end marker makes. -/
def endKind? : Command → Option ActionKind
  | .endBibliography => some .bibliography
  | .endCopyright => some .copyright
  | .endColophonText => some .colophonText
  | .endAfterword => some .afterword
  | _ => none

/-- A compositor has been fed the directives of a manuscript. -/
structure Tracks (c : Compositor) (m : Manuscript) : Prop where
  mode : c.mode = m.rest.mode
  next : c.next = m.next
  titles : c.titles = m.titles
  galley : c.galley = m.leftover
  pending : c.pending = m.rest.headingTitle?

theorem tracks_nil : Tracks {} {} := by
  constructor <;> rfl

namespace Tracks

variable {c : Compositor} {m : Manuscript} {d : Directive}

/-- The heading of the next stretch gets the compositor's number. -/
theorem nextHeading_eq (h : Tracks c m) (d : Directive) :
    nextHeading (m.segments ++ [{ m.rest with closer := d }]) = c.next := by
  rw [nextHeading_concat, h.next]
  rfl

theorem isEmpty_galley (h : Tracks c m) : c.galley.isEmpty = m.rest.isEmpty := by
  rw [h.galley, Manuscript.leftover, Stretch.isEmpty_fragments]

theorem content (h : Tracks c m) : c.content = render m.leftover := by
  rw [Compositor.content, h.galley]

/-- A galley without text holds no heading, so nothing waits for a title. -/
theorem clear_of_isEmpty (h : Tracks c m) (he : m.rest.isEmpty = true) :
    { c with mode := .idle } = c.clear := by
  have hgalley : c.galley = [] := by
    have := h.isEmpty_galley
    rw [he] at this
    exact List.isEmpty_iff.mp this
  have hpending : c.pending = none := by
    -- a title waits only where a heading is in the galley, and there is none in it
    rw [h.pending]
    have hopens : m.rest.opensHeading = false := by
      unfold Stretch.isEmpty at he
      simp only [Bool.and_eq_true, Bool.not_eq_true'] at he
      exact he.1
    rw [Stretch.headingTitle?, Stretch.chapterTitle?, Stretch.afterwordTitle?,
      Stretch.argumentOf?_eq_none rfl hopens, Stretch.argumentOf?_eq_none rfl hopens,
      Option.or_none]
  unfold Compositor.clear
  rw [← hgalley, ← hpending]

/-- The three modes: the title that waits is that of the heading in the galley. -/
theorem mode_cases (h : Tracks c m) :
    (∃ title, c.mode = .chapter ∧ c.pending = some title
      ∧ m.rest.chapterTitle? = some title ∧ m.rest.afterwordTitle? = none)
    ∨ (∃ title, c.mode = .afterword ∧ c.pending = some title
      ∧ m.rest.chapterTitle? = none ∧ m.rest.afterwordTitle? = some title)
    ∨ (c.mode = .idle ∧ c.pending = none
      ∧ m.rest.chapterTitle? = none ∧ m.rest.afterwordTitle? = none) := by
  have hmode := h.mode
  have hpending := h.pending
  unfold Stretch.mode at hmode
  unfold Stretch.headingTitle? at hpending
  cases hchapter : m.rest.chapterTitle? with
  | some title =>
    have hafterword : m.rest.afterwordTitle? = none := Stretch.afterwordTitle?_eq_none hchapter
    rw [hchapter] at hmode hpending
    exact Or.inl ⟨title, hmode, hpending, rfl, hafterword⟩
  | none =>
    rw [hchapter] at hmode hpending
    cases hafterword : m.rest.afterwordTitle? with
    | some title =>
      rw [hafterword] at hmode hpending
      exact Or.inr (Or.inl ⟨title, hmode, hpending, rfl, rfl⟩)
    | none =>
      rw [hafterword] at hmode hpending
      exact Or.inr (Or.inr ⟨hmode, hpending, rfl, rfl⟩)

/-! ### The boundaries, one by one -/

theorem closeForImage_eq (h : Tracks c m) (hd : d.command = .image) :
    c.closeForImage = (c.clear, (m.nextPage? d).toList) := by
  unfold Compositor.closeForImage Manuscript.nextPage? Segment.page?
  simp only [hd, h.isEmpty_galley, h.content]
  by_cases he : m.rest.isEmpty = true
  · simp [he, h.clear_of_isEmpty he]
  · rcases h.mode_cases with ⟨title, hmode, hpending, hchapter, -⟩ |
      ⟨title, hmode, -, hchapter, -⟩ | ⟨hmode, -, hchapter, -⟩
    · simp [he, hmode, hpending, hchapter, bodyPage]
    · simp [he, hmode, hchapter, bodyPage]
    · simp [he, hmode, hchapter, bodyPage]

theorem closeForChapter_eq (h : Tracks c m) (hd : d.command = .chapter) :
    c.closeForChapter = (c.clear, (m.nextPage? d).toList) := by
  unfold Compositor.closeForChapter Manuscript.nextPage? Segment.page?
  simp only [hd, h.isEmpty_galley, h.content, ← h.titles]
  by_cases he : m.rest.isEmpty = true
  · simp [he, h.clear_of_isEmpty he]
  · rcases h.mode_cases with ⟨title, hmode, hpending, hchapter, -⟩ |
      ⟨title, hmode, -, hchapter, -⟩ | ⟨hmode, -, hchapter, -⟩
    · simp [he, hmode, hpending, hchapter, bodyPage]
    · cases hlatest : c.titles.getLast? <;> simp [he, hmode, hchapter, bodyPage]
    · cases hlatest : c.titles.getLast? <;> simp [he, hmode, hchapter, bodyPage]

theorem closeForAfterword_eq (h : Tracks c m) (hd : d.command = .afterword) :
    c.closeForAfterword = (c.clear, (m.nextPage? d).toList) := by
  unfold Compositor.closeForAfterword Manuscript.nextPage? Segment.page?
  simp only [hd, h.isEmpty_galley, h.content]
  by_cases he : m.rest.isEmpty = true
  · simp [he, h.clear_of_isEmpty he]
  · simp [he, bodyPage]

/-- A bibliography records its argument where no chapter names the page. -/
theorem closeForBibliography_eq (h : Tracks c m) (hd : d.command = .bibliography) :
    c.closeForBibliography d.argument
      = ({ c.clear with titles := c.titles ++ ({ m.rest with closer := d } : Segment).records },
          (m.nextPage? d).toList) := by
  unfold Compositor.closeForBibliography Manuscript.nextPage? Segment.page? Segment.records
  simp only [hd, h.content, h.titles, String.isEmpty_iff]
  -- without an argument no title is recorded, and the latest one may name the page
  by_cases harg : d.argument = ""
  · rcases h.mode_cases with ⟨title, hmode, hpending, hchapter, -⟩ |
      ⟨title, hmode, -, hchapter, -⟩ | ⟨hmode, -, hchapter, -⟩
    · simp [harg, hmode, hpending, hchapter, Compositor.clear, h.titles]
    · simp [harg, hmode, hchapter, Compositor.clear, h.titles]
    · simp [harg, hmode, hchapter, Compositor.clear, h.titles]
  · rcases h.mode_cases with ⟨title, hmode, hpending, hchapter, -⟩ |
      ⟨title, hmode, -, hchapter, -⟩ | ⟨hmode, -, hchapter, -⟩
    · simp [harg, hmode, hpending, hchapter, Compositor.clear, h.titles]
    · simp [harg, hmode, hchapter]
    · simp [harg, hmode, hchapter]

/-- An end marker makes a page of its kind; an afterword keeps its title. -/
theorem closeAs_eq (h : Tracks c m) {kind : ActionKind} (hd : endKind? d.command = some kind) :
    c.closeAs kind = (c.clear, (m.nextPage? d).toList) := by
  unfold Compositor.closeAs Manuscript.nextPage? Segment.page?
  cases hcommand : d.command <;> rw [hcommand] at hd
  case endBibliography | endCopyright | endColophonText =>
    obtain rfl := Option.some.inj hd
    simp [h.content]
  case endAfterword =>
    obtain rfl := Option.some.inj hd
    rcases h.mode_cases with ⟨title, hmode, -, -, hafterword⟩ |
      ⟨title, hmode, hpending, -, hafterword⟩ | ⟨hmode, -, -, hafterword⟩
    · simp [h.content, hmode, hafterword]
    · simp [h.content, hmode, hpending, hafterword]
    · simp [h.content, hmode, hafterword]
  all_goals contradiction

/-! ### One directive -/

/-- A directive that puts text on the page. -/
theorem push (h : Tracks c m) {f : Fragment} (hf : textFragment? d = some f)
    (hd : d.command.isBoundary = false) : Tracks (c.push f d.line) (m.add d) := by
  rw [Manuscript.add_of_not_isBoundary m hd]
  constructor
  · exact h.mode
  · exact h.next
  · exact h.titles
  · simp [Compositor.push, h.galley, Manuscript.leftover, Stretch.fragments, hf]
  · exact h.pending

/-- A directive that neither closes a page nor puts text on one. -/
theorem skip (h : Tracks c m) (hf : textFragment? d = none) (hd : d.command.isBoundary = false) :
    Tracks c (m.add d) := by
  rw [Manuscript.add_of_not_isBoundary m hd]
  constructor
  · exact h.mode
  · exact h.next
  · exact h.titles
  · simp [h.galley, Manuscript.leftover, Stretch.fragments, hf]
  · exact h.pending

/-- A boundary without a heading leaves the galley empty. -/
theorem close (h : Tracks c m) (hd : d.command.isBoundary = true)
    (hheading : d.command.opensHeading = false) :
    Tracks { c.clear with titles := c.titles ++ ({ m.rest with closer := d } : Segment).records }
      (m.add d) := by
  have hchapter : ({ opener := some d } : Stretch).chapterTitle? = none :=
    Stretch.argumentOf?_eq_none rfl hheading
  have hafterword : ({ opener := some d } : Stretch).afterwordTitle? = none :=
    Stretch.argumentOf?_eq_none rfl hheading
  rw [Manuscript.add_of_isBoundary m hd]
  constructor
  · simp [Stretch.mode, hchapter, hafterword, Compositor.clear]
  · simp [Manuscript.next, h.nextHeading_eq, Stretch.opensHeading, hheading, Compositor.clear]
  · simp [h.titles, Manuscript.titles, recordedTitles_concat]
  · simp [Manuscript.leftover, Stretch.fragments, heading?_eq_none hheading, Compositor.clear]
  · simp [Stretch.headingTitle?, hchapter, hafterword, Compositor.clear]

/-- A boundary without a heading that records no title. -/
theorem closeSilently (h : Tracks c m) (hd : d.command.isBoundary = true)
    (hheading : d.command.opensHeading = false)
    (hrecords : ({ m.rest with closer := d } : Segment).records = []) :
    Tracks c.clear (m.add d) := by
  have hclose := h.close hd hheading
  rw [hrecords, List.append_nil] at hclose
  exact hclose

theorem endMarker (h : Tracks c m) {kind : ActionKind} (hd : endKind? d.command = some kind) :
    Tracks (c.closeAs kind).1 (m.add d)
      ∧ (c.closeAs kind).2 = (m.nextPage? d).toList ++ marks d := by
  rw [h.closeAs_eq hd]
  cases hcommand : d.command <;> rw [hcommand] at hd
  case endBibliography | endCopyright | endColophonText | endAfterword =>
    exact ⟨h.closeSilently (by rw [hcommand]; rfl) (by rw [hcommand]; rfl)
      (by simp [Segment.records, hcommand]), by simp [marks, hcommand]⟩
  all_goals contradiction

theorem openChapter (h : Tracks c m) (hd : d.command = .chapter) :
    Tracks (c.clear.openChapter d.argument d.line) (m.add d) := by
  rw [Manuscript.add_of_isBoundary m (by rw [hd]; rfl)]
  constructor
  · simp [Stretch.mode, Stretch.chapterTitle?, Stretch.argumentOf?, hd, Compositor.openChapter]
  · simp [Manuscript.next, h.nextHeading_eq, Stretch.opensHeading, hd, Command.opensHeading,
      Compositor.openChapter, Compositor.clear]
  · simp [h.titles, Manuscript.titles, recordedTitles_concat, Segment.records, hd,
      Compositor.openChapter, Compositor.clear]
  · simp [Manuscript.leftover, Stretch.fragments, heading?, hd, h.nextHeading_eq,
      Compositor.openChapter, Compositor.push, Compositor.clear]
  · simp [Stretch.headingTitle?, Stretch.chapterTitle?, Stretch.argumentOf?, hd,
      Compositor.openChapter]

theorem openAfterword (h : Tracks c m) (hd : d.command = .afterword) :
    Tracks (c.clear.openAfterword d.argument d.line) (m.add d) := by
  rw [Manuscript.add_of_isBoundary m (by rw [hd]; rfl)]
  constructor
  · simp [Stretch.mode, Stretch.chapterTitle?, Stretch.afterwordTitle?, Stretch.argumentOf?, hd,
      Compositor.openAfterword]
  · simp [Manuscript.next, h.nextHeading_eq, Stretch.opensHeading, hd, Command.opensHeading,
      Compositor.openAfterword, Compositor.clear]
  · simp [h.titles, Manuscript.titles, recordedTitles_concat, Segment.records, hd,
      Compositor.openAfterword, Compositor.push, Compositor.clear]
  · simp [Manuscript.leftover, Stretch.fragments, heading?, hd, h.nextHeading_eq,
      Compositor.openAfterword, Compositor.push, Compositor.clear]
  · simp [Stretch.headingTitle?, Stretch.chapterTitle?, Stretch.afterwordTitle?,
      Stretch.argumentOf?, hd, Compositor.openAfterword]

/-- **One directive**: the compositor makes the actions that the manuscript gains. -/
theorem feed (h : Tracks c m) (d : Directive) :
    Tracks (c.feed d).1 (m.add d) ∧ (c.feed d).2 = (m.gain d).map (·.action) := by
  rw [Manuscript.map_action_gain]
  unfold Compositor.feed
  cases hd : d.command with
  -- the page is closed first, then the next text opens
  | chapter =>
    simp only [h.closeForChapter_eq hd]
    exact ⟨h.openChapter hd, by simp [Command.isBoundary, marks, hd]⟩
  | afterword =>
    simp only [h.closeForAfterword_eq hd]
    exact ⟨h.openAfterword hd, by simp [Command.isBoundary, marks, hd]⟩
  | image =>
    simp only [h.closeForImage_eq hd]
    exact ⟨h.closeSilently (by rw [hd]; rfl) (by rw [hd]; rfl) (by simp [Segment.records, hd]),
      by simp [Command.isBoundary, marks, hd]⟩
  | bibliography =>
    simp only [h.closeForBibliography_eq hd]
    exact ⟨h.close (by rw [hd]; rfl) (by rw [hd]; rfl), by simp [Command.isBoundary, marks, hd]⟩
  | endBibliography | endCopyright | endColophonText | endAfterword =>
    exact h.endMarker (by rw [hd]; rfl)
  -- what stands between the boundaries stays in the last stretch
  | toc | titlePage | prefaceImage | colophon | tocChapter | pageBreak =>
    exact ⟨h.skip (by simp [textFragment?, hd]) (by rw [hd]; rfl),
      by simp [Command.isBoundary, marks, hd]⟩
  | text | glyph | noIndent | blank | fill =>
    exact ⟨h.push (by simp [textFragment?, hd]) (by rw [hd]; rfl),
      by simp [Command.isBoundary, marks, hd]⟩

end Tracks

/-! ### Whole manuscripts -/

/-- A compositor that has been fed a manuscript is fed more of it. -/
theorem Tracks.feedAll {c : Compositor} {m : Manuscript} (h : Tracks c m) (ds : List Directive) :
    Tracks (c.feedAll ds).1 (ds.foldl Manuscript.add m)
      ∧ m.actions ++ (c.feedAll ds).2 = (ds.foldl Manuscript.add m).actions := by
  induction ds generalizing c m with
  | nil => exact ⟨h, by simp⟩
  | cons d ds ih =>
    obtain ⟨htracks, hgain⟩ := h.feed d
    obtain ⟨hall, hactions⟩ := ih htracks
    refine ⟨hall, ?_⟩
    rw [List.foldl_cons, ← hactions, Compositor.feedAll_cons, hgain, Manuscript.actions,
      Manuscript.actions, Manuscript.sheets_add, List.map_append, List.append_assoc]

/-- A fresh compositor, fed some directives, knows what their manuscript says. -/
theorem tracks_feedAll (ds : List Directive) :
    Tracks (({} : Compositor).feedAll ds).1 (Manuscript.ofDirectives ds) :=
  (tracks_nil.feedAll ds).1

theorem actions_feedAll (ds : List Directive) :
    (({} : Compositor).feedAll ds).2 = (Manuscript.ofDirectives ds).actions :=
  (tracks_nil.feedAll ds).2

/-- **A list of directives is composed segment by segment.**  The actions, with their
kinds, titles and contents and in their order, and the recorded chapter titles are
those that the segments of the directives give, each by itself. -/
theorem actions_eq_manuscript (ds : List Directive) :
    (composeDirectives ds).actions = (Manuscript.ofDirectives ds).actions
      ∧ (composeDirectives ds).titles = (Manuscript.ofDirectives ds).titles :=
  ⟨actions_feedAll ds, (tracks_feedAll ds).titles⟩

end Kumihan.Book
