import Kumihan.Book.Compositor
import Mathlib.Data.List.Induction

/-!
# The segments of a manuscript

Eight commands close the text before them: a chapter, a picture, an afterword, a
bibliography and the four end markers.  Between two of them lies a *segment*.  What
becomes of a segment can be told from the directive that opened it, from the one that
closes it and from the text in it; of the segments before it only the titles that they
have recorded matter, and how many of them opened with a heading.

The definitions of this file know no galley and no mode.  They are the second side of
`composeDirectives`, which works through the directives one by one.

## Main definitions

* `Stretch`, `Segment`, `Manuscript` — directives, cut at the boundaries.
* `Segment.page?` — the page that a segment becomes, by the directives around it.
* `Sheet` — an action with the fragments that its content is set from.
* `Manuscript.sheets`, `Manuscript.actions`, `Manuscript.titles` — what a manuscript becomes.

## Main results

* `wellCut_ofDirectives` — cutting loses nothing, and cuts at the boundaries only.
-/

namespace Kumihan.Markup.Command

/-- The commands that close the text before them. -/
def isBoundary : Command → Bool
  | chapter | image | afterword | bibliography
  | endBibliography | endCopyright | endColophonText | endAfterword => true
  | toc | titlePage | prefaceImage | fill | colophon | tocChapter | glyph | noIndent
  | pageBreak | blank | text => false

/-- The commands that open a text with a heading. -/
def opensHeading : Command → Bool
  | chapter | afterword => true
  | toc | image | titlePage | prefaceImage | bibliography | fill | colophon | tocChapter | glyph
  | noIndent | endBibliography | endCopyright | endColophonText | endAfterword
  | pageBreak | blank | text => false

/-- The commands that put text on the page. -/
def producesText : Command → Bool
  | text | blank | fill | noIndent | glyph => true
  | toc | chapter | image | titlePage | prefaceImage | afterword | bibliography | colophon
  | tocChapter | endBibliography | endCopyright | endColophonText | endAfterword
  | pageBreak => false

end Kumihan.Markup.Command

namespace Kumihan.Book

open Kumihan.Markup

/-- The kinds of the pages that hold text. -/
def ActionKind.holdsText : ActionKind → Bool
  | body | titledBody | afterword | copyright | bibliography | colophonText => true
  | toc | prefaceImage | titlePage | image | colophonImage | glyphImage => false

/-! ### One directive -/

/-- The fragment that a directive adds to the text around it. -/
def textFragment? (d : Directive) : Option Fragment :=
  match d.command with
  | .text | .glyph => some (.ofText d.argument)
  | .noIndent => some (.paragraph false d.argument)
  | .blank => some .blank
  | .fill => some (.fill d.argument)
  | _ => none

/-- The heading that a directive opens a text with. -/
def heading? (number : Nat) (d : Directive) : Option Fragment :=
  match d.command with
  | .chapter => some (.chapterHeading number d.argument)
  | .afterword => some (.afterwordHeading number d.argument)
  | _ => none

/-- The actions that a directive makes where it stands, whatever is around it. -/
def marks (d : Directive) : List Action :=
  match d.command with
  | .toc => [{ kind := .toc, content := d.argument }]
  | .titlePage => [{ kind := .titlePage, content := d.argument }]
  | .prefaceImage => [{ kind := .prefaceImage, content := d.argument }]
  | .colophon => [{ kind := .colophonImage, content := d.argument }]
  | .glyph => d.glyphs.map fun name => { kind := .glyphImage, content := name }
  | .image => [{ kind := .image, content := d.argument }]
  | _ => []

theorem textFragment?_isSome (d : Directive) :
    (textFragment? d).isSome = d.command.producesText := by
  unfold textFragment? Command.producesText
  cases d.command <;> rfl

theorem heading?_isSome (number : Nat) (d : Directive) :
    (heading? number d).isSome = d.command.opensHeading := by
  unfold heading? Command.opensHeading
  cases d.command <;> rfl

theorem heading?_eq_none {d : Directive} (h : d.command.opensHeading = false) (number : Nat) :
    heading? number d = none := by
  have := heading?_isSome number d
  rw [h] at this
  simpa using this

theorem textFragment?_of_isBoundary {d : Directive} (h : d.command.isBoundary = true) :
    textFragment? d = none := by
  unfold textFragment?
  revert h
  cases d.command <;> simp [Command.isBoundary]

theorem opensHeading_of_not_isBoundary {c : Command} (h : c.isBoundary = false) :
    c.opensHeading = false := by
  revert h
  cases c <;> simp [Command.isBoundary, Command.opensHeading]

/-- What a directive makes where it stands is never a page of text. -/
theorem holdsText_of_mem_marks {d : Directive} {a : Action} (h : a ∈ marks d) :
    a.kind.holdsText = false := by
  unfold marks at h
  cases hc : d.command <;> rw [hc] at h <;>
    simp only [List.mem_map, List.mem_singleton, List.not_mem_nil] at h
  case glyph =>
    obtain ⟨name, -, rfl⟩ := h
    rfl
  all_goals first
    | contradiction
    | (subst h; rfl)

/-! ### Segments -/

/-- A run of directives without a boundary, and the boundary that it follows. -/
structure Stretch where
  /-- The boundary before the run; the first run has none. -/
  opener : Option Directive := none
  /-- The run. -/
  inner : List Directive := []

namespace Stretch

/-- The argument of the opener, if the opener is this command. -/
def argumentOf? (s : Stretch) (command : Command) : Option String :=
  s.opener.bind fun d => if d.command = command then some d.argument else none

/-- The title of the chapter that opens the stretch. -/
def chapterTitle? (s : Stretch) : Option String := s.argumentOf? .chapter

/-- The title of the afterword that opens the stretch. -/
def afterwordTitle? (s : Stretch) : Option String := s.argumentOf? .afterword

/-- The stretch opens with a heading. -/
def opensHeading (s : Stretch) : Bool := s.opener.any (·.command.opensHeading)

/-- The stretch puts nothing on a page. -/
def isEmpty (s : Stretch) : Bool :=
  !s.opensHeading && s.inner.all fun d => !d.command.producesText

/-- What the stretch puts on a page, its heading being number `number`. -/
def fragments (s : Stretch) (number : Nat) : List Fragment :=
  (s.opener.bind (heading? number)).toList ++ s.inner.filterMap textFragment?

theorem isEmpty_fragments (s : Stretch) (number : Nat) :
    (s.fragments number).isEmpty = s.isEmpty := by
  obtain ⟨opener, inner⟩ := s
  have hinner : (inner.filterMap textFragment?).isEmpty
      = inner.all fun d => !d.command.producesText := by
    induction inner with
    | nil => rfl
    | cons d inner ih =>
      rw [List.filterMap_cons, List.all_cons, ← textFragment?_isSome]
      cases textFragment? d with
      | none => simpa using ih
      | some f => rfl
  unfold isEmpty fragments opensHeading
  cases opener with
  | none => simpa using hinner
  | some d =>
    simp only [Option.bind_some, Option.any_some, ← heading?_isSome number d]
    cases heading? number d with
    | none => simpa using hinner
    | some f => rfl

end Stretch

/-- A stretch and the boundary that closes it. -/
structure Segment extends Stretch where
  /-- The boundary behind the stretch. -/
  closer : Directive

/-- A page of text: under a title, or without one. -/
def bodyPage (content : String) : Option String → Action
  | some title => { kind := .titledBody, content, title := some title }
  | none => { kind := .body, content }

namespace Segment

/-- The chapter titles that are recorded where the segment closes: that of a new
chapter, or that of a bibliography whose page has no title from a chapter. -/
def records (s : Segment) : List String :=
  match s.closer.command with
  | .chapter => [s.closer.argument]
  | .bibliography =>
    if s.chapterTitle?.isSome ∨ s.closer.argument = "" then [] else [s.closer.argument]
  | _ => []

/-- The page that the segment becomes, `latest` being the chapter title that was
recorded last and `content` the markup of the segment. -/
def page? (s : Segment) (latest : Option String) (content : String) : Option Action :=
  match s.closer.command with
  | .image => if s.isEmpty then none else some (bodyPage content s.chapterTitle?)
  | .chapter => if s.isEmpty then none else some (bodyPage content (s.chapterTitle?.or latest))
  | .afterword => if s.isEmpty then none else some (bodyPage content none)
  | .bibliography =>
    let own := if s.closer.argument = "" then none else some s.closer.argument
    some { kind := .titledBody, content, title := (s.chapterTitle?.or own).or latest }
  | .endBibliography => some { kind := .bibliography, content }
  | .endCopyright => some { kind := .copyright, content }
  | .endColophonText => some { kind := .colophonText, content }
  | .endAfterword => some { kind := .afterword, content, title := s.afterwordTitle? }
  | _ => none

/-- The page of a segment is a page of text, and holds the markup of the segment. -/
theorem holdsText_content_of_page? {s : Segment} {latest : Option String} {content : String}
    {a : Action} (h : s.page? latest content = some a) :
    a.kind.holdsText = true ∧ a.content = content := by
  have hbody : ∀ title, (bodyPage content title).kind.holdsText = true
      ∧ (bodyPage content title).content = content := by
    intro title
    cases title <;> exact ⟨rfl, rfl⟩
  unfold page? at h
  cases hc : s.closer.command <;> rw [hc] at h <;>
    simp only [Option.ite_none_left_eq_some, Option.some.injEq, reduceCtorEq] at h
  -- these three make a page of a text that is not empty, the others of any
  case chapter | image | afterword =>
    rw [← h.2]
    exact hbody _
  all_goals
    subst h
    exact ⟨rfl, rfl⟩

/-- Only a segment without text becomes no page. -/
theorem isEmpty_of_page?_eq_none {s : Segment} {latest : Option String} {content : String}
    (hs : s.closer.command.isBoundary = true) (h : s.page? latest content = none) :
    s.isEmpty = true := by
  unfold page? at h
  cases hc : s.closer.command <;> rw [hc] at h hs <;>
    simp_all [Command.isBoundary]

end Segment

/-! ### Manuscripts -/

/-- Directives, cut at the boundaries. -/
structure Manuscript where
  /-- The segments. -/
  segments : List Segment := []
  /-- What follows the last boundary. -/
  rest : Stretch := {}

/-- An action, with the fragments that its content is set from. -/
structure Sheet where
  /-- The action. -/
  action : Action
  /-- The fragments; only pages of text have some. -/
  fragments : List Fragment := []
  deriving DecidableEq

/-- The table of contents links to the sheet. -/
def Sheet.isLinked (s : Sheet) : Bool := s.action.kind.isLinked

/-- The number of the next heading behind some segments. -/
def nextHeading (earlier : List Segment) : Nat := earlier.countP (·.opensHeading) + 1

/-- The chapter titles that some segments record. -/
def recordedTitles (earlier : List Segment) : List String := earlier.flatMap Segment.records

theorem nextHeading_concat (earlier : List Segment) (s : Segment) :
    nextHeading (earlier ++ [s]) = nextHeading earlier + if s.opensHeading then 1 else 0 := by
  simp only [nextHeading, List.countP_append, List.countP_singleton]
  omega

theorem recordedTitles_concat (earlier : List Segment) (s : Segment) :
    recordedTitles (earlier ++ [s]) = recordedTitles earlier ++ s.records := by
  simp [recordedTitles]

/-- What a segment puts on its page, by the segments before it. -/
def Segment.text (earlier : List Segment) (s : Segment) : List Fragment :=
  s.fragments (nextHeading earlier)

/-- The page of a segment, by the segments before it. -/
def Segment.sheet? (earlier : List Segment) (s : Segment) : Option Sheet :=
  (s.page? (recordedTitles earlier).getLast? (render (s.text earlier))).map
    fun page => { action := page, fragments := s.text earlier }

/-- The sheets that directives make where they stand. -/
def markSheets (ds : List Directive) : List Sheet :=
  (ds.flatMap marks).map fun a => { action := a }

/-- The sheets of a segment: what is made inside it, its page, and what its closer
makes beside that. -/
def Segment.sheets (earlier : List Segment) (s : Segment) : List Sheet :=
  markSheets s.inner ++ (s.sheet? earlier).toList ++ markSheets [s.closer]

/-- The sheets of segments that stand behind `earlier`. -/
def sheetsFrom (earlier : List Segment) : List Segment → List Sheet
  | [] => []
  | s :: segments => s.sheets earlier ++ sheetsFrom (earlier ++ [s]) segments

/-- A sheet of segments is made where a directive stands, or is the page of a segment. -/
theorem mem_sheetsFrom {earlier segments : List Segment} {sheet : Sheet}
    (h : sheet ∈ sheetsFrom earlier segments) :
    (∃ ds, sheet ∈ markSheets ds) ∨ ∃ before s after, segments = before ++ s :: after
      ∧ s.sheet? (earlier ++ before) = some sheet := by
  induction segments generalizing earlier with
  | nil => simp [sheetsFrom] at h
  | cons s segments ih =>
    rcases List.mem_append.mp h with h | h
    · rw [Segment.sheets, List.mem_append, List.mem_append, Option.mem_toList] at h
      rcases h with (h | h) | h
      · exact Or.inl ⟨s.inner, h⟩
      · exact Or.inr ⟨[], s, segments, rfl, by rwa [List.append_nil]⟩
      · exact Or.inl ⟨[s.closer], h⟩
    · rcases ih h with h | ⟨before, t, after, rfl, hsheet⟩
      · exact Or.inl h
      · exact Or.inr ⟨s :: before, t, after, rfl, by rwa [List.append_cons]⟩

namespace Manuscript

/-- The sheets of a manuscript.  No text behind the last boundary gets on a page. -/
def sheets (m : Manuscript) : List Sheet := sheetsFrom [] m.segments ++ markSheets m.rest.inner

/-- The actions of a manuscript. -/
def actions (m : Manuscript) : List Action := m.sheets.map (·.action)

/-- The chapter titles of a manuscript. -/
def titles (m : Manuscript) : List String := recordedTitles m.segments

/-- A sheet is made where a directive stands, or it is the page of a segment. -/
theorem mem_sheets {m : Manuscript} {sheet : Sheet} (h : sheet ∈ m.sheets) :
    (∃ ds, sheet ∈ markSheets ds) ∨ ∃ earlier s later, m.segments = earlier ++ s :: later
      ∧ s.sheet? earlier = some sheet := by
  rw [sheets, List.mem_append] at h
  rcases h with h | h
  · rcases mem_sheetsFrom h with h | ⟨earlier, s, later, hsplit, hsheet⟩
    · exact Or.inl h
    · rw [List.nil_append] at hsheet
      exact Or.inr ⟨earlier, s, later, hsplit, hsheet⟩
  · exact Or.inl ⟨m.rest.inner, h⟩

/-- What no boundary closes. -/
def leftover (m : Manuscript) : List Fragment := m.rest.fragments (nextHeading m.segments)

/-- The number of the heading that comes next. -/
def next (m : Manuscript) : Nat :=
  nextHeading m.segments + if m.rest.opensHeading then 1 else 0

/-- One more directive. -/
def add (m : Manuscript) (d : Directive) : Manuscript :=
  if d.command.isBoundary then
    { segments := m.segments ++ [{ m.rest with closer := d }], rest := { opener := some d } }
  else { m with rest := { m.rest with inner := m.rest.inner ++ [d] } }

/-- Directives, cut at the boundaries. -/
def ofDirectives (ds : List Directive) : Manuscript := ds.foldl add {}

theorem ofDirectives_concat (ds : List Directive) (d : Directive) :
    ofDirectives (ds ++ [d]) = (ofDirectives ds).add d := by
  simp [ofDirectives]

theorem add_of_isBoundary (m : Manuscript) {d : Directive} (h : d.command.isBoundary = true) :
    m.add d = { segments := m.segments ++ [{ m.rest with closer := d }]
                rest := { opener := some d } } := by
  rw [add, if_pos h]

theorem add_of_not_isBoundary (m : Manuscript) {d : Directive}
    (h : d.command.isBoundary = false) :
    m.add d = { m with rest := { m.rest with inner := m.rest.inner ++ [d] } } := by
  rw [add, if_neg (by simp [h])]

/-- The directives that some segments are cut from. -/
def written (segments : List Segment) : List Directive :=
  segments.flatMap fun s => s.inner ++ [s.closer]

theorem written_concat (segments : List Segment) (s : Segment) :
    written (segments ++ [s]) = written segments ++ s.inner ++ [s.closer] := by
  simp [written]

/-- The directives of a manuscript, put together again. -/
def directives (m : Manuscript) : List Directive := written m.segments ++ m.rest.inner

/-- A manuscript is cut where its boundaries are and nowhere else, and each boundary
that closes a segment opens the next stretch. -/
structure WellCut (m : Manuscript) : Prop where
  closers : ∀ s ∈ m.segments, s.closer.command.isBoundary = true
  inners : ∀ s ∈ m.segments, ∀ d ∈ s.inner, d.command.isBoundary = false
  rest : ∀ d ∈ m.rest.inner, d.command.isBoundary = false
  openers : m.segments.map (·.opener) ++ [m.rest.opener]
    = none :: m.segments.map fun s => some s.closer

theorem directives_add (m : Manuscript) (d : Directive) :
    (m.add d).directives = m.directives ++ [d] := by
  by_cases h : d.command.isBoundary = true
  · rw [add_of_isBoundary m h]
    simp [directives, written_concat]
  · rw [add_of_not_isBoundary m (by simpa using h)]
    simp [directives]

theorem WellCut.add {m : Manuscript} (h : m.WellCut) (d : Directive) : (m.add d).WellCut := by
  by_cases hd : d.command.isBoundary = true
  · rw [add_of_isBoundary m hd]
    constructor
    · intro s hs
      rcases List.mem_append.mp hs with hs | hs
      · exact h.closers s hs
      · rw [List.mem_singleton.mp hs]
        exact hd
    · intro s hs
      rcases List.mem_append.mp hs with hs | hs
      · exact h.inners s hs
      · rw [List.mem_singleton.mp hs]
        exact h.rest
    · intro e he
      simp at he
    · have := h.openers
      simp only [List.map_append, List.map_cons, List.map_nil, this, List.cons_append]
  · rw [add_of_not_isBoundary m (by simpa using hd)]
    refine ⟨h.closers, h.inners, ?_, h.openers⟩
    intro e he
    rcases List.mem_append.mp he with he | he
    · exact h.rest e he
    · rw [List.mem_singleton.mp he]
      simpa using hd

/-- **Cutting loses nothing, and cuts at the boundaries only.** -/
theorem wellCut_ofDirectives (ds : List Directive) :
    (ofDirectives ds).directives = ds ∧ (ofDirectives ds).WellCut := by
  -- a manuscript grows at its end, so the induction is from there
  induction ds using List.reverseRecOn with
  | nil =>
    refine ⟨rfl, ?_⟩
    constructor <;> simp [ofDirectives]
  | append_singleton ds d ih =>
    obtain ⟨hdirectives, hcut⟩ := ih
    rw [ofDirectives_concat, directives_add, hdirectives]
    exact ⟨rfl, hcut.add d⟩

/-- The opener of a segment is the boundary that closes the segment before it. -/
theorem WellCut.opener_eq {m : Manuscript} (h : m.WellCut) {earlier later : List Segment}
    {s : Segment} (hsplit : m.segments = earlier ++ s :: later) :
    s.opener = earlier.getLast?.map (·.closer) := by
  have hget := congrArg (·[earlier.length]?) h.openers
  rcases List.eq_nil_or_concat earlier with rfl | ⟨before, e, rfl⟩
  · simpa [hsplit] using hget
  · simpa [hsplit] using hget

/-- The opener of what follows the last boundary is that boundary. -/
theorem WellCut.rest_opener_eq {m : Manuscript} (h : m.WellCut) :
    m.rest.opener = m.segments.getLast?.map (·.closer) := by
  have hget := congrArg (·[m.segments.length]?) h.openers
  rcases List.eq_nil_or_concat m.segments with hsplit | ⟨before, e, hsplit⟩
  · simpa [hsplit] using hget
  · simpa [hsplit] using hget

/-- Before a segment stand the segments before it. -/
theorem directives_split {m : Manuscript} {earlier later : List Segment} {s : Segment}
    (hsplit : m.segments = earlier ++ s :: later) :
    ∃ back, m.directives = written earlier ++ (s.inner ++ s.closer :: back) :=
  ⟨written later ++ m.rest.inner, by simp [directives, written, hsplit]⟩

end Manuscript

end Kumihan.Book
