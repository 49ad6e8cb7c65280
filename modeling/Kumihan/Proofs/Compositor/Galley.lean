import Kumihan.Proofs.Compositor.Heading

/-!
# What pages are set from

An action of the compositor holds markup, in which the fragments of the galley can no longer be
told apart.  Here the compositor is watched: each action is kept together with the galley that it
was set from.  What is seen is what the segments of the manuscript say, so a galley holds the
heading of the directive that opened it, if that opens one, and behind it text only.

## Main definitions

* `Compositor.feedSheets`, `Compositor.feedAllSheets` — the actions of a compositor, each with
  the galley that it is set from.
* `setSheets`, `lastGalley` — those of a whole manuscript, and what is left in the galley.

## Main results

* `setSheets_eq`, `lastGalley_eq` — **the galleys of a compositor are the segments of its
  manuscript.**
* `headingNumber?_of_mem_tail_fragments` — a heading stands at the beginning or nowhere.
* `Tracks.head?_galley_chapter_iff`, `Tracks.head?_galley_afterword_iff` — the mode tells with
  which heading a galley opens.
-/

namespace Kumihan.Book

open Kumihan.Markup

/-! ### The galleys of a run -/

namespace Compositor

/-- The actions that a directive makes, each with what it is set from: a page of text is set from
the galley as it stands before the directive, and nothing else is set. -/
def feedSheets (c : Compositor) (d : Directive) : List Sheet :=
  (c.feed d).2.map fun a =>
    { action := a, fragments := if a.kind.holdsText then c.galley else [] }

/-- The actions that directives make, each with what it is set from. -/
def feedAllSheets (c : Compositor) : List Directive → List Sheet
  | [] => []
  | d :: ds => c.feedSheets d ++ (c.feed d).1.feedAllSheets ds

theorem map_action_feedAllSheets (c : Compositor) (ds : List Directive) :
    (c.feedAllSheets ds).map (·.action) = (c.feedAll ds).2 := by
  induction ds generalizing c with
  | nil => rfl
  | cons d ds ih =>
    have hsheets : (c.feedSheets d).map (·.action) = (c.feed d).2 := by
      rw [feedSheets, List.map_map]
      exact List.map_id' ..
    rw [feedAllSheets, List.map_append, hsheets, ih, feedAll_cons]

end Compositor

/-- The sheets that a manuscript gains are set from what was left over, if they hold text. -/
theorem Manuscript.fragments_of_mem_gain {m : Manuscript} {d : Directive} {sheet : Sheet}
    (h : sheet ∈ m.gain d) :
    sheet.fragments = if sheet.action.kind.holdsText then m.leftover else [] := by
  rcases List.mem_append.mp h with hpage | hmark
  · by_cases hd : d.command.isBoundary = true
    · rw [if_pos hd, Option.mem_toList] at hpage
      obtain ⟨htext, -, hfragments⟩ := Segment.sheet?_eq_some hpage
      rw [if_pos htext, hfragments]
      rfl
    · rw [if_neg hd] at hpage
      contradiction
  · obtain ⟨htext, hfragments⟩ := wellSet_of_mem_markSheets hmark
    rw [hfragments, htext]
    rfl

/-- **One directive**: the galley that is watched is what the manuscript has left over. -/
theorem Tracks.feedSheets_eq {c : Compositor} {m : Manuscript} (h : Tracks c m) (d : Directive) :
    c.feedSheets d = m.gain d := by
  rw [Compositor.feedSheets, (h.feed d).2, List.map_map]
  conv_rhs => rw [← List.map_id (m.gain d)]
  refine List.map_congr_left ?_
  intro sheet hsheet
  rw [Function.comp_apply, h.galley, ← Manuscript.fragments_of_mem_gain hsheet]
  rfl

theorem Tracks.feedAllSheets_eq {c : Compositor} {m : Manuscript} (h : Tracks c m)
    (ds : List Directive) :
    m.sheets ++ c.feedAllSheets ds = (ds.foldl Manuscript.add m).sheets := by
  induction ds generalizing c m with
  | nil => exact List.append_nil _
  | cons d ds ih =>
    rw [List.foldl_cons, ← ih (h.feed d).1, Manuscript.sheets_add, Compositor.feedAllSheets,
      h.feedSheets_eq, List.append_assoc]

/-- The actions that a fresh compositor makes of some directives, each with what it is set from. -/
def setSheets (ds : List Directive) : List Sheet := ({} : Compositor).feedAllSheets ds

/-- The galley that a fresh compositor is left with. -/
def lastGalley (ds : List Directive) : List Fragment := (({} : Compositor).feedAll ds).1.galley

/-- **The galleys of a compositor are the segments of its manuscript.** -/
theorem setSheets_eq (ds : List Directive) :
    setSheets ds = (Manuscript.ofDirectives ds).sheets :=
  tracks_nil.feedAllSheets_eq ds

theorem lastGalley_eq (ds : List Directive) :
    lastGalley ds = (Manuscript.ofDirectives ds).leftover :=
  (tracks_feedAll ds).galley

/-! ### Headings in a galley -/

section

variable {s : Stretch} {number : Nat} {f : Fragment}

/-- **A heading stands at the beginning of a stretch or nowhere.** -/
theorem headingNumber?_of_mem_tail_fragments (h : f ∈ (s.fragments number).tail) :
    f.headingNumber? = none := by
  have htext : ∀ g ∈ s.inner.filterMap textFragment?, g.headingNumber? = none := by
    intro g hg
    obtain ⟨d, -, hd⟩ := List.mem_filterMap.mp hg
    exact headingNumber?_of_textFragment? hd
  unfold Stretch.fragments at h
  cases hheading : s.opener.bind (heading? number) with
  | none =>
    rw [hheading] at h
    exact htext f (List.mem_of_mem_tail h)
  | some g =>
    rw [hheading] at h
    exact htext f h

/-- A heading in what a stretch puts on the page is the first of it. -/
theorem head?_of_mem_fragments (hf : f.headingNumber? ≠ none) (h : f ∈ s.fragments number) :
    (s.fragments number).head? = some f := by
  cases hfragments : s.fragments number with
  | nil =>
    rw [hfragments] at h
    exact absurd h List.not_mem_nil
  | cons g fs =>
    rw [hfragments] at h
    rcases List.mem_cons.mp h with rfl | hmem
    · rfl
    · have htail : f ∈ (s.fragments number).tail := by rwa [hfragments]
      exact absurd (headingNumber?_of_mem_tail_fragments htail) hf

/-- **A stretch begins with a heading exactly if its opener writes it.** -/
theorem Stretch.head?_fragments_eq_iff (hf : f.headingNumber? ≠ none) :
    (s.fragments number).head? = some f
      ↔ ∃ d, s.opener = some d ∧ heading? number d = some f := by
  rw [← Option.bind_eq_some_iff, Stretch.fragments]
  cases hheading : s.opener.bind (heading? number) with
  | some g => rfl
  | none =>
    rw [Option.toList_none, List.nil_append]
    refine iff_of_false ?_ (Option.some_ne_none f).symm
    intro hhead
    obtain ⟨d, -, hd⟩ := List.mem_filterMap.mp (List.mem_of_mem_head? hhead)
    exact hf (headingNumber?_of_textFragment? hd)

theorem Stretch.argumentOf?_eq_some_iff {command : Command} {title : String} :
    s.argumentOf? command = some title
      ↔ ∃ d, s.opener = some d ∧ d.command = command ∧ d.argument = title := by
  simp [Stretch.argumentOf?, Option.bind_eq_some_iff]

theorem heading?_eq_chapterHeading_iff {d : Directive} {k : Int} {title : String} :
    heading? number d = some (.chapterHeading k title)
      ↔ (d.command = .chapter ∧ d.argument = title) ∧ k = number := by
  unfold heading?
  cases d.command <;> simp [eq_comm, and_comm]

theorem heading?_eq_afterwordHeading_iff {d : Directive} {k : Int} {title : String} :
    heading? number d = some (.afterwordHeading k title)
      ↔ (d.command = .afterword ∧ d.argument = title) ∧ k = number := by
  unfold heading?
  cases d.command <;> simp [eq_comm, and_comm]

theorem Stretch.head?_eq_chapterHeading_iff {k : Int} {title : String} :
    (s.fragments number).head? = some (.chapterHeading k title)
      ↔ s.chapterTitle? = some title ∧ k = number := by
  have hnumbered : (Fragment.chapterHeading k title).headingNumber? ≠ none := Option.some_ne_none k
  rw [Stretch.head?_fragments_eq_iff hnumbered, Stretch.chapterTitle?,
    Stretch.argumentOf?_eq_some_iff]
  simp only [heading?_eq_chapterHeading_iff, ← and_assoc, exists_and_right]

theorem Stretch.head?_eq_afterwordHeading_iff {k : Int} {title : String} :
    (s.fragments number).head? = some (.afterwordHeading k title)
      ↔ s.afterwordTitle? = some title ∧ k = number := by
  have hnumbered : (Fragment.afterwordHeading k title).headingNumber? ≠ none :=
    Option.some_ne_none k
  rw [Stretch.head?_fragments_eq_iff hnumbered, Stretch.afterwordTitle?,
    Stretch.argumentOf?_eq_some_iff]
  simp only [heading?_eq_afterwordHeading_iff, ← and_assoc, exists_and_right]

end

/-! ### Galleys and modes -/

namespace Tracks

variable {c : Compositor} {m : Manuscript} {k : Int} {title : String}

/-- Where a heading opens the last stretch, its number is the one before the next. -/
theorem next_eq_of_argumentOf? (h : Tracks c m) {command : Command}
    (hcommand : command.opensHeading = true) (htitle : m.rest.argumentOf? command = some title) :
    c.next = nextHeading m.segments + 1 := by
  have hopens : m.rest.opensHeading = true := by
    by_contra hnot
    rw [Bool.not_eq_true] at hnot
    rw [Stretch.argumentOf?_eq_none hcommand hnot] at htitle
    contradiction
  rw [h.next, Manuscript.next, if_pos hopens]

/-- **The galley opens with the heading of a chapter** exactly while a chapter is open.  The
heading is the latest one, and its title is the one that waits. -/
theorem head?_galley_chapter_iff (h : Tracks c m) :
    c.galley.head? = some (.chapterHeading k title)
      ↔ c.mode = .chapter ∧ c.pending = some title ∧ k + 1 = c.next := by
  rw [h.galley, Manuscript.leftover, Stretch.head?_eq_chapterHeading_iff]
  rcases h.mode_cases with ⟨title', hmode, hpending, hchapter, -⟩ |
    ⟨title', hmode, -, hchapter, -⟩ | ⟨hmode, -, hchapter, -⟩
  · have hnext := h.next_eq_of_argumentOf? rfl hchapter
    have hk : k = nextHeading m.segments ↔ k + 1 = c.next := by omega
    simp [hmode, hpending, hchapter, hk]
  · simp [hmode, hchapter]
  · simp [hmode, hchapter]

/-- **The galley opens with the heading of the afterword** exactly while the afterword is open. -/
theorem head?_galley_afterword_iff (h : Tracks c m) :
    c.galley.head? = some (.afterwordHeading k title)
      ↔ c.mode = .afterword ∧ c.pending = some title ∧ k + 1 = c.next := by
  rw [h.galley, Manuscript.leftover, Stretch.head?_eq_afterwordHeading_iff]
  rcases h.mode_cases with ⟨title', hmode, -, -, hafterword⟩ |
    ⟨title', hmode, hpending, -, hafterword⟩ | ⟨hmode, -, -, hafterword⟩
  · simp [hmode, hafterword]
  · have hnext := h.next_eq_of_argumentOf? rfl hafterword
    have hk : k = nextHeading m.segments ↔ k + 1 = c.next := by omega
    simp [hmode, hpending, hafterword, hk]
  · simp [hmode, hafterword]

end Tracks

end Kumihan.Book
