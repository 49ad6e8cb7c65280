import Kumihan.Proofs.Compositor.Continuing

/-!
# What a mode stands for

A compositor keeps its mode, the galley, the title that waits, the next number and the recorded
titles apart, and only the routine that takes a galley sets the first three back together.  A
galley without text is not taken: the mode is set back and the title that waits is left alone.
There is none then, for in every mode but the idle one the galley holds at least the heading that
the mode is named for.

## Main definitions

* `latestOf? command ds` — the last of some directives that has a command.
* `ModeHolds ds c` — the mode of a compositor tells what stands first in the galley and what waits.

## Main results

* `getLast?_titles_of_chapterTitle?` — while a chapter is open, its title is the latest one.
* `modeHolds_composed` — **the mode of a compositor holds, whatever it has been fed.**
-/

namespace Kumihan.Book

open Kumihan.Markup

/-- The last of some directives that has a command. -/
def latestOf? (command : Command) (ds : List Directive) : Option Directive :=
  (ds.filter (·.command = command)).getLast?

/-- The mode, the galley, the title that waits, the next number and the recorded titles of a
compositor that has been fed some directives fit together. -/
structure ModeHolds (ds : List Directive) (c : Compositor) : Prop where
  /-- Only an idle compositor has an empty galley. -/
  idle : c.galley = [] → c.mode = .idle
  /-- A title waits exactly while a chapter or the afterword is open. -/
  waits : c.pending.isSome = true ↔ c.mode = .chapter ∨ c.mode = .afterword
  /-- While a chapter is open, the galley begins with the heading of the latest one.  The heading
  has the number before the next, and its title is the one that waits and the one recorded last. -/
  chapter : c.mode = .chapter → ∃ d, latestOf? .chapter ds = some d
    ∧ c.galley.head? = some (.chapterHeading (c.next - 1) d.argument)
    ∧ c.pending = some d.argument ∧ c.titles.getLast? = some d.argument
  /-- While the afterword is open, the galley begins with the heading of the latest one. -/
  afterword : c.mode = .afterword → ∃ d, latestOf? .afterword ds = some d
    ∧ c.galley.head? = some (.afterwordHeading (c.next - 1) d.argument)
    ∧ c.pending = some d.argument

/-! ### The latest directives -/

/-- The latest boundary is the latest directive with its command. -/
theorem latestOf?_of_latestBoundary? {ds : List Directive} {d : Directive}
    (h : latestBoundary? ds = some d) : latestOf? d.command ds = some d := by
  have hboundary : d.command.isBoundary = true :=
    (List.mem_filter.mp (List.mem_of_getLast? h)).2
  have hamong : ds.filter (·.command = d.command)
      = (ds.filter (·.command.isBoundary)).filter (·.command = d.command) := by
    rw [List.filter_filter]
    refine List.filter_congr fun e _ => ?_
    by_cases he : e.command = d.command <;> simp [he, hboundary]
  obtain ⟨front, hfront⟩ := List.getLast?_eq_some_iff.mp h
  rw [latestOf?, hamong, hfront, List.filter_append, List.getLast?_append]
  simp

/-- The directive that opens the last stretch, if the stretch has a title from this command. -/
theorem exists_latestOf? {ds : List Directive} {command : Command} {title : String}
    (h : (Manuscript.ofDirectives ds).rest.argumentOf? command = some title) :
    ∃ d, latestOf? command ds = some d ∧ d.argument = title := by
  obtain ⟨d, hopener, rfl, htitle⟩ := Stretch.argumentOf?_eq_some_iff.mp h
  rw [rest_opener_ofDirectives] at hopener
  exact ⟨d, latestOf?_of_latestBoundary? hopener, htitle⟩

/-- **While a chapter is open, its title is the latest one.**  It was recorded where the segment
before it closed, and no segment has closed since. -/
theorem getLast?_titles_of_chapterTitle? {m : Manuscript} (hcut : m.WellCut) {title : String}
    (h : m.rest.chapterTitle? = some title) : m.titles.getLast? = some title := by
  obtain ⟨d, hopener, hcommand, rfl⟩ := Stretch.argumentOf?_eq_some_iff.mp h
  rw [hcut.rest_opener_eq] at hopener
  obtain ⟨s, hlast, rfl⟩ := Option.map_eq_some_iff.mp hopener
  obtain ⟨earlier, hsegments⟩ := List.getLast?_eq_some_iff.mp hlast
  have hrecords : s.records = [s.closer.argument] := by
    unfold Segment.records
    rw [hcommand]
  rw [Manuscript.titles, hsegments, recordedTitles_concat, hrecords, List.getLast?_concat]

/-! ### Modes -/

/-- **The mode of a compositor holds, whatever it has been fed.** -/
theorem modeHolds_composed (ds : List Directive) : ModeHolds ds (composed ds) := by
  have htracks : Tracks (composed ds) _ := tracks_feedAll ds
  have hcut := (Manuscript.wellCut_ofDirectives ds).2
  have hnumber : ((composed ds).next : Int) - 1 + 1 = (composed ds).next := Int.sub_add_cancel _ _
  -- the three modes are the three ways in which the last stretch of the manuscript can open
  rcases htracks.mode_cases with ⟨title, hmode, hpending, htitle, -⟩ |
    ⟨title, hmode, hpending, -, htitle⟩ | ⟨hmode, hpending, -, -⟩
  · obtain ⟨d, hlatest, rfl⟩ := exists_latestOf? htitle
    have hhead := htracks.head?_galley_chapter_iff.mpr ⟨hmode, hpending, hnumber⟩
    have hrecorded := getLast?_titles_of_chapterTitle? hcut htitle
    rw [← htracks.titles] at hrecorded
    refine ⟨fun hnil => ?_, ?_, fun _ => ⟨d, hlatest, hhead, hpending, hrecorded⟩, ?_⟩
    · rw [hnil] at hhead
      contradiction
    · simp [hmode, hpending]
    · simp [hmode]
  · obtain ⟨d, hlatest, rfl⟩ := exists_latestOf? htitle
    have hhead := htracks.head?_galley_afterword_iff.mpr ⟨hmode, hpending, hnumber⟩
    refine ⟨fun hnil => ?_, ?_, ?_, fun _ => ⟨d, hlatest, hhead, hpending⟩⟩
    · rw [hnil] at hhead
      contradiction
    · simp [hmode, hpending]
    · simp [hmode]
  · refine ⟨fun _ => hmode, ?_, ?_, ?_⟩ <;> simp [hmode, hpending]

end Kumihan.Book
