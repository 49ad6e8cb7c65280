import Kumihan.Proofs.Compositor.Galley
import Kumihan.Proofs.Text.Decimal
import Mathlib.Data.List.Nodup

/-!
# Where the headings stand

A chapter and an afterword begin with a heading, and the headings of a manuscript are numbered in
their order.  Each of them finds the galley empty, so it is the first fragment of the page that
the galley becomes, or of what is left over, and it is the only heading there.

## Main definitions

* `Fragment.anchor?` — the name of the anchor of a heading.
* `StandsOnce f sheets galley` — a fragment opens one page of text or the last galley.
* `HeadingsPlaced ds` — the headings of a manuscript stand one on a page, under their numbers.

## Main results

* `anchor_injective` — different numbers make different anchors.
* `standsOnce_heading` — every heading opens one page of text or the last galley.
* `Manuscript.title_of_chapterHeading`, `Manuscript.title_of_afterwordHeading` — a page under a
  heading of its own kind has the title of the heading.
* `headingsPlaced` — **the headings of a manuscript stand one on a page, under their numbers.**
-/

namespace Kumihan.Book

open Kumihan.Markup

/-! ### Anchors -/

/-- The name of the anchor, if the fragment is a heading. -/
def Fragment.anchor? (f : Fragment) : Option String := f.headingNumber?.map anchor

/-- Different headings have different anchors, however many digits their numbers have. -/
theorem anchor_injective : Function.Injective fun k : Nat => anchor k := by
  intro m n h
  have hchars := congrArg String.toList h
  simp only [anchor, String.toList_append, String.toList_ofList] at hchars
  exact Text.paddedDigits_injective (List.append_cancel_left hchars)

theorem Fragment.render_chapterHeading (number : Int) (title : String) :
    (chapterHeading number title).render
      = "<p class=\"mfont font-1em30\" id=\"" ++ anchor number ++ "\">" ++ title ++ "</p>\n"
        ++ blankParagraph := rfl

theorem Fragment.render_afterwordHeading (number : Int) (title : String) :
    (afterwordHeading number title).render
      = "<p class=\"mfont font-1em30\" id=\"" ++ anchor number ++ "\">　" ++ title ++ "</p>\n"
        ++ blankParagraph := rfl

/-- The anchor is the name by which the markup of its heading is found. -/
theorem anchor_occurs {f : Fragment} {name : String} (h : f.anchor? = some name) :
    ∃ opening closing, f.render = opening ++ ("id=\"" ++ name ++ "\"") ++ closing := by
  have hopening : "<p class=\"mfont font-1em30\" id=\""
      = "<p class=\"mfont font-1em30\" " ++ "id=\"" := by cbv
  obtain ⟨number, hnumber, rfl⟩ := Option.map_eq_some_iff.mp h
  cases f with
  | chapterHeading k title =>
    obtain rfl := Option.some.inj hnumber
    have hquote : "\">" = "\"" ++ ">" := by cbv
    refine ⟨"<p class=\"mfont font-1em30\" ", ">" ++ title ++ "</p>\n" ++ blankParagraph, ?_⟩
    simp only [Fragment.render_chapterHeading, hopening, hquote, String.append_assoc]
  | afterwordHeading k title =>
    obtain rfl := Option.some.inj hnumber
    have hquote : "\">　" = "\"" ++ ">　" := by cbv
    refine ⟨"<p class=\"mfont font-1em30\" ", ">　" ++ title ++ "</p>\n" ++ blankParagraph, ?_⟩
    simp only [Fragment.render_afterwordHeading, hopening, hquote, String.append_assoc]
  | paragraph indent text => contradiction
  | blank => contradiction
  | fill text => contradiction

theorem filterMap_anchor? (fs : List Fragment) :
    fs.filterMap Fragment.anchor? = (fs.filterMap Fragment.headingNumber?).map anchor := by
  rw [List.map_filterMap]
  rfl

/-- The anchors of a manuscript are numbered from one on, in the order of its pages. -/
theorem filterMap_anchor?_setSheets (ds : List Directive) :
    ((setSheets ds).flatMap (·.fragments) ++ lastGalley ds).filterMap Fragment.anchor?
      = (List.range' 1 (ds.countP (·.command.opensHeading))).map fun k : Nat => anchor k := by
  rw [setSheets_eq, lastGalley_eq, fragments_ofDirectives, filterMap_anchor?,
    filterMap_headingNumber?_fragmentsFrom, List.map_map]
  rfl

/-! ### One heading -/

theorem isBoundary_of_opensHeading {c : Command} (h : c.opensHeading = true) :
    c.isBoundary = true := by
  by_contra hnot
  rw [opensHeading_of_not_isBoundary (Bool.not_eq_true _ ▸ hnot)] at h
  contradiction

/-- A chapter or an afterword leaves the galley with its heading and nothing else. -/
theorem lastGalley_concat (ds : List Directive) {d : Directive}
    (hd : d.command.opensHeading = true) :
    lastGalley (ds ++ [d]) = (heading? (ds.countP (·.command.opensHeading) + 1) d).toList := by
  rw [lastGalley_eq, Manuscript.ofDirectives_concat,
    Manuscript.leftover_add _ (isBoundary_of_opensHeading hd), Manuscript.next_ofDirectives]

/-- A fragment is the beginning of one page of text, or of the last galley, and stands on no other
page. -/
def StandsOnce (f : Fragment) (sheets : List Sheet) (galley : List Fragment) : Prop :=
  (∃ before sheet after, sheets = before ++ sheet :: after
      ∧ sheet.action.kind.holdsText = true ∧ sheet.fragments.head? = some f
      ∧ (∀ other ∈ before ++ after, f ∉ other.fragments) ∧ f ∉ galley)
    ∨ galley.head? = some f ∧ ∀ sheet ∈ sheets, f ∉ sheet.fragments

/-- Where the values of the members differ, a member of the first part is none of the second. -/
theorem notMem_of_nodup_filterMap {α β : Type} {g : α → Option β} {xs ys : List α} {a : α} {b : β}
    (hb : g a = some b) (h : ((xs ++ ys).filterMap g).Nodup) (ha : a ∈ xs) : a ∉ ys := by
  intro hmem
  rw [List.filterMap_append, List.nodup_append] at h
  exact h.2.2 b (List.mem_filterMap.mpr ⟨a, ha, hb⟩) b (List.mem_filterMap.mpr ⟨a, hmem, hb⟩) rfl

/-- What a sheet of a manuscript is set from is nothing, or the text of a segment. -/
theorem Manuscript.fragments_cases {m : Manuscript} {sheet : Sheet} (h : sheet ∈ m.sheets) :
    sheet.fragments = [] ∨ ∃ earlier s later, m.segments = earlier ++ s :: later
      ∧ s.sheet? earlier = some sheet ∧ sheet.fragments = s.fragments (nextHeading earlier) := by
  rcases mem_sheets h with ⟨ds, hmark⟩ | ⟨earlier, s, later, hsegments, hsheet⟩
  · exact Or.inl (wellSet_of_mem_markSheets hmark).2
  · exact Or.inr ⟨earlier, s, later, hsegments, hsheet, (Segment.sheet?_eq_some hsheet).2.2⟩

/-- A heading on a sheet is the first of what the sheet is set from, and the sheet is a page of
text. -/
theorem Manuscript.head?_of_mem_fragments {m : Manuscript} {sheet : Sheet} (h : sheet ∈ m.sheets)
    {f : Fragment} (hf : f.headingNumber? ≠ none) (hmem : f ∈ sheet.fragments) :
    sheet.action.kind.holdsText = true ∧ sheet.fragments.head? = some f := by
  rcases m.fragments_cases h with hnone | ⟨earlier, s, later, -, hsheet, hfragments⟩
  · rw [hnone] at hmem
    exact absurd hmem List.not_mem_nil
  · rw [hfragments] at hmem ⊢
    exact ⟨(Segment.sheet?_eq_some hsheet).1, Book.head?_of_mem_fragments hf hmem⟩

/-- The headings of a manuscript have different numbers. -/
theorem nodup_headingNumbers (ds : List Directive) :
    (((Manuscript.ofDirectives ds).sheets.flatMap (·.fragments)
      ++ (Manuscript.ofDirectives ds).leftover).filterMap Fragment.headingNumber?).Nodup := by
  rw [fragments_ofDirectives, filterMap_headingNumber?_fragmentsFrom]
  exact (List.nodup_range' 1 Nat.one_pos).map fun m n h => Int.ofNat.inj h

/-- The heading of a directive is among what the directives write. -/
theorem mem_fragmentsFrom_of_heading? {before after : List Directive} {d : Directive} {f : Fragment}
    (hf : heading? (before.countP (·.command.opensHeading) + 1) d = some f) :
    f ∈ fragmentsFrom 1 (before ++ d :: after) := by
  rw [fragmentsFrom_append, fragmentsFrom, fragment?, Nat.add_comm 1, hf]
  simp

/-- **Every heading opens one page of text or the last galley.** -/
theorem standsOnce_heading {ds before after : List Directive} {d : Directive}
    (hds : ds = before ++ d :: after) {f : Fragment}
    (hf : heading? (before.countP (·.command.opensHeading) + 1) d = some f) :
    StandsOnce f (setSheets ds) (lastGalley ds) := by
  rw [setSheets_eq, lastGalley_eq]
  have hnumber := headingNumber?_of_heading? hf
  have hne : f.headingNumber? ≠ none := by
    rw [hnumber]
    nofun
  have hmem : f ∈ (Manuscript.ofDirectives ds).sheets.flatMap (·.fragments)
      ++ (Manuscript.ofDirectives ds).leftover := by
    rw [fragments_ofDirectives, hds]
    exact mem_fragmentsFrom_of_heading? hf
  have hnodup := nodup_headingNumbers ds
  rcases List.mem_append.mp hmem with hset | hleft
  · -- it is on a sheet, and the sheets before and behind it have other numbers
    have hout := notMem_of_nodup_filterMap hnumber hnodup hset
    obtain ⟨sheet, hsheet, hfragments⟩ := List.mem_flatMap.mp hset
    obtain ⟨htext, hhead⟩ := Manuscript.head?_of_mem_fragments hsheet hne hfragments
    obtain ⟨pre, post, hsheets⟩ := List.append_of_mem hsheet
    refine Or.inl ⟨pre, sheet, post, hsheets, htext, hhead, ?_, hout⟩
    intro other hother hmem
    have hall : other.fragments ⊆ (pre ++ post).flatMap (·.fragments) := by
      intro g hg
      exact List.mem_flatMap.mpr ⟨other, hother, hg⟩
    have hperm : (sheet.fragments ++ (pre ++ post).flatMap (·.fragments)).Perm
        ((Manuscript.ofDirectives ds).sheets.flatMap (·.fragments)) := by
      rw [hsheets]
      exact (List.perm_middle.flatMap_right _).symm
    rw [List.filterMap_append] at hnodup
    have hdiffer := (hperm.filterMap Fragment.headingNumber?).nodup_iff.mpr hnodup.of_append_left
    exact notMem_of_nodup_filterMap hnumber hdiffer hfragments (hall hmem)
  · -- it is left over
    refine Or.inr ⟨head?_of_mem_fragments hne hleft, ?_⟩
    intro sheet hsheet hfragments
    exact notMem_of_nodup_filterMap hnumber hnodup
      (List.mem_flatMap.mpr ⟨sheet, hsheet, hfragments⟩) hleft

/-! ### Titles -/

/-- A page that opens with the heading of a chapter and has a chapter title has that of the
chapter. -/
theorem Segment.title_of_chapterTitle? {s : Segment} {latest : Option String}
    {content title : String} {a : Action} (h : s.page? latest content = some a)
    (hkind : a.kind = .titledBody) (htitle : s.chapterTitle? = some title) :
    a.title = some title := by
  unfold page? at h
  cases hc : s.closer.command <;> rw [hc] at h <;>
    simp only [Option.ite_none_left_eq_some, Option.some.injEq, reduceCtorEq] at h
  case chapter | image =>
    rw [htitle] at h
    rw [← h.2]
    rfl
  case bibliography =>
    rw [htitle] at h
    rw [← h]
    rfl
  case afterword =>
    rw [← h.2] at hkind
    contradiction
  all_goals
    rw [← h] at hkind
    contradiction

/-- The page of an afterword that opens with its heading has its title. -/
theorem Segment.title_of_afterwordTitle? {s : Segment} {latest : Option String}
    {content title : String} {a : Action} (h : s.page? latest content = some a)
    (hkind : a.kind = .afterword) (htitle : s.afterwordTitle? = some title) :
    a.title = some title := by
  have hbody : ∀ title : Option String, (bodyPage content title).kind ≠ .afterword := by
    intro title
    cases title <;> nofun
  unfold page? at h
  cases hc : s.closer.command <;> rw [hc] at h <;>
    simp only [Option.ite_none_left_eq_some, Option.some.injEq, reduceCtorEq] at h
  case chapter | image | afterword =>
    rw [← h.2] at hkind
    exact absurd hkind (hbody _)
  case endAfterword =>
    rw [← h]
    exact htitle
  all_goals
    rw [← h] at hkind
    contradiction

namespace Manuscript

variable {m : Manuscript} {sheet : Sheet} {k : Int} {title : String}

/-- What a sheet that begins with a fragment is set from. -/
theorem exists_of_head?_eq_some (h : sheet ∈ m.sheets) {f : Fragment}
    (hhead : sheet.fragments.head? = some f) :
    ∃ (earlier : List Segment) (s : Segment),
      s.page? (recordedTitles earlier).getLast? (render (s.text earlier)) = some sheet.action
      ∧ (s.fragments (nextHeading earlier)).head? = some f := by
  rcases m.fragments_cases h with hnone | ⟨earlier, s, later, -, hsheet, hfragments⟩
  · rw [hnone] at hhead
    contradiction
  · obtain ⟨page, hpage, rfl⟩ := Option.map_eq_some_iff.mp hsheet
    rw [hfragments] at hhead
    exact ⟨earlier, s, hpage, hhead⟩

/-- **A titled page under the heading of a chapter has the title of the chapter.** -/
theorem title_of_chapterHeading (h : sheet ∈ m.sheets)
    (hhead : sheet.fragments.head? = some (.chapterHeading k title))
    (hkind : sheet.action.kind = .titledBody) : sheet.action.title = some title := by
  obtain ⟨earlier, s, hpage, hfragments⟩ := exists_of_head?_eq_some h hhead
  exact Segment.title_of_chapterTitle? hpage hkind
    (Stretch.head?_eq_chapterHeading_iff.mp hfragments).1

/-- **An afterword under its own heading has the title of the heading.** -/
theorem title_of_afterwordHeading (h : sheet ∈ m.sheets)
    (hhead : sheet.fragments.head? = some (.afterwordHeading k title))
    (hkind : sheet.action.kind = .afterword) : sheet.action.title = some title := by
  obtain ⟨earlier, s, hpage, hfragments⟩ := exists_of_head?_eq_some h hhead
  exact Segment.title_of_afterwordTitle? hpage hkind
    (Stretch.head?_eq_afterwordHeading_iff.mp hfragments).1

/-- Behind the first fragment of a sheet there is no heading. -/
theorem anchor?_of_mem_tail (h : sheet ∈ m.sheets) {f : Fragment}
    (hf : f ∈ sheet.fragments.tail) : f.anchor? = none := by
  rw [Fragment.anchor?, Option.map_eq_none_iff]
  rcases m.fragments_cases h with hnone | ⟨earlier, s, later, -, -, hfragments⟩
  · rw [hnone] at hf
    exact absurd hf List.not_mem_nil
  · rw [hfragments] at hf
    exact headingNumber?_of_mem_tail_fragments hf

end Manuscript

/-! ### All headings of a manuscript -/

/-- The headings of a manuscript stand one on a page, under their numbers. -/
structure HeadingsPlaced (ds : List Directive) : Prop where
  /-- The sheets are the actions that the compositor makes. -/
  actions : (setSheets ds).map (·.action) = (composeDirectives ds).actions
  /-- A page of text is the markup of what it is set from, and nothing else is set. -/
  wellSet : ∀ sheet ∈ setSheets ds, sheet.WellSet
  /-- What is left over is the markup of the last galley. -/
  leftover : (composeDirectives ds).leftover = render (lastGalley ds)
  /-- The next number is behind those of the chapters and afterwords. -/
  next : (composeDirectives ds).next = ds.countP (·.command.opensHeading) + 1
  /-- The anchors, in the order of the pages, are numbered from one on. -/
  anchors : ((setSheets ds).flatMap (·.fragments) ++ lastGalley ds).filterMap Fragment.anchor?
    = (List.range' 1 (ds.countP (·.command.opensHeading))).map fun k : Nat => anchor k
  /-- No anchor stands twice. -/
  nodup :
    (((setSheets ds).flatMap (·.fragments) ++ lastGalley ds).filterMap Fragment.anchor?).Nodup
  /-- A chapter or an afterword puts its heading into the empty galley.  The heading has the number
  of the directive, and opens one page of text or what is left over. -/
  seeded : ∀ before d after, ds = before ++ d :: after → d.command.opensHeading = true →
    ∃ heading, heading? (before.countP (·.command.opensHeading) + 1) d = some heading
      ∧ heading.anchor? = some (anchor (before.countP (·.command.opensHeading) + 1 : Nat))
      ∧ lastGalley (before ++ [d]) = [heading]
      ∧ StandsOnce heading (setSheets ds) (lastGalley ds)
  /-- The name of an anchor is in the markup of its heading. -/
  named : ∀ heading ∈ (setSheets ds).flatMap (·.fragments) ++ lastGalley ds,
    ∀ name, heading.anchor? = some name →
      ∃ opening closing, heading.render = opening ++ ("id=\"" ++ name ++ "\"") ++ closing
  /-- Only the first fragment of a page or of the last galley is a heading. -/
  alone : ∀ galley ∈ (setSheets ds).map (·.fragments) ++ [lastGalley ds],
    ∀ f ∈ galley.tail, f.anchor? = none
  /-- A titled page under the heading of a chapter has its title. -/
  chapters : ∀ sheet ∈ setSheets ds, ∀ k title,
    sheet.fragments.head? = some (.chapterHeading k title) → sheet.action.kind = .titledBody →
      sheet.action.title = some title
  /-- An afterword under its own heading has its title. -/
  afterwords : ∀ sheet ∈ setSheets ds, ∀ k title,
    sheet.fragments.head? = some (.afterwordHeading k title) → sheet.action.kind = .afterword →
      sheet.action.title = some title

/-- **The headings of a manuscript stand one on a page, under their numbers.** -/
theorem headingsPlaced (ds : List Directive) : HeadingsPlaced ds where
  actions := Compositor.map_action_feedAllSheets ..
  wellSet := by
    intro sheet hsheet
    rw [setSheets_eq] at hsheet
    exact Manuscript.wellSet_of_mem_sheets hsheet
  leftover := rfl
  next := by
    rw [← Manuscript.next_ofDirectives]
    exact (tracks_feedAll ds).next
  anchors := filterMap_anchor?_setSheets ds
  nodup := by
    rw [filterMap_anchor?_setSheets]
    exact (List.nodup_range' 1 Nat.one_pos).map anchor_injective
  seeded := by
    intro before d after hds hd
    have hsome : (heading? (before.countP (·.command.opensHeading) + 1) d).isSome = true := by
      rw [heading?_isSome, hd]
    obtain ⟨heading, hheading⟩ := Option.isSome_iff_exists.mp hsome
    refine ⟨heading, hheading, ?_, ?_, standsOnce_heading hds hheading⟩
    · rw [Fragment.anchor?, headingNumber?_of_heading? hheading]
      rfl
    · rw [lastGalley_concat before hd, hheading]
      rfl
  named := fun _ _ _ => anchor_occurs
  alone := by
    intro galley hgalley f hf
    rcases List.mem_append.mp hgalley with hsheets | hlast
    · obtain ⟨sheet, hsheet, rfl⟩ := List.mem_map.mp hsheets
      rw [setSheets_eq] at hsheet
      exact Manuscript.anchor?_of_mem_tail hsheet hf
    · rw [List.mem_singleton.mp hlast, lastGalley_eq] at hf
      rw [Fragment.anchor?, headingNumber?_of_mem_tail_fragments hf]
      rfl
  chapters := by
    intro sheet hsheet k title
    rw [setSheets_eq] at hsheet
    exact Manuscript.title_of_chapterHeading hsheet
  afterwords := by
    intro sheet hsheet k title
    rw [setSheets_eq] at hsheet
    exact Manuscript.title_of_afterwordHeading hsheet

end Kumihan.Book
