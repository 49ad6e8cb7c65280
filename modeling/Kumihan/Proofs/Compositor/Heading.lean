import Kumihan.Proofs.Compositor.Conservation

/-!
# The numbers of the headings

Headings are numbered in the order of the directives that write them.  A sheet has a
heading only at its beginning, and no heading is lost, so the number of a heading is told
by its sheet: it is one more than the count of the sheets with a heading before it.

## Main definitions

* `Sheet.headings` — the numbers of the headings on a sheet.
* `Sheet.opensHeading` — a sheet begins with a heading.

## Main results

* `headings_ofDirectives` — the headings of a manuscript are numbered from one on.
* `mem_headings_iff` — **which heading is on a sheet.**
-/

namespace Kumihan.Book

open Kumihan.Markup

/-- The number of the anchor, if the fragment is a heading. -/
def Fragment.headingNumber? : Fragment → Option Int
  | chapterHeading number _ | afterwordHeading number _ => some number
  | paragraph _ _ | blank | fill _ => none

/-- The numbers of the headings on a sheet. -/
def Sheet.headings (s : Sheet) : List Int := s.fragments.filterMap Fragment.headingNumber?

/-- The sheet begins with a heading. -/
def Sheet.opensHeading (s : Sheet) : Bool :=
  (s.fragments.head?.bind Fragment.headingNumber?).isSome

/-! ### Headings and text -/

theorem headingNumber?_of_textFragment? {d : Directive} {f : Fragment}
    (h : textFragment? d = some f) : f.headingNumber? = none := by
  unfold textFragment? at h
  split at h <;> simp only [Option.some.injEq, reduceCtorEq] at h <;> subst h <;> rfl

theorem headingNumber?_of_heading? {number : Nat} {d : Directive} {f : Fragment}
    (h : heading? number d = some f) : f.headingNumber? = some (number : Int) := by
  unfold heading? at h
  split at h <;> simp only [Option.some.injEq, reduceCtorEq] at h <;> subst h <;> rfl

theorem filterMap_headingNumber?_text (ds : List Directive) :
    (ds.filterMap textFragment?).filterMap Fragment.headingNumber? = [] := by
  rw [List.filterMap_eq_nil_iff]
  intro f hf
  obtain ⟨d, -, hd⟩ := List.mem_filterMap.mp hf
  exact headingNumber?_of_textFragment? hd

/-- A text without a heading does not begin with one. -/
theorem head?_text (ds : List Directive) :
    (ds.filterMap textFragment?).head?.bind Fragment.headingNumber? = none := by
  cases htext : ds.filterMap textFragment? with
  | nil => rfl
  | cons f fs =>
    have hmem : f ∈ ds.filterMap textFragment? := by simp [htext]
    obtain ⟨d, -, hd⟩ := List.mem_filterMap.mp hmem
    exact headingNumber?_of_textFragment? hd

/-- What a directive writes has a heading if the directive opens one, with the number
that is current. -/
theorem filterMap_headingNumber?_heading (number : Nat) (d : Directive) :
    (heading? number d).toList.filterMap Fragment.headingNumber?
      = if d.command.opensHeading then [(number : Int)] else [] := by
  rw [← heading?_isSome number d]
  cases h : heading? number d with
  | none => rfl
  | some f => simp [headingNumber?_of_heading? h]

/-- What a stretch puts on a page has a heading if the stretch opens with one. -/
theorem filterMap_headingNumber?_fragments (s : Stretch) (number : Nat) :
    (s.fragments number).filterMap Fragment.headingNumber?
      = if s.opensHeading then [(number : Int)] else [] := by
  rw [Stretch.fragments, List.filterMap_append, filterMap_headingNumber?_text, List.append_nil,
    Stretch.opensHeading]
  cases s.opener with
  | none => rfl
  | some d => exact filterMap_headingNumber?_heading number d

/-! ### Sheets -/

/-- **A sheet has a heading at its beginning or nowhere.** -/
theorem Manuscript.headings_of_mem_sheets {m : Manuscript} {sheet : Sheet}
    (h : sheet ∈ m.sheets) :
    sheet.headings = (sheet.fragments.head?.bind Fragment.headingNumber?).toList := by
  unfold Sheet.headings
  rcases mem_sheets h with ⟨ds, h⟩ | ⟨earlier, s, later, -, h⟩
  · rw [(wellSet_of_mem_markSheets h).2]
    rfl
  · rw [(Segment.sheet?_eq_some h).2.2, Segment.text, Stretch.fragments, List.filterMap_append,
      filterMap_headingNumber?_text, List.append_nil]
    cases hheading : s.opener.bind (heading? (nextHeading earlier)) with
    | some f =>
      obtain ⟨d, -, hd⟩ := Option.bind_eq_some_iff.mp hheading
      simp [headingNumber?_of_heading? hd]
    | none =>
      rw [Option.toList_none, List.nil_append, head?_text]
      rfl

theorem length_headings {m : Manuscript} {sheet : Sheet} (h : sheet ∈ m.sheets) :
    sheet.headings.length = if sheet.opensHeading then 1 else 0 := by
  rw [Manuscript.headings_of_mem_sheets h, Sheet.opensHeading]
  cases sheet.fragments.head?.bind Fragment.headingNumber? <;> rfl

theorem length_flatMap_headings {m : Manuscript} {sheets : List Sheet}
    (h : ∀ s ∈ sheets, s ∈ m.sheets) :
    (sheets.flatMap Sheet.headings).length = sheets.countP (·.opensHeading) := by
  induction sheets with
  | nil => rfl
  | cons s sheets ih =>
    have ih := ih fun t ht => h t (List.mem_cons_of_mem s ht)
    rw [List.flatMap_cons, List.length_append, ih, length_headings (h s List.mem_cons_self),
      List.countP_cons, Nat.add_comm]

/-- The page of a segment begins with a heading if the segment does. -/
theorem Segment.opensHeading_of_sheet? {earlier : List Segment} {s : Segment} {sheet : Sheet}
    (h : s.sheet? earlier = some sheet) : sheet.opensHeading = s.opensHeading := by
  rw [Sheet.opensHeading, (Segment.sheet?_eq_some h).2.2, Segment.text, Stretch.fragments,
    Stretch.opensHeading]
  cases s.opener with
  | none =>
    rw [Option.bind_none, Option.toList_none, List.nil_append, head?_text]
    rfl
  | some d =>
    rw [Option.bind_some, Option.any_some, ← heading?_isSome (nextHeading earlier) d]
    cases hheading : heading? (nextHeading earlier) d with
    | none =>
      rw [Option.toList_none, List.nil_append, head?_text]
      rfl
    | some f => simp [headingNumber?_of_heading? hheading]

/-! ### The numbers -/

theorem filterMap_headingNumber?_fragmentsFrom (number : Nat) (ds : List Directive) :
    (fragmentsFrom number ds).filterMap Fragment.headingNumber?
      = (List.range' number (ds.countP (·.command.opensHeading))).map fun n : Nat => (n : Int) := by
  induction ds generalizing number with
  | nil => rfl
  | cons d ds ih =>
    have hfragment : (fragment? number d).toList.filterMap Fragment.headingNumber?
        = if d.command.opensHeading then [(number : Int)] else [] := by
      rw [← filterMap_headingNumber?_heading number d, fragment?]
      cases hheading : heading? number d with
      | some f => rfl
      | none =>
        cases htext : textFragment? d with
        | none => rfl
        | some f => simp [headingNumber?_of_textFragment? htext]
    rw [fragmentsFrom, List.filterMap_append, hfragment, ih]
    by_cases hd : d.command.opensHeading = true
    · simp [hd, List.range'_succ]
    · simp [hd]

/-- **The headings of a manuscript are numbered from one on**, and only those behind the
last boundary are missing on the sheets. -/
theorem headings_ofDirectives (ds : List Directive) :
    (Manuscript.ofDirectives ds).sheets.flatMap Sheet.headings
        ++ (Manuscript.ofDirectives ds).leftover.filterMap Fragment.headingNumber?
      = (List.range' 1 (ds.countP (·.command.opensHeading))).map fun n : Nat => (n : Int) := by
  rw [← filterMap_headingNumber?_fragmentsFrom, ← fragments_ofDirectives, List.filterMap_append,
    List.filterMap_flatMap]
  rfl

/-- **Which heading is on a sheet**: the sheet must begin with one, and its number is one
more than the count of the sheets with a heading before it. -/
theorem mem_headings_iff {ds : List Directive} {pre post : List Sheet} {s : Sheet}
    (h : (Manuscript.ofDirectives ds).sheets = pre ++ s :: post) (n : Nat) :
    (n : Int) ∈ s.headings ↔ s.opensHeading = true ∧ n = pre.countP (·.opensHeading) + 1 := by
  have hs : s ∈ (Manuscript.ofDirectives ds).sheets := by simp [h]
  have hpre : ∀ t ∈ pre, t ∈ (Manuscript.ofDirectives ds).sheets := fun t ht => by simp [h, ht]
  have hlength := length_flatMap_headings hpre
  have hone := length_headings hs
  have hall := headings_ofDirectives ds
  rw [h, List.flatMap_append, List.flatMap_cons] at hall
  by_cases hopens : s.opensHeading = true
  · rw [if_pos hopens] at hone
    obtain ⟨x, hx⟩ := List.length_eq_one_iff.mp hone
    -- the heading stands behind those of `pre`, so it is the next one of the range
    have hget := congrArg (fun l => l[pre.countP (·.opensHeading)]?) hall
    simp only [hx, List.append_assoc] at hget
    rw [List.getElem?_append_right (by omega), hlength, Nat.sub_self, List.singleton_append,
      List.getElem?_cons_zero, List.getElem?_map] at hget
    obtain ⟨k, hk, hxk⟩ := Option.map_eq_some_iff.mp hget.symm
    have hk := (List.getElem?_eq_some_iff.mp hk).2
    rw [List.getElem_range'] at hk
    rw [hx, List.mem_singleton, ← hxk]
    constructor
    · intro hn
      exact ⟨hopens, by omega⟩
    · rintro ⟨-, rfl⟩
      omega
  · rw [if_neg hopens] at hone
    rw [List.length_eq_zero_iff.mp hone]
    constructor
    · intro hn
      simp at hn
    · rintro ⟨hn, -⟩
      exact absurd hn hopens

/-- A sheet that begins with a heading has its number from the sheets before it, and its
content begins with the markup of the heading. -/
theorem exists_heading {ds : List Directive} {pre post : List Sheet} {s : Sheet}
    (h : (Manuscript.ofDirectives ds).sheets = pre ++ s :: post) (hopens : s.opensHeading = true) :
    ∃ heading : Fragment,
      heading.headingNumber? = some ((pre.countP (·.opensHeading) + 1 : Nat) : Int)
        ∧ heading.render.toList <+: s.action.content.toList := by
  have hs : s ∈ (Manuscript.ofDirectives ds).sheets := by simp [h]
  have hnumber := (mem_headings_iff h _).mpr ⟨hopens, rfl⟩
  rw [Manuscript.headings_of_mem_sheets hs, Option.mem_toList] at hnumber
  obtain ⟨heading, hhead, hnumber⟩ := Option.bind_eq_some_iff.mp hnumber
  obtain ⟨rest, hfragments⟩ := List.head?_eq_some_iff.mp hhead
  refine ⟨heading, hnumber, ?_⟩
  have hset := Manuscript.wellSet_of_mem_sheets hs
  unfold Sheet.WellSet at hset
  by_cases htext : s.action.kind.holdsText = true
  · rw [if_pos htext, hfragments] at hset
    rw [hset, render, List.map_cons, String.join_cons, String.toList_append]
    exact List.prefix_append _ _
  · rw [if_neg htext, hfragments] at hset
    contradiction

end Kumihan.Book
