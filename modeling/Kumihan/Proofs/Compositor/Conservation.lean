import Kumihan.Proofs.Compositor.Refinement

/-!
# No text is lost

Every text of a manuscript gets on exactly one page or is left over, in its order.  The
statement is about fragments first: what the sheets of a manuscript are set from and what
is left over are together what the directives write, one after the other.

## Main definitions

* `fragment?`, `fragmentsFrom` — what directives write, whoever takes it.
* `Sheet.WellSet` — an action holds the markup of its fragments.

## Main results

* `fragments_ofDirectives` — the sheets and the leftover hold every fragment once.
* `contents_append_leftover` — **no text is lost, repeated or moved.**
-/

namespace Kumihan.Book

open Kumihan.Markup

@[simp] theorem render_append (fs gs : List Fragment) :
    render (fs ++ gs) = render fs ++ render gs := by
  simp [render]

/-! ### What directives write -/

/-- What a directive writes: a heading, which takes the current number, or text. -/
def fragment? (number : Nat) (d : Directive) : Option Fragment :=
  (heading? number d).or (textFragment? d)

/-- What directives write, the first heading being number `number`. -/
def fragmentsFrom : Nat → List Directive → List Fragment
  | _, [] => []
  | number, d :: ds =>
    (fragment? number d).toList
      ++ fragmentsFrom (if d.command.opensHeading then number + 1 else number) ds

theorem fragmentsFrom_append (number : Nat) (ds es : List Directive) :
    fragmentsFrom number (ds ++ es)
      = fragmentsFrom number ds
        ++ fragmentsFrom (number + ds.countP (·.command.opensHeading)) es := by
  induction ds generalizing number with
  | nil => rfl
  | cons d ds ih =>
    rw [List.cons_append, fragmentsFrom, ih, fragmentsFrom, List.append_assoc, List.countP_cons]
    by_cases hd : d.command.opensHeading = true
    · rw [if_pos hd, if_pos hd, Nat.add_assoc, Nat.add_comm 1]
    · rw [if_neg hd, if_neg hd, Nat.add_zero]

/-! ### Sheets and what they are set from -/

/-- A page of text holds the markup of its fragments; nothing else has fragments. -/
def Sheet.WellSet (s : Sheet) : Prop :=
  if s.action.kind.holdsText then s.action.content = render s.fragments else s.fragments = []

theorem wellSet_of_mem_markSheets {ds : List Directive} {s : Sheet} (h : s ∈ markSheets ds) :
    s.action.kind.holdsText = false ∧ s.fragments = [] := by
  obtain ⟨a, ha, rfl⟩ := List.mem_map.mp h
  obtain ⟨d, -, ha⟩ := List.mem_flatMap.mp ha
  exact ⟨holdsText_of_mem_marks ha, rfl⟩

theorem flatMap_fragments_markSheets (ds : List Directive) :
    (markSheets ds).flatMap (·.fragments) = [] := by
  rw [List.flatMap_eq_nil_iff]
  intro s hs
  exact (wellSet_of_mem_markSheets hs).2

/-- The page of a segment is set from the text of the segment. -/
theorem Segment.sheet?_eq_some {earlier : List Segment} {s : Segment} {sheet : Sheet}
    (h : s.sheet? earlier = some sheet) :
    sheet.action.kind.holdsText = true ∧ sheet.action.content = render (s.text earlier)
      ∧ sheet.fragments = s.text earlier := by
  obtain ⟨page, hpage, rfl⟩ := Option.map_eq_some_iff.mp h
  obtain ⟨hkind, hcontent⟩ := Segment.holdsText_content_of_page? hpage
  exact ⟨hkind, hcontent, rfl⟩

/-- A segment without a page has no text. -/
theorem Segment.text_of_sheet?_eq_none {earlier : List Segment} {s : Segment}
    (hs : s.closer.command.isBoundary = true) (h : s.sheet? earlier = none) :
    s.text earlier = [] := by
  have hempty := Segment.isEmpty_of_page?_eq_none hs (Option.map_eq_none_iff.mp h)
  rw [← Stretch.isEmpty_fragments s.toStretch (nextHeading earlier)] at hempty
  exact List.isEmpty_iff.mp hempty

theorem Manuscript.wellSet_of_mem_sheets {m : Manuscript} {sheet : Sheet}
    (h : sheet ∈ m.sheets) : sheet.WellSet := by
  unfold Sheet.WellSet
  rcases mem_sheets h with ⟨ds, h⟩ | ⟨earlier, s, later, -, h⟩
  · rw [if_neg (by simp [(wellSet_of_mem_markSheets h).1])]
    exact (wellSet_of_mem_markSheets h).2
  · obtain ⟨hkind, hcontent, hfragments⟩ := Segment.sheet?_eq_some h
    rw [if_pos hkind, hcontent, hfragments]

/-- The contents of the pages of text are the markup of what they are set from. -/
theorem join_contents {sheets : List Sheet} (h : ∀ s ∈ sheets, s.WellSet) :
    String.join (((sheets.map (·.action)).filter (·.kind.holdsText)).map (·.content))
      = render (sheets.flatMap (·.fragments)) := by
  induction sheets with
  | nil => rfl
  | cons s sheets ih =>
    have hs := h s List.mem_cons_self
    have ih := ih fun t ht => h t (List.mem_cons_of_mem s ht)
    unfold Sheet.WellSet at hs
    rw [List.map_cons, List.flatMap_cons, render_append, ← ih]
    by_cases htext : s.action.kind.holdsText = true
    · rw [if_pos htext] at hs
      rw [List.filter_cons, if_pos htext, List.map_cons, String.join_cons, hs]
    · rw [if_neg htext] at hs
      rw [List.filter_cons, if_neg htext, hs]
      simp [render]

/-! ### Conservation -/

theorem Manuscript.next_add (m : Manuscript) (d : Directive) :
    (m.add d).next = if d.command.opensHeading then m.next + 1 else m.next := by
  by_cases hd : d.command.isBoundary = true
  · rw [add_of_isBoundary m hd, next, nextHeading_concat]
    by_cases hheading : d.command.opensHeading = true
    · simp [Stretch.opensHeading, hheading, next]
    · simp [Stretch.opensHeading, hheading, next]
  · rw [Bool.not_eq_true] at hd
    rw [add_of_not_isBoundary m hd, opensHeading_of_not_isBoundary hd]
    rfl

/-- The number of the next heading is one more than the count of the headings so far. -/
theorem Manuscript.next_ofDirectives (ds : List Directive) :
    (ofDirectives ds).next = ds.countP (·.command.opensHeading) + 1 := by
  induction ds using List.reverseRecOn with
  | nil => rfl
  | append_singleton ds d ih =>
    rw [ofDirectives_concat, next_add, ih, List.countP_append, List.countP_singleton]
    split <;> omega

/-- Behind a boundary only its heading is left over. -/
theorem Manuscript.leftover_add (m : Manuscript) {d : Directive}
    (hd : d.command.isBoundary = true) : (m.add d).leftover = (heading? m.next d).toList := by
  rw [add_of_isBoundary m hd, leftover, Stretch.fragments, nextHeading_concat]
  simp [next]

/-- **One directive**: what it writes is on the sheets that the manuscript gains or
becomes part of the leftover, behind the leftover that was there. -/
theorem Manuscript.fragments_gain (m : Manuscript) (d : Directive) :
    (m.gain d).flatMap (·.fragments) ++ (m.add d).leftover
      = m.leftover ++ (fragment? m.next d).toList := by
  rw [gain, List.flatMap_append, flatMap_fragments_markSheets, List.append_nil]
  by_cases hd : d.command.isBoundary = true
  · -- a boundary takes all that was left over; what it opens begins with its heading
    have htaken : (({ m.rest with closer := d } : Segment).sheet? m.segments).toList.flatMap
        (·.fragments) = m.leftover := by
      cases hsheet : ({ m.rest with closer := d } : Segment).sheet? m.segments with
      | none => exact (Segment.text_of_sheet?_eq_none hd hsheet).symm
      | some sheet =>
        rw [Option.toList_some, List.flatMap_singleton]
        exact (Segment.sheet?_eq_some hsheet).2.2
    rw [if_pos hd, htaken, leftover_add m hd, fragment?, textFragment?_of_isBoundary hd,
      Option.or_none]
  · -- anything else is added to what is left over
    rw [Bool.not_eq_true] at hd
    have hheading := heading?_eq_none (opensHeading_of_not_isBoundary hd) m.next
    rw [if_neg (by simp [hd]), add_of_not_isBoundary m hd, fragment?, hheading]
    have htext : [d].filterMap textFragment? = (textFragment? d).toList := by
      cases hf : textFragment? d <;> simp [hf]
    simp [leftover, Stretch.fragments, htext]

/-- **A manuscript that goes on** has the fragments that it had, and behind them those
that the further directives write. -/
theorem Manuscript.fragments_foldl_add (ds : List Directive) (m : Manuscript) :
    (ds.foldl add m).sheets.flatMap (·.fragments) ++ (ds.foldl add m).leftover
      = m.sheets.flatMap (·.fragments) ++ m.leftover ++ fragmentsFrom m.next ds := by
  induction ds generalizing m with
  | nil => simp [fragmentsFrom]
  | cons d ds ih =>
    -- the leftover of `m` is among what the next directive closes, or stays in front of it
    rw [List.foldl_cons, ih, sheets_add, List.flatMap_append, List.append_assoc,
      List.append_assoc, ← List.append_assoc (List.flatMap _ (m.gain d)), fragments_gain,
      next_add, fragmentsFrom]
    simp

/-- **The sheets and the leftover hold every fragment once, and in order.** -/
theorem fragments_ofDirectives (ds : List Directive) :
    (Manuscript.ofDirectives ds).sheets.flatMap (·.fragments)
        ++ (Manuscript.ofDirectives ds).leftover
      = fragmentsFrom 1 ds :=
  Manuscript.fragments_foldl_add ds {}

/-- **No text is lost, repeated or moved.**  The contents of the pages of text, in the
order of the actions, and then the leftover are the markup of what the directives
write, in the order of the directives. -/
theorem contents_append_leftover (ds : List Directive) :
    String.join (((composeDirectives ds).actions.filter (·.kind.holdsText)).map (·.content))
        ++ (composeDirectives ds).leftover
      = render (fragmentsFrom 1 ds) := by
  have hleftover : (composeDirectives ds).leftover
      = render (Manuscript.ofDirectives ds).leftover := by
    have h := (tracks_feedAll ds).galley
    simp only [composeDirectives, Composition.ofRun, Compositor.content, h]
  have hactions : (composeDirectives ds).actions
      = (Manuscript.ofDirectives ds).sheets.map (·.action) := actions_feedAll ds
  rw [hactions, join_contents fun s hs => Manuscript.wellSet_of_mem_sheets hs, hleftover,
    ← render_append, fragments_ofDirectives]

end Kumihan.Book
