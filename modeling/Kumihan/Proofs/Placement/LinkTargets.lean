import Kumihan.Files.Path
import Kumihan.Proofs.Contents.Resolved
import Kumihan.Proofs.Placement.Numbering
import Kumihan.Proofs.Text.Cut

/-!
# Links and files number the pages alike

The table of contents counts the actions to know what its links lead to, and the placing of
the pages counts them to name the files.  Both go by one numbering: the body pages, and no
others, take the numbers from one on in the order of their actions.

## Main definitions

* `bodyPages n as` — the body pages among the actions, with their numbers from `n` on.
* `linkedFile t` — the file that the link to page `t` names.

## Main results

* `linkTargetsFrom_eq` — the table of contents goes by that numbering.
* `map_page_layoutFrom` — the placements go by it.
* `linkTargets_agree` — **the links have the numbers and the files of the linked pages.**
-/

namespace Kumihan.Book

/-! ### The numbering -/

/-- The body pages among the actions with their numbers, the first of them having number `n`. -/
def bodyPages (n : Nat) (as : List Action) : List (Action × Nat) :=
  (as.filter (·.kind.isNumbered)).zipIdx n

section

variable {n : Nat} {a : Action} {as : List Action}

theorem bodyPages_cons_of_pos (ha : a.kind.isNumbered = true) :
    bodyPages n (a :: as) = (a, n) :: bodyPages (n + 1) as := by
  rw [bodyPages, List.filter_cons, if_pos ha, List.zipIdx_cons]
  rfl

theorem bodyPages_cons_of_neg (ha : ¬ a.kind.isNumbered = true) :
    bodyPages n (a :: as) = bodyPages n as := by
  rw [bodyPages, List.filter_cons, if_neg ha]
  rfl

theorem map_snd_bodyPages (n : Nat) (as : List Action) :
    (bodyPages n as).map (·.2) = List.range' n (as.countP (·.kind.isNumbered)) := by
  rw [bodyPages, List.countP_eq_length_filter]
  exact List.zipIdx_map_snd n _

/-- **The links are those of the body pages that are linked**, under the same numbers. -/
theorem linkTargetsFrom_eq (n : Nat) (as : List Action) :
    linkTargetsFrom n as = ((bodyPages n as).filter (·.1.kind.isLinked)).map (·.2) := by
  induction as generalizing n with
  | nil => rfl
  | cons a as ih =>
    by_cases hnumbered : a.kind.isNumbered = true
    · rw [linkTargetsFrom, if_pos hnumbered, bodyPages_cons_of_pos hnumbered, List.filter_cons]
      by_cases hlinked : a.kind.isLinked = true
      · rw [if_pos hlinked, if_pos hlinked, ih]
        rfl
      · rw [if_neg hlinked, if_neg hlinked, ih]
    · rw [linkTargetsFrom, if_neg hnumbered, bodyPages_cons_of_neg hnumbered, ih]

/-- The numbers in the links grow along the actions. -/
theorem pairwise_lt_linkTargets (as : List Action) : (linkTargets as).Pairwise (· < ·) := by
  have hsublist : (linkTargets as).Sublist (List.range' 1 (as.countP (·.kind.isNumbered))) := by
    rw [linkTargets, linkTargetsFrom_eq, ← map_snd_bodyPages]
    exact List.filter_sublist.map _
  exact List.Pairwise.sublist hsublist List.pairwise_lt_range'

end

/-! ### The placements -/

/-- What a placement says of its action: the number and the file. -/
def Placement.page (p : Placement) : Action × Option Nat × Option String :=
  (p.action, p.number, p.file)

/-- A body page with its number, as it is placed. -/
def placedPage (page : Action × Nat) : Action × Option Nat × Option String :=
  (page.1, some page.2, some (bodyFile page.2))

/-- A body page is placed under the next number. -/
theorem Layout.page_of_place {l l' : Layout} {a : Action} {p : Placement}
    (h : l.place a = .ok (p, l')) (ha : a.kind.isNumbered = true) :
    p.page = placedPage (a, l.nextBody) := by
  unfold Layout.place at h
  cases hkind : a.kind <;> rw [hkind] at h ha <;> simp only at h
  -- five kinds are none of body pages
  case toc | titlePage | colophonImage | prefaceImage | glyphImage => contradiction
  all_goals
    obtain ⟨rfl, -⟩ := by simpa using h
    rfl

/-- **The body pages are placed under their numbers.**  The induction is on the actions; the
number of the next body page is what the placing keeps of those before. -/
theorem map_page_layoutFrom {l : Layout} {as : List Action} {ps : List Placement}
    (h : layoutFrom l as = .ok ps) :
    (ps.filter (·.action.kind.isNumbered)).map Placement.page
      = (bodyPages l.nextBody as).map placedPage := by
  induction as generalizing l ps with
  | nil =>
    obtain rfl := Except.ok.inj h
    rfl
  | cons a as ih =>
    obtain ⟨p, l', rest, hplace, hrest, rfl⟩ := layoutFrom_cons_eq_ok h
    obtain ⟨haction, hnext, -⟩ := Layout.place_eq_ok hplace
    rw [List.filter_cons, haction]
    by_cases ha : a.kind.isNumbered = true
    · rw [if_pos ha] at hnext
      rw [if_pos ha, List.map_cons, ih hrest, hnext, Layout.page_of_place hplace ha,
        bodyPages_cons_of_pos ha, List.map_cons]
    · rw [if_neg ha] at hnext
      rw [if_neg ha, ih hrest, hnext, bodyPages_cons_of_neg ha, Nat.add_zero]

section

variable {actions : List Action} {placements : List Placement}

/-- There is a placement for every action. -/
theorem map_action_layout (h : layout actions = .ok placements) :
    placements.map (·.action) = actions := by
  rw [layout, ← List.append_nil actions] at h
  obtain ⟨l', front, back, rfl, hfront, hback, -⟩ := layoutFrom_append h
  obtain rfl := Except.ok.inj hback
  rw [List.append_nil, hfront]

/-- The linked pages are placed under the numbers in the links. -/
theorem map_page_linked (h : layout actions = .ok placements) :
    (placements.filter (·.action.kind.isLinked)).map Placement.page
      = ((bodyPages 1 actions).filter (·.1.kind.isLinked)).map placedPage := by
  have hbody := map_page_layoutFrom h
  -- every linked page is a body page, so the linked ones can be picked among these
  have hlinked : placements.filter (·.action.kind.isLinked)
      = (placements.filter (·.action.kind.isNumbered)).filter (·.action.kind.isLinked) := by
    rw [List.filter_filter]
    refine List.filter_congr fun p _ => ?_
    cases hp : p.action.kind.isLinked with
    | false => rfl
    | true => rw [isNumbered_of_isLinked hp]; rfl
  have hpick := congrArg (List.filter fun page => page.1.kind.isLinked) hbody
  rw [List.filter_map, List.filter_map] at hpick
  rw [hlinked]
  exact hpick

end

/-! ### Files -/

/-- The file that the link to a page of the body names. -/
def linkedFile (t : Nat) : String := "p-" ++ String.ofList (Text.paddedDigits 3 t) ++ ".xhtml"

/-- A link whose placeholder is filled names that file, whatever stands in its title. -/
theorem fillPlaceholders_entryLink (t number : Nat) (title : String) :
    fillPlaceholders (entryLink (String.ofList placeholder) number title).toList [t]
      = ("<a href=\"" ++ linkedFile t ++ "#" ++ anchor number ++ "\" class=\"" ++ anchor number
        ++ "\">" ++ title ++ "</a>").toList := by
  have hquote : "<a href=\"p-" = "<a href=\"" ++ "p-" := rfl
  have hhash : ".xhtml#" = ".xhtml" ++ "#" := rfl
  -- the placeholder of the page is the first one, since none stands before it
  have hbefore : ¬ placeholder <:+: "<a href=\"p-".toList :=
    Text.not_infix_of_notMem lowLine_mem_placeholder (by decide)
  have hfirst := replaceFirst_placeholder hbefore (Text.paddedDigits 3 t)
    (".xhtml#" ++ anchor number ++ "\" class=\"" ++ anchor number ++ "\">" ++ title
      ++ "</a>").toList
  unfold entryLink linkedFile fillPlaceholders
  rw [hquote, hhash] at hfirst ⊢
  simp only [String.toList_append, String.toList_ofList, List.append_assoc, List.foldl_cons,
    List.foldl_nil] at hfirst ⊢
  exact hfirst

/-- **A link names the file of its page**, however many digits the number has: the page is in
the same directory as the table of contents. -/
theorem baseName_bodyFile (t : Nat) : Files.Path.baseName (bodyFile t) = linkedFile t := by
  have hslash : '/' ∉ (linkedFile t).toList := by
    unfold linkedFile
    simp only [String.toList_append, String.toList_ofList, List.mem_append, not_or]
    refine ⟨⟨by decide, fun h => ?_⟩, by decide⟩
    have hdigit := Text.isDigit_of_mem_paddedDigits h
    contradiction
  have hfile : (bodyFile t).toList = "xhtml".toList ++ '/' :: (linkedFile t).toList := by
    unfold bodyFile linkedFile
    simp only [String.toList_append]
    rfl
  rw [Files.Path.baseName, Files.Path.cutName, hfile, Text.cutLast?_append_cons hslash,
    String.ofList_toList]

/-! ### Agreement -/

/-- The kinds that a table of contents links to, listed. -/
theorem isLinked_eq (kind : ActionKind) :
    kind.isLinked = decide (kind ∈ [.titledBody, .copyright, .afterword]) := by
  cases kind <;> rfl

/-- **The links have the numbers and the files of the linked pages.**  Where the pages can be
placed, the body pages have the numbers from one on without a gap, the numbers in the links are
those of the titled pages, the copyright pages and the afterwords, in order and each greater
than the one before, and the file that a link names is the one its page is put into. -/
theorem linkTargets_agree {actions : List Action} {placements : List Placement}
    (h : layout actions = .ok placements) :
    placements.map (·.action) = actions
      ∧ (placements.filter (·.action.kind ∈ [.titledBody, .copyright, .afterword])).map (·.number)
        = (linkTargets actions).map some
      ∧ (placements.filter (·.action.kind.isNumbered)).map (·.number)
        = (List.range' 1 (placements.countP (·.action.kind.isNumbered))).map some
      ∧ (linkTargets actions).Pairwise (· < ·)
      ∧ (placements.filter (·.action.kind ∈ [.titledBody, .copyright, .afterword])).map
          (·.file.map Files.Path.baseName)
        = (linkTargets actions).map (fun t => some (linkedFile t))
      ∧ ∀ t number title,
        fillPlaceholders (entryLink (String.ofList placeholder) number title).toList [t]
          = ("<a href=\"" ++ linkedFile t ++ "#" ++ anchor number ++ "\" class=\"" ++ anchor number
            ++ "\">" ++ title ++ "</a>").toList := by
  have hactions := map_action_layout h
  have hbody := map_page_layoutFrom h
  have hlinked := map_page_linked h
  have hkinds : (placements.filter (·.action.kind ∈ [.titledBody, .copyright, .afterword]))
      = placements.filter (·.action.kind.isLinked) :=
    List.filter_congr fun p _ => (isLinked_eq p.action.kind).symm
  have hcount : placements.countP (·.action.kind.isNumbered)
      = actions.countP (·.kind.isNumbered) := by
    rw [← hactions, List.countP_map]
    rfl
  rw [hkinds, hcount, linkTargets, linkTargetsFrom_eq]
  refine ⟨hactions, ?_, ?_, ?_, ?_, fillPlaceholders_entryLink⟩
  · have hnumbers := congrArg (List.map fun page => page.2.1) hlinked
    rw [List.map_map, List.map_map] at hnumbers
    rw [List.map_map]
    exact hnumbers
  · have hnumbers := congrArg (List.map fun page => page.2.1) hbody
    rw [List.map_map, List.map_map] at hnumbers
    rw [← map_snd_bodyPages, List.map_map]
    exact hnumbers
  · rw [← linkTargetsFrom_eq]
    exact pairwise_lt_linkTargets actions
  · have hfiles := congrArg (List.map fun page => page.2.2.map Files.Path.baseName) hlinked
    rw [List.map_map, List.map_map] at hfiles
    rw [List.map_map]
    refine hfiles.trans (List.map_congr_left fun page _ => ?_)
    exact congrArg some (baseName_bodyFile page.2)

/-- A page of every kind, and more than one of some. -/
def allKinds : List Action :=
  [{ kind := .toc }, { kind := .titlePage, content := "t.png" },
   { kind := .prefaceImage, content := "p.jpg" }, { kind := .body }, { kind := .titledBody },
   { kind := .glyphImage, content := "g.png" }, { kind := .image, content := "a.jpg" },
   { kind := .bibliography }, { kind := .prefaceImage, content := "q.jpg" },
   { kind := .copyright }, { kind := .colophonText }, { kind := .afterword },
   { kind := .colophonImage, content := "c.png" }]

theorem linkTargets_allKinds :
    ∃ placements, layout allKinds = .ok placements
      ∧ (placements.filter (·.action.kind ∈ [.titledBody, .copyright, .afterword])).map (·.number)
        = [some 2, some 5, some 7] := by
  obtain ⟨placements, hplaced⟩ : ∃ placements, layout allKinds = .ok placements := ⟨_, rfl⟩
  obtain ⟨-, hnumbers, -⟩ := linkTargets_agree hplaced
  exact ⟨placements, hplaced, hnumbers⟩

end Kumihan.Book
