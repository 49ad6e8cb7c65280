import Kumihan.Proofs.Contents.LineEntry
import Kumihan.Proofs.Contents.Resolved

/-!
# What every line lists

The search for entries runs over the whole text, with a pattern that takes as much as it can.  Still
it goes line by line: a line lists an entry if a `#` stands somewhere behind its first marker, and
then one only, however many markers and `#` are on it.  On the page every entry with a number writes
one link.

## Main definitions

* `Marks marker line name`, `Closes marker line` — what the first marker and the last `#` of a line
  enclose, and whether there is a `#` behind the marker.
* `Lists n lines entries` — the entries that lines list, the next numbered one having number `n`.
* `FirstMarks marker lines name` — the name on the first line that has one.
* `TocEntry.links` — the links that an entry writes.

## Main results

* `nameOn?_eq_some_iff_marks`, `nameOn?_eq_none_iff_not_closes` — what is found on one line.
* `lists_numberEntries` — lines list the entries that are numbered from their names.
* `scanEntries_listed` — **the entries of a text are what its lines list, one after the other.**
-/

namespace Kumihan.Book

/-! ### One line -/

/-- The name that a marker marks on a line stands between the first marker and the last `#`. -/
def Marks (marker line name : List Char) : Prop :=
  ∃ before after, line = before ++ (marker ++ (name ++ '#' :: after))
    ∧ ¬ marker <:+: before ∧ '#' ∉ after

/-- A `#` stands somewhere behind the first marker of a line. -/
def Closes (marker line : List Char) : Prop :=
  ∃ before rest, line = before ++ (marker ++ rest) ∧ ¬ marker <:+: before ∧ '#' ∈ rest

section

variable {marker line name : List Char}

theorem nameOn?_eq_some_iff_marks (h : IsMarker marker) :
    nameOn? marker line = some name ↔ Marks marker line name := by
  obtain ⟨m, rfl, hash, -⟩ := h
  exact nameOn?_eq_some_iff hash

/-- **A line lists exactly if a `#` stands behind its first marker**: the last of them ends the
name. -/
theorem closes_iff_exists_marks : Closes marker line ↔ ∃ name, Marks marker line name := by
  constructor
  · rintro ⟨before, rest, rfl, hbefore, hclosed⟩
    rcases Text.notMem_or_exists_last '#' rest with hnone | ⟨name, after, rfl, hafter⟩
    · exact absurd hclosed hnone
    · exact ⟨name, before, after, rfl, hbefore, hafter⟩
  · rintro ⟨name, before, after, rfl, hbefore, -⟩
    exact ⟨before, _, rfl, hbefore, List.mem_append_right name List.mem_cons_self⟩

theorem nameOn?_eq_none_iff_not_closes (h : IsMarker marker) :
    nameOn? marker line = none ↔ ¬ Closes marker line := by
  rw [closes_iff_exists_marks, Option.eq_none_iff_forall_ne_some, not_exists]
  exact forall_congr' fun name => not_congr (nameOn?_eq_some_iff_marks h)

end

/-! ### All lines -/

/-- The entries that lines list, the next numbered one having number `n`: a line without a `#`
behind its first marker lists none, and every other line lists one. -/
inductive Lists : Nat → List (List Char) → List TocEntry → Prop
  | nil (n : Nat) : Lists n [] []
  /-- The line lists nothing. -/
  | silent {n : Nat} {line : List Char} {lines : List (List Char)} {entries : List TocEntry}
      (not_closes : ¬ Closes entryMarker line) (rest : Lists n lines entries) :
      Lists n (line :: lines) entries
  /-- The line lists an empty line, which takes no number and has no title. -/
  | phantom {n : Nat} {line : List Char} {lines : List (List Char)} {entries : List TocEntry}
      (marks : Marks entryMarker line phantomName) (rest : Lists n lines entries) :
      Lists n (line :: lines) ({ number := none, title := "" } :: entries)
  /-- The line lists a chapter, which takes the next number and has the name as its title. -/
  | numbered {n : Nat} {line name : List Char} {lines : List (List Char)}
      {entries : List TocEntry} (marks : Marks entryMarker line name)
      (name_ne : name ≠ phantomName) (rest : Lists (n + 1) lines entries) :
      Lists n (line :: lines) ({ number := some n, title := String.ofList name } :: entries)

/-- The name on the first line that has one. -/
def FirstMarks (marker : List Char) (lines : List (List Char)) (name : List Char) : Prop :=
  ∃ earlier line later, lines = earlier ++ line :: later ∧ Marks marker line name
    ∧ ∀ l ∈ earlier, ¬ Closes marker l

theorem markedNames_eq_filterMap_splitOn {marker : List Char} (h : IsMarker marker)
    (s : List Char) :
    markedNames marker s = (Text.splitOn '\n' s).filterMap (nameOn? marker) := by
  obtain ⟨m, rfl, hash, hfeed, -⟩ := h
  exact markedNames_eq_filterMap hfeed hash s

/-- **Lines list the entries that are numbered from their names.**  The induction is on the lines;
one that lists a chapter leaves the next number to the others. -/
theorem lists_numberEntries (lines : List (List Char)) (n : Nat) :
    Lists n lines (numberEntries (lines.filterMap (nameOn? entryMarker)) n).1 := by
  induction lines generalizing n with
  | nil => exact .nil n
  | cons line lines ih =>
    rw [List.filterMap_cons]
    cases hname : nameOn? entryMarker line with
    | none => exact .silent ((nameOn?_eq_none_iff_not_closes isMarker_entryMarker).mp hname) (ih n)
    | some name =>
      have hmarks := (nameOn?_eq_some_iff_marks isMarker_entryMarker).mp hname
      rw [numberEntries]
      by_cases hphantom : name = phantomName
      · rw [if_pos hphantom]
        exact .phantom (hphantom ▸ hmarks) (ih n)
      · rw [if_neg hphantom]
        exact .numbered hmarks hphantom (ih (n + 1))

/-- **Lines list these entries and no others**: which name is on a line is settled by the line. -/
theorem lists_iff {n : Nat} {lines : List (List Char)} {entries : List TocEntry} :
    Lists n lines entries
      ↔ entries = (numberEntries (lines.filterMap (nameOn? entryMarker)) n).1 := by
  constructor
  · intro h
    induction h with
    | nil n => rfl
    | silent hnot rest ih =>
      rw [List.filterMap_cons, (nameOn?_eq_none_iff_not_closes isMarker_entryMarker).mpr hnot]
      exact ih
    | phantom hmarks rest ih =>
      rw [List.filterMap_cons, (nameOn?_eq_some_iff_marks isMarker_entryMarker).mpr hmarks,
        numberEntries, if_pos rfl, ih]
    | numbered hmarks hname rest ih =>
      rw [List.filterMap_cons, (nameOn?_eq_some_iff_marks isMarker_entryMarker).mpr hmarks,
        numberEntries, if_neg hname, ih]
  · rintro rfl
    exact lists_numberEntries lines n

section

variable {marker : List Char} (h : IsMarker marker) (s : List Char)

include h

theorem head?_markedNames_eq_some_iff {name : List Char} :
    (markedNames marker s).head? = some name
      ↔ FirstMarks marker (Text.splitOn '\n' s) name := by
  rw [markedNames_eq_filterMap_splitOn h, List.head?_filterMap, List.findSome?_eq_some_iff]
  simp only [nameOn?_eq_some_iff_marks h, nameOn?_eq_none_iff_not_closes h]
  rfl

theorem head?_markedNames_eq_none_iff :
    (markedNames marker s).head? = none
      ↔ ∀ line ∈ Text.splitOn '\n' s, ¬ Closes marker line := by
  rw [markedNames_eq_filterMap_splitOn h, List.head?_filterMap, List.findSome?_eq_none_iff]
  simp only [nameOn?_eq_none_iff_not_closes h]

end

/-! ### Links -/

/-- The links that an entry writes: one to the anchor of its number, if it has one. -/
def TocEntry.links (page : String) (e : TocEntry) : List String :=
  (e.number.map fun number => entryLink page number e.title).toList

/-- What opens a link. -/
def linkOpening : List Char := ['<', 'a', ' ']

/-- No link is opened in the markup. -/
def OpensNoLink (s : String) : Prop := ¬ linkOpening <:+: s.toList

theorem opensNoLink_ofList {l : List Char} (h : ¬ linkOpening <:+: l) :
    OpensNoLink (String.ofList l) := by
  rwa [OpensNoLink, String.toList_ofList]

/-- **The markup of an entry is its link, if it has one**, between markup that opens none. -/
theorem render_eq_links (page : String) (e : TocEntry) :
    ∃ before after, e.render page = before ++ String.join (e.links page) ++ after
      ∧ OpensNoLink before ∧ OpensNoLink after := by
  obtain ⟨number, title, afterword⟩ := e
  cases number with
  | none =>
    refine ⟨blankParagraph, "", ?_, opensNoLink_ofList (by decide), opensNoLink_ofList (by decide)⟩
    simp [TocEntry.render, TocEntry.links]
  | some number =>
    cases afterword with
    | false =>
      refine ⟨"<p>", "</p>\n", ?_, opensNoLink_ofList (by decide), opensNoLink_ofList (by decide)⟩
      simp [TocEntry.render, TocEntry.links]
    | true =>
      have hbefore : blankParagraph ++ "<div class=\"h-indent-1em\">\n" ++ "<p>　"
          = "<p><br/></p>\n<div class=\"h-indent-1em\">\n<p>　" := by cbv
      have hafter : "</p>\n" ++ "</div>\n" = "</p>\n</div>\n" := by cbv
      refine ⟨"<p><br/></p>\n<div class=\"h-indent-1em\">\n<p>　", "</p>\n</div>\n", ?_,
        opensNoLink_ofList (by decide), opensNoLink_ofList (by decide)⟩
      rw [← hbefore, ← hafter]
      simp [TocEntry.render, TocEntry.links, String.append_assoc]

theorem length_flatMap_links (page : String) (entries : List TocEntry) :
    (entries.flatMap (TocEntry.links page)).length = (linkedAnchors entries).length := by
  induction entries with
  | nil => rfl
  | cons e entries ih =>
    rw [List.flatMap_cons, List.length_append, ih, linkedAnchors, linkedAnchors,
      List.filterMap_cons]
    cases hnumber : e.number <;> simp [TocEntry.links, hnumber, Nat.add_comm]

/-! ### Texts -/

/-- The entries of a text, read off its lines: those of the chapters, and that of the afterword. -/
structure Listing (s : List Char) (chapters : List TocEntry) (last : Option TocEntry) : Prop where
  /-- The lines list the chapters and the empty lines, in their order, and nothing else. -/
  lists : ∀ entries, Lists 1 (Text.splitOn '\n' s) entries ↔ entries = chapters
  /-- The chapters are numbered from one on. -/
  numbers : linkedAnchors chapters = List.range' 1 (linkedAnchors chapters).length
  /-- The afterword has the next number, and the name on the first line that has one. -/
  last_eq_some_iff : ∀ e, last = some e ↔ ∃ name,
    FirstMarks afterwordMarker (Text.splitOn '\n' s) name
      ∧ e = { number := some ((linkedAnchors chapters).length + 1), title := String.ofList name
              afterword := true }
  /-- There is an afterword exactly if some line has a `#` behind its first marker. -/
  last_isSome_iff : last.isSome = true
    ↔ ∃ line ∈ Text.splitOn '\n' s, Closes afterwordMarker line

/-- A page with placeholders is written from some entries: each of them with a number writes one
link, and nothing else of an entry opens one.  So there is one placeholder for each of them, and
what stands in the plan and in the titles comes on top. -/
structure WritesLinks (plan : BookPlan) (entries : List TocEntry) (skeleton : Skeleton) : Prop where
  entries_eq : skeleton.entries = entries
  markup_eq : skeleton.markup
    = tocPage plan (String.join (entries.map (TocEntry.render (String.ofList placeholder))))
  render_eq : ∀ page, ∀ e ∈ entries, ∃ before after,
    e.render page = before ++ String.join (e.links page) ++ after
      ∧ OpensNoLink before ∧ OpensNoLink after
  length_links : ∀ page,
    (entries.flatMap (TocEntry.links page)).length = (linkedAnchors entries).length
  placeholderCount : skeleton.placeholderCount
    = planPlaceholders plan + (linkedAnchors entries).length + titlePlaceholders entries

/-- **The entries of a text are what its lines list, one after the other**, and then the afterword;
the page with placeholders has one link for each of them with a number. -/
theorem scanEntries_listed (plan : BookPlan) (s : List Char) :
    ∃ chapters last, scanEntries s = chapters ++ last.toList ∧ Listing s chapters last
      ∧ WritesLinks plan (scanEntries s) (buildSkeleton plan s) := by
  have hnames := markedNames_eq_filterMap_splitOn isMarker_entryMarker s
  have hanchors := linkedAnchors_numberEntries (markedNames entryMarker s) 1
  have hlength : (linkedAnchors (numberEntries (markedNames entryMarker s) 1).1).length
      = numberedNames (markedNames entryMarker s) := by
    rw [hanchors, List.length_range']
  refine ⟨_, _, scanEntries_eq s, ⟨fun entries => ?_, ?_, fun e => ?_, ?_⟩, ?_⟩
  · rw [hnames]
    exact lists_iff
  · rw [hlength, hanchors]
  · rw [hlength, Option.map_eq_some_iff]
    simp only [head?_markedNames_eq_some_iff isMarker_afterwordMarker, eq_comm (a := e)]
  · rw [Option.isSome_map, Option.isSome_iff_ne_none, Ne,
      head?_markedNames_eq_none_iff isMarker_afterwordMarker]
    simp only [not_forall, not_not, exists_prop]
  · exact ⟨rfl, rfl, fun page e _ => render_eq_links page e,
      fun page => length_flatMap_links page _, placeholderCount_eq plan s⟩

/-- A line lists one entry, however many markers and `#` are on it; the name runs to the last `#`.
-/
example : scanEntries
    "#toc-chapter,A#toc-chapter,B#x\n#atogaki,#atogaki,C##\n#toc-chapter,phantom#".toList
    = [{ number := some 1, title := "A#toc-chapter,B" }, { number := none, title := "" },
       { number := some 2, title := "#atogaki,C#", afterword := true }] := by
  rw [scanEntries_eq_lines]
  decide +kernel

end Kumihan.Book
