import Kumihan.Proofs.Compositor.Regular
import Kumihan.Proofs.Contents.LineEntry
import Kumihan.Proofs.Contents.Linking
import Kumihan.Proofs.Markup.Bracketed

/-!
# Books with a correct table of contents

Where the directives are in regular order and the lines that declare entries are plain, the
three counts that a table of contents depends on agree: the entries of the text, the headings
of the compositor and the numbers of the linked pages.

## Main definitions

* `declaresEntry line` — the line declares an entry, as the text is searched or as it is read.
* `RegularText s` — a text that a correct table of contents can be written for.

## Main results

* `declaresAlike_of_plainEntry` — a plain line is searched for what it is read as.
* `RegularText.length_linkedAnchors` — there is an entry with a link for each linked sheet.
* `compileText_of_regularText` — **a regular text compiles, and every link leads to its
  heading.**
-/

namespace Kumihan.Book

open Kumihan.Markup

/-- The line declares an entry or opens the afterword: it holds a marker, or it is read so. -/
def declaresEntry (line : List Char) : Bool :=
  Text.hasInfix entryMarker line || Text.hasInfix afterwordMarker line
    || match Directive.ofLine line with
      | .ok d => d.command = .tocChapter || d.command = .afterword
      | .error _ => false

/-- The line is a marker, a title without a `#`, and a `#`. -/
def IsMarked (marker line : List Char) : Prop :=
  ∃ title, '#' ∉ title ∧ line = marker ++ title ++ ['#']

/-- A line that declares an entry or opens the afterword does nothing else. -/
def PlainEntry (line : List Char) : Prop :=
  declaresEntry line = true → IsMarked entryMarker line ∨ IsMarked afterwordMarker line

theorem isMarked_iff (marker line : List Char) :
    IsMarked marker line ↔ '#' ∉ (line.drop marker.length).dropLast
      ∧ line = marker ++ (line.drop marker.length).dropLast ++ ['#'] := by
  constructor
  · rintro ⟨title, htitle, rfl⟩
    rw [List.append_assoc, List.drop_left, List.dropLast_concat]
    exact ⟨htitle, (List.append_assoc ..).symm⟩
  · rintro ⟨htitle, hline⟩
    exact ⟨_, htitle, hline⟩

instance (marker line : List Char) : Decidable (IsMarked marker line) :=
  decidable_of_iff _ (isMarked_iff marker line).symm

instance (line : List Char) : Decidable (PlainEntry line) :=
  inferInstanceAs (Decidable (declaresEntry line = true → _))

/-- A text in full-width punctuation that a correct table of contents can be written for. -/
structure RegularText (s : List Char) : Prop where
  /-- Every line can be read. -/
  lexes : (Directive.ofText s).2 = none
  /-- There is a table of contents. -/
  asksForToc : ∃ d ∈ (Directive.ofText s).1, d.command = .toc
  /-- The directives are in regular order. -/
  order : Regular (Directive.ofText s).1
  /-- The lines that declare entries are plain. -/
  plain : ∀ line ∈ Text.lines s, PlainEntry line
  /-- There are as many entries that are not left empty as chapters. -/
  entries : (Directive.ofText s).1.countP
      (fun d => d.command = .tocChapter ∧ d.argument ≠ String.ofList phantomName)
    = (Directive.ofText s).1.countP (·.command = .chapter)

/-! ### Plain lines -/

/-- Nothing on a line that is nothing but a bracketed name and its argument is in the way of
that name or of another one. -/
theorem readAlike_bracketedLine {name title : List Char} {c : Command} (h : Names name c)
    (htitle : '#' ∉ title) (hfeed : '\n' ∉ bracketedLine name title)
    (hglyph : name ≠ ['g', 'a', 'i', 'j', 'i']) {other : List Char} (hother : ',' ∉ other) :
    ReadAlike other (bracketedLine name title) := by
  constructor
  · rintro ⟨before, body⟩ hcut -
    have hmarker : '#' :: (other ++ [',']) <:+: bracketedLine name title :=
      ⟨before, body, (Text.cut?_eq_append hcut).symm⟩
    obtain rfl := eq_of_infix_bracketedLine h.noHash h.noComma htitle hother hmarker
    -- the line begins with its one marker
    have hfirst : Text.cut? ('#' :: (other ++ [','])) (bracketedLine other title)
        = some ([], title ++ ['#']) :=
      (Text.cut?_eq_some_iff h.hash_notMem).mpr ⟨by simp [bracketedLine], by simp⟩
    rw [hcut, Option.some.injEq, Prod.mk.injEq] at hfirst
    rw [hfirst.1]
    exact ⟨List.not_mem_nil, not_hidesBrackets_bracketedLine h.noHash h.noComma htitle hglyph⟩
  · intro hinner
    rw [bracketed?_bracketedLine hfeed, Option.some.injEq] at hinner
    exact absurd (by simp [← hinner]) hother

theorem declaresAlike_bracketedLine {name title : List Char} {c : Command} (h : Names name c)
    (htitle : '#' ∉ title) (hfeed : '\n' ∉ bracketedLine name title)
    (hglyph : name ≠ ['g', 'a', 'i', 'j', 'i']) : DeclaresAlike (bracketedLine name title) :=
  ⟨readAlike_bracketedLine h htitle hfeed hglyph names_entryName.noComma,
    readAlike_bracketedLine h htitle hfeed hglyph names_afterwordName.noComma⟩

/-- **Nothing on a plain line is in the way** of an entry or of the afterword. -/
theorem declaresAlike_of_plainEntry {line : List Char} (hfeed : '\n' ∉ line)
    (hplain : PlainEntry line) : DeclaresAlike line := by
  by_cases hdeclares : declaresEntry line = true
  · rcases hplain hdeclares with ⟨title, htitle, hline⟩ | ⟨title, htitle, hline⟩
    · have hline : line = bracketedLine entryName title := by
        rw [hline, entryMarker_eq]
        simp [bracketedLine]
      rw [hline] at hfeed ⊢
      exact declaresAlike_bracketedLine names_entryName htitle hfeed (by decide)
    · have hline : line = bracketedLine afterwordName title := by
        rw [hline, afterwordMarker_eq]
        simp [bracketedLine]
      rw [hline] at hfeed ⊢
      exact declaresAlike_bracketedLine names_afterwordName htitle hfeed (by decide)
  · -- no marker is on the line, and it is read as something else
    unfold declaresEntry at hdeclares
    rw [Bool.not_eq_true, Bool.or_eq_false_iff, Bool.or_eq_false_iff] at hdeclares
    obtain ⟨⟨hnoentry, hnoafterword⟩, hread⟩ := hdeclares
    have hcommand : ∀ d, Directive.ofLine line = .ok d →
        d.command ≠ .tocChapter ∧ d.command ≠ .afterword := by
      intro d hd
      rw [hd] at hread
      simpa using hread
    have hmarker {marker : List Char} (h : Text.hasInfix marker line = false) :
        ¬ marker <:+: line := by
      rw [← Text.hasInfix_iff, h]
      exact Bool.false_ne_true
    rw [entryMarker_eq] at hnoentry
    rw [afterwordMarker_eq] at hnoafterword
    exact ⟨readAlike_of_command_ne names_entryName (hmarker hnoentry)
        fun d hd => (hcommand d hd).1,
      readAlike_of_command_ne names_afterwordName (hmarker hnoafterword)
        fun d hd => (hcommand d hd).2⟩

/-! ### Counting -/

section

variable {s : List Char}

theorem numberedNames_arguments (ds : List Directive) :
    numberedNames (ds.filterMap (argumentFor? .tocChapter))
      = ds.countP fun d => d.command = .tocChapter ∧ d.argument ≠ String.ofList phantomName := by
  rw [numberedNames, List.countP_filterMap]
  refine List.countP_congr fun d _ => ?_
  have hphantom : d.argument = String.ofList phantomName ↔ d.argument.toList = phantomName := by
    rw [← String.toList_inj, String.toList_ofList]
  by_cases hd : d.command = .tocChapter
  · simp [argumentFor?, hd, hphantom]
  · simp [argumentFor?, hd]

/-- In regular order there is one afterword at most. -/
theorem countP_afterword {ds : List Directive} (h : Regular ds) :
    ds.countP (·.command = .afterword)
      = if ds.filterMap (argumentFor? .afterword) = [] then 0 else 1 := by
  by_cases hpos : 0 < ds.countP (·.command = .afterword)
  · -- behind the first afterword there is no other one
    obtain ⟨pre, d, post, rfl, hd, hpre⟩ := exists_split_of_lt_countP hpos
    have hd : d.command = .afterword := by simpa using hd
    have hpost : post.countP (·.command = .afterword) = 0 := by
      rw [List.countP_eq_zero]
      intro e he
      simpa using ((h.afterword pre d post rfl hd).2 e he).2
    rw [if_neg (by simp [argumentFor?, hd]), List.countP_append, List.countP_cons, hpre, hpost]
    simp [hd]
  · have hnone := Nat.eq_zero_of_not_pos hpos
    rw [hnone, if_pos]
    rw [List.filterMap_eq_nil_iff]
    intro d hd
    rw [List.countP_eq_zero] at hnone
    have hd := hnone d hd
    simp only [decide_eq_true_eq] at hd
    rw [argumentFor?, if_neg hd]

theorem countP_opensHeading (ds : List Directive) :
    ds.countP (·.command.opensHeading)
      = ds.countP (·.command = .chapter) + ds.countP (·.command = .afterword) := by
  induction ds with
  | nil => rfl
  | cons d ds ih =>
    rw [List.countP_cons, List.countP_cons, List.countP_cons, ih]
    cases d.command <;> simp [Command.opensHeading] <;> omega

/-- **There is an entry with a link for each linked sheet.** -/
theorem RegularText.length_linkedAnchors (h : RegularText s) :
    (linkedAnchors (scanEntries s)).length
      = (Manuscript.ofDirectives (Directive.ofText s).1).sheets.countP (·.isLinked) := by
  obtain ⟨hchapters, hafterword⟩ := markedNames_of_declaresAlike h.lexes fun line hline =>
    declaresAlike_of_plainEntry (Text.notMem_of_mem_lines hline) (h.plain line hline)
  rw [linkedAnchors_scanEntries, List.length_range', hchapters, hafterword,
    numberedNames_arguments, h.entries, ← countP_afterword h.order, ← countP_opensHeading,
    h.order.countP_isLinked]

end

/-! ### Regular texts -/

/-- **A regular text compiles, and every link of its table of contents leads to its heading.**
The links are numbered from one on, and the page that a link names begins with the heading of
the same number. -/
theorem compileText_of_regularText {plan : BookPlan} {raw : String}
    (hplan : PlanAvoids placeholder plan)
    (htitles : ∀ e ∈ scanEntries (normalize raw.toList), ¬ placeholder <:+: e.title.toList)
    (hregular : RegularText (normalize raw.toList)) :
    ∃ book page, compileText plan raw = .ok book ∧ book.tocMarkup = some page
      ∧ page = tocPage plan
          (String.join (renderLinked book.skeleton.entries (linkTargets book.actions)))
      ∧ (linkedAnchors book.skeleton.entries).length = (linkTargets book.actions).length
      ∧ ∀ k < (linkTargets book.actions).length,
          (linkedAnchors book.skeleton.entries)[k]? = some (k + 1)
          ∧ ∃ pre a post heading, book.actions = pre ++ a :: post ∧ a.kind.isNumbered = true
            ∧ (linkTargets book.actions)[k]? = some (pageNumber pre)
            ∧ Fragment.headingNumber? heading = some ((k + 1 : Nat) : Int)
            ∧ heading.render.toList <+: a.content.toList := by
  obtain ⟨book, page, hbook, hpage⟩ := exists_compileText hplan htitles hregular.lexes
    hregular.asksForToc hregular.length_linkedAnchors
  obtain ⟨hactions, hentries, hlength, hmarkup⟩ := compileText_eq_ok hplan htitles hbook hpage
  refine ⟨book, page, hbook, hpage, hmarkup, hlength, fun k hk => ?_⟩
  obtain ⟨target, htarget⟩ : ∃ target, (linkTargets book.actions)[k]? = some target :=
    ⟨_, List.getElem?_eq_getElem hk⟩
  obtain ⟨number, hnumber⟩ : ∃ number, (linkedAnchors book.skeleton.entries)[k]? = some number :=
    ⟨_, List.getElem?_eq_getElem (by omega)⟩
  constructor
  · have heq : number = k + 1 := eq_of_getElem?_linkedAnchors (hentries ▸ hnumber)
    rw [hnumber, heq]
  · rw [hactions] at htarget
    obtain ⟨pre, sheet, post, hsplit, hlinked, hcount, hpageNumber⟩ :=
      exists_linked_of_getElem? htarget
    -- the linked sheets are those with a heading, so both counts before the sheet are `k`
    have hsame : ∀ s ∈ textSheets raw, s.isLinked = s.opensHeading := fun s hs =>
      hregular.order.isLinked_eq_opensHeading hs
    have hopens : sheet.opensHeading = true := by
      rw [← hsame sheet (by simp [hsplit]), hlinked]
    have hpre : pre.countP (·.opensHeading) = k := by
      rw [← hcount]
      exact List.countP_congr fun s hs => by rw [hsame s (by simp [hsplit, hs])]
    obtain ⟨heading, hheading, hcontent⟩ := exists_heading hsplit hopens
    rw [hpre] at hheading
    refine ⟨pre.map (·.action), sheet.action, post.map (·.action), heading, ?_,
      isNumbered_of_isLinked hlinked, ?_, hheading, hcontent⟩
    · rw [hactions, hsplit, List.map_append, List.map_cons]
    · rw [hactions, htarget, hpageNumber]

/-! ### A regular book -/

/-- A book with two chapters, a picture and an afterword. -/
def catBook : List Char :=
  unlines
    ["#title-page,title.png#", "#preface-img,preface1.jpg#", "#preface-img,preface2.jpg#", "#toc#",
     "#toc-chapter,第一章#", "#toc-chapter,phantom#", "#toc-chapter,第二章#", "#chapter,第一章#",
     "吾輩は猫である。", "「名前はまだない」", "----------", "#chapter,第二章#",
     "どこで生れたか#gaiji,g1.png#とんと見当がつかぬ。", "#img,scene.jpg#", "#atogaki,あとがき#",
     "ありがとう。", "#fill,著者#", "#end-atogaki#", "#colophon,colophon.png#"]

/-- The directives of the book. -/
def catDirectives : List Directive :=
  [{ command := .titlePage, argument := "title.png", line := 1 },
   { command := .prefaceImage, argument := "preface1.jpg", line := 2 },
   { command := .prefaceImage, argument := "preface2.jpg", line := 3 },
   { command := .toc, line := 4 },
   { command := .tocChapter, argument := "第一章", line := 5 },
   { command := .tocChapter, argument := "phantom", line := 6 },
   { command := .tocChapter, argument := "第二章", line := 7 },
   { command := .chapter, argument := "第一章", line := 8 },
   { command := .text, argument := "吾輩は猫である。", line := 9 },
   { command := .text, argument := "「名前はまだない」", line := 10 },
   { command := .pageBreak, line := 11 },
   { command := .chapter, argument := "第二章", line := 12 },
   { command := .glyph, glyphs := ["g1.png"], line := 13
     argument := "どこで生れたか" ++ glyphTag "g1.png" ++ "とんと見当がつかぬ。" },
   { command := .image, argument := "scene.jpg", line := 14 },
   { command := .afterword, argument := "あとがき", line := 15 },
   { command := .text, argument := "ありがとう。", line := 16 },
   { command := .fill, argument := "著者", line := 17 },
   { command := .endAfterword, line := 18 },
   { command := .colophon, argument := "colophon.png", line := 19 }]

theorem readsAs_catBook : ReadsAs catBook catDirectives := by
  unfold catBook
  repeat rw [unlines_cons]
  rw [unlines_nil]
  constructor <;> decide +kernel

theorem plainEntry_catBook : ∀ line ∈ Text.lines catBook, PlainEntry line := by
  unfold catBook
  repeat rw [unlines_cons]
  rw [unlines_nil]
  decide +kernel

theorem regularText_catBook : RegularText catBook := by
  constructor
  case plain => exact plainEntry_catBook
  all_goals rw [readsAs_catBook.read]
  case order => constructor <;> decide +kernel
  case asksForToc => decide +kernel
  case entries => decide +kernel

theorem compileText_catBook :
    ∃ book page, compileText slimPlan (String.ofList catBook) = .ok book
      ∧ book.tocMarkup = some page ∧ linkTargets book.actions = [1, 2, 4] := by
  have hread := readsAs_catBook
  have hregular : RegularText (normalize (String.ofList catBook).toList) := by
    rw [hread.normalize_eq]
    exact regularText_catBook
  obtain ⟨book, page, hbook, hpage, -, -, -⟩ :=
    compileText_of_regularText planAvoids_slimPlan (titles_avoid hread.avoids) hregular
  refine ⟨book, page, hbook, hpage, ?_⟩
  rw [hread.actions_eq hbook hpage]
  decide +kernel

end Kumihan.Book
