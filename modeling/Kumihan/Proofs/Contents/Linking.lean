import Kumihan.Book.Compiled
import Kumihan.Proofs.Compositor.Heading
import Kumihan.Proofs.Contents.Resolved
import Kumihan.Proofs.Counting
import Kumihan.Proofs.Markup.Typography
import Kumihan.Proofs.Placement.Numbering

/-!
# Where the links of a table of contents lead

A link names a page and a heading on it.  The page is that of a linked unit and the heading
is numbered by its entry; both are counted from one, so the links are paired with the units
by position.  Nothing checks that the heading is on the page.

## Main definitions

* `textSheets raw` — the sheets that a manuscript is composed into.
* `LinkLeads` — a link leads to its heading.
* `LinksMatch` — up to the last linked unit, the linked ones begin with a heading and no
  others do.

## Main results

* `compileText_of_lexed` — what a manuscript compiles to.
* `linkLeads_iff` — when one link leads to its heading.
* `links_lead_iff` — **when all of them do.**
-/

namespace Kumihan.Book

open Kumihan.Markup

/-- The sheets that a manuscript is composed into. -/
def textSheets (raw : String) : List Sheet :=
  (Manuscript.ofDirectives (Directive.ofText (normalize raw.toList)).1).sheets

/-- A link leads to its heading: the page that has the file which the link names is set from
fragments among which is the heading that the link names. -/
def LinkLeads (sheets : List Sheet) (placements : List Placement) (number page : Nat) : Prop :=
  ∃ (i : Nat) (placement : Placement) (sheet : Sheet),
    placements[i]? = some placement ∧ sheets[i]? = some sheet
      ∧ placement.file = some (bodyFile page)
      ∧ placement.action.content = render sheet.fragments
      ∧ ∃ heading ∈ sheet.fragments, heading.headingNumber? = some (number : Int)

/-- Up to the last linked sheet, the linked sheets are those that begin with a heading. -/
def LinksMatch (sheets : List Sheet) : Prop :=
  ∀ pre sheet post, sheets = pre ++ sheet :: post → (∃ s ∈ sheet :: post, s.isLinked = true) →
    sheet.isLinked = sheet.opensHeading

/-! ### Compilation -/

theorem untouched_placeholder : Untouched placeholder punctuationRules := by
  rw [placeholder_eq]
  unfold Untouched
  decide

/-- A placeholder is not made by the rewriting of punctuation, so a text without one has no
entry with one. -/
theorem titles_avoid {raw : String} (h : ¬ placeholder <:+: raw.toList) :
    ∀ e ∈ scanEntries (normalize raw.toList), ¬ placeholder <:+: e.title.toList := by
  intro e he htitle
  have hnormal : ¬ placeholder <:+: normalize raw.toList :=
    not_infix_normalize placeholder_ne_nil untouched_placeholder h
  exact hnormal (htitle.trans (infix_of_mem_scanEntries he))

/-- Every line of a manuscript that compiles can be read. -/
theorem exists_directives_of_compileText {plan : BookPlan} {raw : String} {book : CompiledBook}
    (hbook : compileText plan raw = .ok book) :
    ∃ ds, Directive.ofText (normalize raw.toList) = (ds, none) := by
  rcases hread : Directive.ofText (normalize raw.toList) with ⟨ds, _ | fault⟩
  · exact ⟨ds, rfl⟩
  · simp [compileText, compose, hread] at hbook

/-- A compiled book holds the actions of its directives. -/
theorem actions_of_compileText {plan : BookPlan} {raw : String} {ds : List Directive}
    (hread : Directive.ofText (normalize raw.toList) = (ds, none)) {book : CompiledBook}
    (hbook : compileText plan raw = .ok book) : book.actions = (composeDirectives ds).actions := by
  unfold compileText compose at hbook
  simp only [hread] at hbook
  split at hbook
  · split at hbook
    · contradiction
    · obtain rfl := Except.ok.inj hbook
      rfl
  · obtain rfl := Except.ok.inj hbook
    rfl

/-- **What a manuscript compiles to**, if every line of it can be read and no placeholder
stands in an entry: the table of contents is asked for or not, and fits the pages or not. -/
theorem compileText_of_lexed {plan : BookPlan} {raw : String} {ds : List Directive}
    (hplan : PlanAvoids placeholder plan)
    (htitles : ∀ e ∈ scanEntries (normalize raw.toList), ¬ placeholder <:+: e.title.toList)
    (hlexed : Directive.ofText (normalize raw.toList) = (ds, none)) :
    compileText plan raw =
      let c := composeDirectives ds
      let skeleton := buildSkeleton plan (normalize raw.toList)
      let links := linkedAnchors skeleton.entries
      let targets := linkTargets c.actions
      if asksForToc c.actions then
        if links.length = targets.length then
          .ok { actions := c.actions, titles := c.titles, skeleton, leftover := c.leftover
                tocMarkup := some
                  (tocPage plan (String.join (renderLinked skeleton.entries targets))) }
        else .error (.tocMismatch ⟨links.length, targets.length⟩)
      else
        .ok { actions := c.actions, titles := c.titles, skeleton, leftover := c.leftover
              tocMarkup := none } := by
  have hentries : (buildSkeleton plan (normalize raw.toList)).entries
      = scanEntries (normalize raw.toList) := rfl
  unfold compileText compose
  simp only [hlexed, hentries, resolve_buildSkeleton hplan htitles]
  by_cases htoc : asksForToc (composeDirectives ds).actions = true
  · rw [if_pos htoc, if_pos htoc]
    by_cases hlength : (linkedAnchors (scanEntries (normalize raw.toList))).length
        = (linkTargets (composeDirectives ds).actions).length
    · rw [if_pos hlength, if_pos hlength]
    · rw [if_neg hlength, if_neg hlength]
  · rw [if_neg htoc, if_neg htoc]

/-- The actions of a manuscript are those of its sheets. -/
theorem actions_textSheets {raw : String} {ds : List Directive} {fault : Option UnknownDirective}
    (hlexed : Directive.ofText (normalize raw.toList) = (ds, fault)) :
    (composeDirectives ds).actions = (textSheets raw).map (·.action) := by
  rw [textSheets, hlexed]
  exact actions_feedAll ds

/-- What has gone into a page with a table of contents. -/
theorem compileText_eq_ok {plan : BookPlan} {raw page : String} {book : CompiledBook}
    (hplan : PlanAvoids placeholder plan)
    (htitles : ∀ e ∈ scanEntries (normalize raw.toList), ¬ placeholder <:+: e.title.toList)
    (hbook : compileText plan raw = .ok book) (hpage : book.tocMarkup = some page) :
    book.actions = (textSheets raw).map (·.action)
      ∧ book.skeleton.entries = scanEntries (normalize raw.toList)
      ∧ (linkedAnchors book.skeleton.entries).length = (linkTargets book.actions).length
      ∧ page = tocPage plan
          (String.join (renderLinked book.skeleton.entries (linkTargets book.actions))) := by
  obtain ⟨ds, hlexed⟩ := exists_directives_of_compileText hbook
  have hactions := actions_textSheets hlexed
  rw [compileText_of_lexed hplan htitles hlexed] at hbook
  simp only at hbook
  split at hbook
  · split at hbook
    · next hlength =>
      obtain rfl := Except.ok.inj hbook
      exact ⟨hactions, rfl, hlength, (Option.some.inj hpage).symm⟩
    · contradiction
  · obtain rfl := Except.ok.inj hbook
    contradiction

/-- **A manuscript compiles** if it asks for a table of contents that has a link for every
linked sheet. -/
theorem exists_compileText {plan : BookPlan} {raw : String}
    (hplan : PlanAvoids placeholder plan)
    (htitles : ∀ e ∈ scanEntries (normalize raw.toList), ¬ placeholder <:+: e.title.toList)
    (hlexes : (Directive.ofText (normalize raw.toList)).2 = none)
    (htoc : ∃ d ∈ (Directive.ofText (normalize raw.toList)).1, d.command = .toc)
    (hlinks : (linkedAnchors (scanEntries (normalize raw.toList))).length
      = (textSheets raw).countP (·.isLinked)) :
    ∃ book page, compileText plan raw = .ok book ∧ book.tocMarkup = some page := by
  cases hlexed : Directive.ofText (normalize raw.toList) with
  | mk ds fault =>
    rw [hlexed] at hlexes htoc
    obtain rfl : fault = none := hlexes
    obtain ⟨d, hd, htoc⟩ := htoc
    have hactions := actions_textSheets hlexed
    have hasks : asksForToc (composeDirectives ds).actions = true := by
      have hmem : ({ action := { kind := .toc, content := d.argument } } : Sheet)
          ∈ textSheets raw := by
        rw [textSheets, hlexed]
        exact Manuscript.mem_sheets_of_mem_markSheets hd (by simp [markSheets, marks, htoc])
      rw [hactions, asksForToc, List.any_eq_true]
      exact ⟨_, List.mem_map_of_mem hmem, rfl⟩
    have hlength : (linkedAnchors (scanEntries (normalize raw.toList))).length
        = (linkTargets (composeDirectives ds).actions).length := by
      rw [hlinks, hactions, length_linkTargets, List.countP_map]
      rfl
    rw [compileText_of_lexed hplan htitles hlexed]
    simp only [hasks, if_true]
    exact ⟨_, _, if_pos hlength, rfl⟩

/-! ### One link -/

/-- The entry with a link is numbered by the links before it. -/
theorem eq_of_getElem?_linkedAnchors {s : List Char} {k number : Nat}
    (h : (linkedAnchors (scanEntries s))[k]? = some number) : number = k + 1 := by
  rw [linkedAnchors_scanEntries] at h
  have hget := (List.getElem?_eq_some_iff.mp h).2
  rw [List.getElem_range'] at hget
  omega

theorem pageNumber_map (sheets : List Sheet) :
    pageNumber (sheets.map (·.action)) = sheets.countP (·.action.kind.isNumbered) + 1 := by
  rw [pageNumber, List.countP_map]
  rfl

/-- The link of a sheet is the one with as many before it as linked sheets. -/
theorem getElem?_linkTargets_map {sheet : Sheet} (h : sheet.isLinked = true)
    (pre post : List Sheet) :
    (linkTargets ((pre ++ sheet :: post).map (·.action)))[pre.countP (·.isLinked)]?
      = some (pageNumber (pre.map (·.action))) := by
  have hcount : (pre.map (·.action)).countP (·.kind.isLinked) = pre.countP (·.isLinked) := by
    rw [List.countP_map]
    rfl
  rw [List.map_append, List.map_cons, ← hcount]
  exact getElem?_linkTargets h _

/-- The page number of a link is that of the linked sheet with as many before it. -/
theorem exists_linked_of_getElem? {sheets : List Sheet} {k target : Nat}
    (h : (linkTargets (sheets.map (·.action)))[k]? = some target) :
    ∃ pre sheet post, sheets = pre ++ sheet :: post ∧ sheet.isLinked = true
      ∧ pre.countP (·.isLinked) = k ∧ target = pageNumber (pre.map (·.action)) := by
  have hlt : k < sheets.countP (·.isLinked) := by
    have hlength := (List.getElem?_eq_some_iff.mp h).1
    rwa [length_linkTargets, List.countP_map] at hlength
  obtain ⟨pre, sheet, post, rfl, hlinked, hk⟩ := exists_split_of_lt_countP hlt
  have hget := getElem?_linkTargets_map hlinked pre post
  rw [hk, h] at hget
  exact ⟨pre, sheet, post, rfl, hlinked, hk, Option.some.inj hget⟩

/-- The page of a sheet. -/
theorem exists_placement {sheets : List Sheet} {placements : List Placement}
    (hplaced : layout (sheets.map (·.action)) = .ok placements) {i : Nat} {sheet : Sheet}
    (h : sheets[i]? = some sheet) :
    ∃ p, placements[i]? = some p ∧ p.action = sheet.action
      ∧ ∀ n, p.file = some (bodyFile n) ↔ sheet.action.kind.isNumbered = true
        ∧ n = pageNumber ((sheets.take i).map (·.action)) := by
  have hi : (sheets.take i).length = i :=
    List.length_take_of_le (Nat.le_of_lt (List.getElem?_eq_some_iff.mp h).1)
  rw [split_at_getElem? h, List.map_append, List.map_cons] at hplaced
  obtain ⟨front, p, back, rfl, hfront, haction, hfile⟩ := layout_split hplaced
  have hlength : front.length = i := by
    have := congrArg List.length hfront
    rwa [List.length_map, List.length_map, hi] at this
  exact ⟨p, by simp [← hlength], haction, hfile⟩

/-- **When a link leads to its heading**: the sheet on the page that it names begins with a
heading, and as many sheets before it do as the number of the heading says. -/
theorem linkLeads_iff {ds : List Directive} {placements : List Placement}
    {pre post : List Sheet} {sheet : Sheet}
    (hsheets : (Manuscript.ofDirectives ds).sheets = pre ++ sheet :: post)
    (hplaced : layout ((Manuscript.ofDirectives ds).sheets.map (·.action)) = .ok placements)
    (hnumbered : sheet.action.kind.isNumbered = true) (n : Nat) :
    LinkLeads (Manuscript.ofDirectives ds).sheets placements n (pageNumber (pre.map (·.action)))
      ↔ sheet.opensHeading = true ∧ n = pre.countP (·.opensHeading) + 1 := by
  rw [← mem_headings_iff hsheets]
  constructor
  · rintro ⟨i, p, other, hp, hother, hfile, -, heading, hmem, hnumber⟩
    obtain ⟨p', hp', -, hiff⟩ := exists_placement hplaced hother
    obtain rfl : p = p' := Option.some.inj (hp.symm.trans hp')
    obtain ⟨hnumbered', hpage⟩ := (hiff _).mp hfile
    -- two body pages with one number are one page
    have hcount : pre.countP (·.action.kind.isNumbered)
        = ((Manuscript.ofDirectives ds).sheets.take i).countP (·.action.kind.isNumbered) := by
      rw [pageNumber_map, pageNumber_map] at hpage
      exact Nat.succ.inj hpage
    have hsame := split_unique (p := (·.action.kind.isNumbered)) hnumbered hnumbered' hcount
      (hsheets.symm.trans (split_at_getElem? hother))
    rw [hsame.2.1]
    exact List.mem_filterMap.mpr ⟨heading, hmem, hnumber⟩
  · -- the page of the sheet itself has the heading
    intro hn
    obtain ⟨heading, hmem, hnumber⟩ := List.mem_filterMap.mp hn
    have hget : (Manuscript.ofDirectives ds).sheets[pre.length]? = some sheet := by
      simp [hsheets]
    obtain ⟨p, hp, haction, hiff⟩ := exists_placement hplaced hget
    have htake : (Manuscript.ofDirectives ds).sheets.take pre.length = pre := by simp [hsheets]
    refine ⟨pre.length, p, sheet, hp, hget, (hiff _).mpr ⟨hnumbered, by rw [htake]⟩, ?_,
      heading, hmem, hnumber⟩
    have hset := Manuscript.wellSet_of_mem_sheets (List.mem_of_getElem? hget)
    unfold Sheet.WellSet at hset
    by_cases htext : sheet.action.kind.holdsText = true
    · rw [haction]
      rwa [if_pos htext] at hset
    · rw [if_neg htext] at hset
      simp [hset] at hmem

/-! ### All links -/

/-- The sheets match the links if every linked sheet begins with a heading and has as many
sheets with a heading before it as linked ones. -/
theorem linksMatch_iff {sheets : List Sheet} :
    LinksMatch sheets ↔ ∀ pre sheet post, sheets = pre ++ sheet :: post → sheet.isLinked = true →
      sheet.opensHeading = true ∧ pre.countP (·.opensHeading) = pre.countP (·.isLinked) := by
  constructor
  · intro h pre sheet post hsplit hlinked
    refine ⟨by rw [← h pre sheet post hsplit ⟨sheet, List.mem_cons_self, hlinked⟩, hlinked], ?_⟩
    refine List.countP_congr fun s hs => ?_
    obtain ⟨before, after, rfl⟩ := List.mem_iff_append.mp hs
    have hsame := h before s (after ++ sheet :: post) (by simp [hsplit]) ⟨sheet, by simp, hlinked⟩
    rw [hsame]
  · intro h pre sheet post hsplit hlater
    by_cases hlinked : sheet.isLinked = true
    · rw [hlinked, (h pre sheet post hsplit hlinked).1]
    · -- a sheet with a heading that is not linked would make the counts at a later link differ
      obtain ⟨later, hmem, hlater⟩ := hlater
      rcases List.mem_cons.mp hmem with rfl | hmem
      · exact absurd hlater hlinked
      obtain ⟨mid, after, rfl⟩ := List.mem_iff_append.mp hmem
      have hcount := (h (pre ++ sheet :: mid) later after (by simp [hsplit]) hlater).2
      have hle : ∀ part : List Sheet, (∀ s ∈ part, s ∈ pre ++ mid) →
          part.countP (·.isLinked) ≤ part.countP (·.opensHeading) := by
        intro part hpart
        refine List.countP_mono_left fun s hs hslinked => ?_
        have hmem : s ∈ sheets := by
          rw [hsplit]
          rcases List.mem_append.mp (hpart s hs) with hs | hs <;> simp [hs]
        obtain ⟨before, after', hs⟩ := List.mem_iff_append.mp hmem
        exact (h before s after' hs hslinked).1
      have hpre := hle pre fun s hs => List.mem_append_left _ hs
      have hmid := hle mid fun s hs => List.mem_append_right _ hs
      rw [List.countP_append, List.countP_append, List.countP_cons, List.countP_cons,
        if_neg hlinked] at hcount
      by_cases hopens : sheet.opensHeading = true
      · rw [if_pos hopens] at hcount
        omega
      · rw [Bool.not_eq_true] at hlinked hopens
        rw [hlinked, hopens]

theorem linksMatch_of_forall {sheets : List Sheet}
    (h : ∀ s ∈ sheets, s.isLinked = s.opensHeading) : LinksMatch sheets := by
  intro pre sheet post hsplit _
  exact h sheet (by simp [hsplit])

section

variable {plan : BookPlan} {raw page : String} {book : CompiledBook} {placements : List Placement}

/-- One link of a compiled manuscript: its number, its unit and whether it leads there. -/
theorem link_of_compileText (hplan : PlanAvoids placeholder plan)
    (hraw : ¬ placeholder <:+: raw.toList) (hbook : compileText plan raw = .ok book)
    (hpage : book.tocMarkup = some page) (hplaced : layout book.actions = .ok placements)
    {k number target : Nat} (hnumber : (linkedAnchors book.skeleton.entries)[k]? = some number)
    (htarget : (linkTargets book.actions)[k]? = some target) :
    number = k + 1 ∧ ∃ pre sheet post, textSheets raw = pre ++ sheet :: post
      ∧ sheet.isLinked = true ∧ pre.countP (·.isLinked) = k
      ∧ target = pageNumber (pre.map (·.action))
      ∧ (LinkLeads (textSheets raw) placements number target
          ↔ sheet.opensHeading = true ∧ pre.countP (·.opensHeading) = k) := by
  obtain ⟨hactions, hentries, -, -⟩ :=
    compileText_eq_ok hplan (titles_avoid hraw) hbook hpage
  rw [hentries] at hnumber
  rw [hactions] at hplaced htarget
  obtain rfl := eq_of_getElem?_linkedAnchors hnumber
  obtain ⟨pre, sheet, post, hsplit, hlinked, hk, rfl⟩ := exists_linked_of_getElem? htarget
  refine ⟨rfl, pre, sheet, post, hsplit, hlinked, hk, rfl, ?_⟩
  have hleads := linkLeads_iff hsplit hplaced (isNumbered_of_isLinked hlinked) (k + 1)
  rw [← textSheets] at hleads
  rw [hleads, Nat.add_right_cancel_iff, eq_comm (a := k)]

/-- **All links lead to their headings** if the linked units and those with a heading are the
same, up to the last linked one, and only then. -/
theorem links_lead_iff (hplan : PlanAvoids placeholder plan)
    (hraw : ¬ placeholder <:+: raw.toList) (hbook : compileText plan raw = .ok book)
    (hpage : book.tocMarkup = some page) (hplaced : layout book.actions = .ok placements) :
    (∀ link ∈ (linkedAnchors book.skeleton.entries).zip (linkTargets book.actions),
        LinkLeads (textSheets raw) placements link.1 link.2)
      ↔ LinksMatch (textSheets raw) := by
  obtain ⟨hactions, -, hlength, -⟩ :=
    compileText_eq_ok hplan (titles_avoid hraw) hbook hpage
  rw [linksMatch_iff]
  constructor
  · intro hall pre sheet post hsplit hlinked
    -- the sheet has a link, the one with the number of linked sheets before it
    have htarget := getElem?_linkTargets_map hlinked pre post
    rw [← hsplit, ← hactions] at htarget
    have hlt := (List.getElem?_eq_some_iff.mp htarget).1
    rw [← hlength] at hlt
    have hnumber := List.getElem?_eq_getElem hlt
    have hleads := hall (_, pageNumber (pre.map (·.action)))
      (List.mem_of_getElem? (List.getElem?_zip_eq_some.mpr ⟨hnumber, htarget⟩))
    obtain ⟨-, pre', sheet', post', hsplit', hlinked', hk, -, hiff⟩ :=
      link_of_compileText hplan hraw hbook hpage hplaced hnumber htarget
    obtain ⟨rfl, rfl, -⟩ := split_unique hlinked' hlinked hk (hsplit'.symm.trans hsplit)
    exact hiff.mp hleads
  · intro hmatch link hlinkmem
    obtain ⟨k, hk⟩ := List.mem_iff_getElem?.mp hlinkmem
    obtain ⟨hnumber, htarget⟩ := List.getElem?_zip_eq_some.mp hk
    obtain ⟨-, pre, sheet, post, hsplit, hlinked, rfl, -, hiff⟩ :=
      link_of_compileText hplan hraw hbook hpage hplaced hnumber htarget
    exact hiff.mpr (hmatch pre sheet post hsplit hlinked)

/-- **Where the links of a table of contents lead.**  The page is written with the numbers of
the linked units in the links, the first into the first.  The link of a unit leads to the
heading that it names if the unit begins with a heading and as many units before it do as
are linked, and only then.  So all links lead to their headings if the linked units and those
with a heading are the same, up to the last linked one, and only then. -/
theorem links_of_compileText (hplan : PlanAvoids placeholder plan)
    (hraw : ¬ placeholder <:+: raw.toList) (hbook : compileText plan raw = .ok book)
    (hpage : book.tocMarkup = some page) (hplaced : layout book.actions = .ok placements) :
    page = tocPage plan
        (String.join (renderLinked book.skeleton.entries (linkTargets book.actions)))
      ∧ (linkedAnchors book.skeleton.entries).length = (linkTargets book.actions).length
      ∧ (textSheets raw).map (·.action) = book.actions
      ∧ (∀ k number target, (linkedAnchors book.skeleton.entries)[k]? = some number →
          (linkTargets book.actions)[k]? = some target →
          number = k + 1 ∧ ∃ pre sheet post, textSheets raw = pre ++ sheet :: post
            ∧ sheet.isLinked = true ∧ pre.countP (·.isLinked) = k
            ∧ target = pageNumber (pre.map (·.action))
            ∧ (LinkLeads (textSheets raw) placements number target
                ↔ sheet.opensHeading = true ∧ pre.countP (·.opensHeading) = k))
      ∧ ((∀ link ∈ (linkedAnchors book.skeleton.entries).zip (linkTargets book.actions),
            LinkLeads (textSheets raw) placements link.1 link.2)
          ↔ LinksMatch (textSheets raw)) := by
  obtain ⟨hactions, -, hlength, hmarkup⟩ :=
    compileText_eq_ok hplan (titles_avoid hraw) hbook hpage
  refine ⟨hmarkup, hlength, hactions.symm, ?_, links_lead_iff hplan hraw hbook hpage hplaced⟩
  intro k number target hnumber htarget
  exact link_of_compileText hplan hraw hbook hpage hplaced hnumber htarget

end

/-! ### Two manuscripts -/

/-- The text of some lines. -/
def unlines (lines : List String) : List Char := lines.flatMap fun l => l.toList ++ ['\n']

theorem unlines_nil : unlines [] = [] := rfl

theorem unlines_cons (l : List Char) (lines : List String) :
    unlines (String.ofList l :: lines) = l ++ '\n' :: unlines lines := by
  simp [unlines]

/-- A plan with nothing in it to be filled. -/
def slimPlan : BookPlan where
  title := "T"
  author := "A"
  lang := "ja"
  generator := "rote"
  tocName := "目次"
  coverImage := "cover.png"
  raw := "raw.txt"
  identifier := .text "id"

theorem planAvoids_slimPlan : PlanAvoids placeholder slimPlan := by
  constructor <;> exact Text.not_infix_of_notMem lowLine_mem_placeholder (by decide)

/-- A text in full-width punctuation and without a low line is read as some directives. -/
structure ReadsAs (s : List Char) (ds : List Directive) : Prop where
  fullWidth : ∀ rule ∈ punctuationRules, ¬ rule.ascii <:+: s
  noLowLine : '_' ∉ s
  read : Directive.ofText s = (ds, none)

namespace ReadsAs

variable {s : List Char} {ds : List Directive}

theorem normalize_self (h : ReadsAs s ds) : normalize s = s :=
  normalize_of_not_infix h.fullWidth

theorem normalize_eq (h : ReadsAs s ds) : normalize (String.ofList s).toList = s := by
  rw [String.toList_ofList, h.normalize_self]

theorem avoids (h : ReadsAs s ds) : ¬ placeholder <:+: (String.ofList s).toList := by
  rw [String.toList_ofList]
  exact Text.not_infix_of_notMem lowLine_mem_placeholder h.noLowLine

theorem textSheets_eq (h : ReadsAs s ds) :
    textSheets (String.ofList s) = (Manuscript.ofDirectives ds).sheets := by
  rw [textSheets, h.normalize_eq, h.read]

theorem actions_eq (h : ReadsAs s ds) {book : CompiledBook} {page : String}
    (hbook : compileText slimPlan (String.ofList s) = .ok book)
    (hpage : book.tocMarkup = some page) :
    book.actions = (Manuscript.ofDirectives ds).sheets.map (·.action) := by
  rw [← h.textSheets_eq]
  exact (compileText_eq_ok planAvoids_slimPlan (titles_avoid h.avoids) hbook hpage).1

/-- The text compiles if it asks for a table of contents with the links that it has. -/
theorem exists_compileText (h : ReadsAs s ds) (htoc : ∃ d ∈ ds, d.command = .toc)
    (hlinks : (linkedAnchors (scanEntries s)).length
      = (Manuscript.ofDirectives ds).sheets.countP (·.isLinked)) :
    ∃ book page, compileText slimPlan (String.ofList s) = .ok book
      ∧ book.tocMarkup = some page := by
  refine Book.exists_compileText planAvoids_slimPlan (titles_avoid h.avoids) ?_ ?_ ?_
  · rw [h.normalize_eq, h.read]
  · rw [h.normalize_eq, h.read]
    exact htoc
  · rw [h.normalize_eq, h.textSheets_eq]
    exact hlinks

end ReadsAs

/-- A chapter with a picture behind it. -/
def chapterOnly : List Char :=
  unlines ["#toc#", "#toc-chapter,A#", "#chapter,A#", "x", "#img,a.png#"]

/-- The directives of the chapter. -/
def chapterDirectives : List Directive :=
  [{ command := .toc, line := 1 },
   { command := .tocChapter, argument := "A", line := 2 },
   { command := .chapter, argument := "A", line := 3 },
   { command := .text, argument := "x", line := 4 },
   { command := .image, argument := "a.png", line := 5 }]

theorem readsAs_chapterOnly : ReadsAs chapterOnly chapterDirectives := by
  unfold chapterOnly
  repeat rw [unlines_cons]
  rw [unlines_nil]
  constructor <;> decide +kernel

theorem scanEntries_chapterOnly :
    scanEntries chapterOnly = [{ number := some 1, title := "A" }] := by
  unfold chapterOnly
  repeat rw [unlines_cons]
  rw [unlines_nil, scanEntries_eq_lines]
  decide +kernel

theorem sheets_chapterDirectives :
    (Manuscript.ofDirectives chapterDirectives).sheets
      = [{ action := { kind := .toc } },
         { action := { kind := .titledBody, title := some "A"
                       content := render [.chapterHeading 1 "A", .ofText "x"] }
           fragments := [.chapterHeading 1 "A", .ofText "x"] },
         { action := { kind := .image, content := "a.png" } }] := by
  rfl

theorem links_of_chapterOnly :
    ∃ book page placements, compileText slimPlan (String.ofList chapterOnly) = .ok book
      ∧ book.tocMarkup = some page ∧ layout book.actions = .ok placements
      ∧ ∀ link ∈ (linkedAnchors book.skeleton.entries).zip (linkTargets book.actions),
          LinkLeads (textSheets (String.ofList chapterOnly)) placements link.1 link.2 := by
  have hread := readsAs_chapterOnly
  obtain ⟨book, page, hbook, hpage⟩ := hread.exists_compileText ⟨_, List.mem_cons_self, rfl⟩
    (by rw [scanEntries_chapterOnly, sheets_chapterDirectives]; rfl)
  have hactions := hread.actions_eq hbook hpage
  obtain ⟨placements, hplaced⟩ : ∃ placements, layout book.actions = .ok placements := by
    rw [hactions, sheets_chapterDirectives]
    simp [layout, layoutFrom, Layout.place]
  obtain ⟨-, -, -, -, hiff⟩ :=
    links_of_compileText planAvoids_slimPlan hread.avoids hbook hpage hplaced
  refine ⟨book, page, placements, hbook, hpage, hplaced, hiff.mpr (linksMatch_of_forall ?_)⟩
  rw [hread.textSheets_eq, sheets_chapterDirectives]
  simp [Sheet.isLinked, ActionKind.isLinked, Sheet.opensHeading, Fragment.headingNumber?]

/-- The copyright page is linked, and the chapter is set in the colophon, which is not. -/
def copyrightFirst : List Char :=
  unlines ["#toc#", "#toc-chapter,A#", "#end-copyright#", "#chapter,A#", "x", "#end-colophon-text#"]

/-- The directives of the copyright page and the chapter. -/
def copyrightDirectives : List Directive :=
  [{ command := .toc, line := 1 },
   { command := .tocChapter, argument := "A", line := 2 },
   { command := .endCopyright, line := 3 },
   { command := .chapter, argument := "A", line := 4 },
   { command := .text, argument := "x", line := 5 },
   { command := .endColophonText, line := 6 }]

theorem readsAs_copyrightFirst : ReadsAs copyrightFirst copyrightDirectives := by
  unfold copyrightFirst
  repeat rw [unlines_cons]
  rw [unlines_nil]
  constructor <;> decide +kernel

theorem scanEntries_copyrightFirst :
    scanEntries copyrightFirst = [{ number := some 1, title := "A" }] := by
  unfold copyrightFirst
  repeat rw [unlines_cons]
  rw [unlines_nil, scanEntries_eq_lines]
  decide +kernel

theorem sheets_copyrightDirectives :
    (Manuscript.ofDirectives copyrightDirectives).sheets
      = [{ action := { kind := .toc } }]
        ++ { action := { kind := .copyright } }
        :: [{ action := { kind := .colophonText
                          content := render [.chapterHeading 1 "A", .ofText "x"] }
              fragments := [.chapterHeading 1 "A", .ofText "x"] }] := by
  rfl

/-- **Not every link leads to its heading.**  The link of the chapter is filled with the number
of the copyright page, and that page is empty. -/
theorem exists_link_astray :
    ¬ ∀ (plan : BookPlan) (raw page : String) (book : CompiledBook) (placements : List Placement),
      PlanAvoids placeholder plan → ¬ placeholder <:+: raw.toList →
      compileText plan raw = .ok book → book.tocMarkup = some page →
      layout book.actions = .ok placements →
      ∀ link ∈ (linkedAnchors book.skeleton.entries).zip (linkTargets book.actions),
        LinkLeads (textSheets raw) placements link.1 link.2 := by
  intro h
  have hread := readsAs_copyrightFirst
  obtain ⟨book, page, hbook, hpage⟩ := hread.exists_compileText ⟨_, List.mem_cons_self, rfl⟩
    (by rw [scanEntries_copyrightFirst, sheets_copyrightDirectives]; rfl)
  have hactions := hread.actions_eq hbook hpage
  obtain ⟨placements, hplaced⟩ : ∃ placements, layout book.actions = .ok placements := by
    rw [hactions, sheets_copyrightDirectives]
    simp [layout, layoutFrom, Layout.place]
  have hmatch := (links_lead_iff planAvoids_slimPlan hread.avoids hbook hpage hplaced).mp
    (h slimPlan _ page book placements planAvoids_slimPlan hread.avoids hbook hpage hplaced)
  rw [hread.textSheets_eq, sheets_copyrightDirectives] at hmatch
  have hsame := hmatch _ _ _ rfl ⟨_, List.mem_cons_self, rfl⟩
  simp [Sheet.isLinked, ActionKind.isLinked, Sheet.opensHeading] at hsame

end Kumihan.Book
