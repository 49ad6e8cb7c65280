import Mathlib.Algebra.GroupWithZero.Nat
import Kumihan.Proofs.Contents.Scan
import Kumihan.Proofs.Text.Count
import Kumihan.Proofs.Text.Decimal

/-!
# The page with the numbers in place

The page with the table of contents is written with a placeholder for every number of a
page.  Where neither the plan nor an entry holds the placeholder's text, its occurrences
are those that the links wrote, so filling them from the left puts the first number into
the first link, the second into the second, and touches nothing else.

## Main definitions

* `renderLinked` — the entries with page numbers.
* `PlanAvoids` — no field of a plan that is written on the page holds a text.
* `placeholdersIn`, `planPlaceholders`, `titlePlaceholders` — how often the placeholder's text
  stands in some markup, in the fields of a plan, and in the titles of entries.

## Main results

* `placeholderCount_eq` — there is one placeholder for each link, and what stands in the plan
  and in the titles comes on top.
* `resolve_buildSkeleton` — **filling the placeholders writes the page with numbers.**
-/

namespace Kumihan.Book

open Kumihan.Text (Sealed)

/-! ### Entries and links -/

/-- The entries with the numbers of pages, which the numbered ones take in their order. -/
def renderLinked : List TocEntry → List Nat → List String
  | [], _ => []
  | entry :: entries, targets =>
    match entry.number, targets with
    | none, _ => entry.render "" :: renderLinked entries targets
    | some _, [] => entry.render (String.ofList placeholder) :: renderLinked entries []
    | some _, target :: targets =>
      entry.render (String.ofList (Text.paddedDigits 3 target)) :: renderLinked entries targets

/-- No field of a plan that is written on the page holds `pat`. -/
structure PlanAvoids (pat : List Char) (plan : BookPlan) : Prop where
  lang : ¬ pat <:+: plan.lang.toList
  title : ¬ pat <:+: plan.title.toList
  tocName : ¬ pat <:+: plan.tocName.toList

/-! ### The placeholder -/

/-- The characters of the placeholder. -/
def placeholderChars : List Char := ['R', 'E', 'P', 'L', 'A', 'C', 'E', '_', 'M', 'E']

theorem placeholder_eq : placeholder = placeholderChars := String.toList_ofList

theorem placeholder_ne_nil : placeholder ≠ [] := by
  rw [placeholder_eq]
  exact List.cons_ne_nil _ _

theorem lowLine_mem_placeholder : '_' ∈ placeholder := by
  rw [placeholder_eq]
  decide

/-- The first character of the placeholder does not come again in it. -/
theorem exists_placeholder_cons : ∃ m, placeholder = 'R' :: m ∧ 'R' ∉ m :=
  ⟨_, placeholder_eq, by decide⟩

/-- Counting behind a text that avoids the placeholder. -/
theorem countOf_placeholder {x : List Char} (h : ¬ placeholder <:+: x) (rest : List Char) :
    Text.countOf placeholder (x ++ (placeholder ++ rest)) = Text.countOf placeholder rest + 1 := by
  obtain ⟨m, hm, hR⟩ := exists_placeholder_cons
  rw [hm] at h ⊢
  exact Text.countOf_append hR h rest

/-- Filling the first placeholder behind a text that avoids it. -/
theorem replaceFirst_placeholder {x : List Char} (h : ¬ placeholder <:+: x) (rep rest : List Char) :
    Text.replaceFirst placeholder rep (x ++ (placeholder ++ rest)) = x ++ rep ++ rest := by
  obtain ⟨m, hm, hR⟩ := exists_placeholder_cons
  rw [hm] at h ⊢
  exact Text.replaceFirst_append hR h rep rest

/-! ### Sealed markup -/

/-- Markup that neither holds the placeholder nor touches one beside it. -/
def SealedMarkup (s : String) : Prop := Sealed placeholder s.toList

theorem SealedMarkup.append {s t : String} (hs : SealedMarkup s) (ht : SealedMarkup t) :
    SealedMarkup (s ++ t) := by
  unfold SealedMarkup
  rw [String.toList_append]
  exact Sealed.append placeholder_ne_nil hs ht

/-- Between two pieces of sealed markup any text without a placeholder may stand. -/
theorem SealedMarkup.around {s x t : String} (hs : SealedMarkup s) (ht : SealedMarkup t)
    (hsne : s ≠ "") (htne : t ≠ "") (hx : ¬ placeholder <:+: x.toList) :
    SealedMarkup (s ++ x ++ t) := by
  unfold SealedMarkup
  rw [String.toList_append, String.toList_append]
  exact Sealed.around placeholder_ne_nil hs ht (by simpa using hsne) (by simpa using htne) hx

/-- Markup without a low line holds no placeholder. -/
theorem sealedMarkup_ofList {l : List Char}
    (h : '_' ∉ l ∧ Text.isFree placeholderChars (l.head?.toList ++ l.getLast?.toList) = true) :
    SealedMarkup (String.ofList l) := by
  unfold SealedMarkup
  rw [← placeholder_eq] at h
  rw [String.toList_ofList]
  exact .of_notMem lowLine_mem_placeholder h.1 h.2

/-- No character of the placeholder is a digit. -/
theorem notMem_placeholder_of_isDigit {c : Char} (h : c.isDigit = true) : c ∉ placeholder := by
  have hout : placeholderChars.all (fun c => !c.isDigit) = true := by decide
  intro hmem
  rw [placeholder_eq] at hmem
  have hnot := List.all_eq_true.mp hout c hmem
  rw [h] at hnot
  contradiction

/-- Digits are no part of a placeholder. -/
theorem sealedMarkup_paddedDigits (width n : Nat) :
    SealedMarkup (String.ofList (Text.paddedDigits width n)) := by
  unfold SealedMarkup
  rw [String.toList_ofList]
  refine .of_forall placeholder_ne_nil fun c hc => ?_
  exact notMem_placeholder_of_isDigit (Text.isDigit_of_mem_paddedDigits hc)

/-! ### Pieces of the page -/

theorem sealedMarkup_anchor (number : Nat) : SealedMarkup (anchor number) := by
  have hdigits : SealedMarkup (String.ofList (Text.padded 4 number)) :=
    sealedMarkup_paddedDigits 4 number
  exact (sealedMarkup_ofList (by decide)).append hdigits

/-- A character is escaped by itself, or without a character of the placeholder. -/
theorem escapeChar_free (c : Char) :
    Text.escapeChar c = [c]
      ∨ Text.escapeChar c ≠ [] ∧ ∀ e ∈ Text.escapeChar c, e ∉ placeholder := by
  rw [placeholder_eq]
  unfold Text.escapeChar
  split
  · exact Or.inr ⟨List.cons_ne_nil _ _, Text.notMem_of_isFree (by decide)⟩
  · exact Or.inr ⟨List.cons_ne_nil _ _, Text.notMem_of_isFree (by decide)⟩
  · exact Or.inr ⟨List.cons_ne_nil _ _, Text.notMem_of_isFree (by decide)⟩
  · exact Or.inl rfl

/-- A character of an attribute likewise. -/
theorem escapeAttributeChar_free (c : Char) :
    Text.escapeAttributeChar c = [c]
      ∨ Text.escapeAttributeChar c ≠ [] ∧ ∀ e ∈ Text.escapeAttributeChar c, e ∉ placeholder := by
  unfold Text.escapeAttributeChar
  split
  · rw [placeholder_eq]
    exact Or.inr ⟨List.cons_ne_nil _ _, Text.notMem_of_isFree (by decide)⟩
  · exact escapeChar_free c

/-- The fields of a plan are escaped; escaping makes no placeholder and breaks none. -/
theorem infix_escapeText_iff {s : String} :
    placeholder <:+: (Text.escapeText s).toList ↔ placeholder <:+: s.toList := by
  rw [Text.escapeText, String.toList_ofList]
  have hfix : placeholderChars.all (fun c => Text.escapeChar c = [c]) = true := by decide
  refine Text.infix_flatMap_iff placeholder_ne_nil escapeChar_free fun c hc => ?_
  rw [placeholder_eq] at hc
  exact of_decide_eq_true (List.all_eq_true.mp hfix c hc)

theorem infix_escapeAttribute_iff {s : String} :
    placeholder <:+: (Text.escapeAttribute s).toList ↔ placeholder <:+: s.toList := by
  rw [Text.escapeAttribute, String.toList_ofList]
  have hfix : placeholderChars.all (fun c => Text.escapeAttributeChar c = [c]) = true := by decide
  refine Text.infix_flatMap_iff placeholder_ne_nil escapeAttributeChar_free fun c hc => ?_
  rw [placeholder_eq] at hc
  exact of_decide_eq_true (List.all_eq_true.mp hfix c hc)

/-- The page before its language. -/
def tocBeforeLang : String :=
  "<?xml version=\"1.0\" encoding=\"UTF-8\"?>\n" ++ ("<!DOCTYPE html>\n" ++ ("<html\n"
    ++ (" xmlns=\"http://www.w3.org/1999/xhtml\"\n"
    ++ (" xmlns:epub=\"http://www.idpf.org/2007/ops\"\n" ++ " xml:lang=\""))))

/-- The page between its language and its title. -/
def tocBeforeTitle : String :=
  "\"\n" ++ (" class=\"" ++ ("vrtl" ++ ("\"\n" ++ (">\n" ++ ("<head>\n"
    ++ ("<meta charset=\"UTF-8\"/>\n" ++ "<title>"))))))

/-- The page between its title and its heading. -/
def tocBeforeName : String :=
  "</title>\n" ++ (styleLink bookStyleFile ++ ("</head>\n"
    ++ ("<body class=\"p-toc top-left-off\">\n" ++ (keepSpaceLine ++ ("<div class=\"main\">\n"
    ++ ("<div class=\"start-2em\">\n" ++ "<p>　<span class=\"mfont font-1em30\">"))))))

/-- The page between its heading and its entries. -/
def tocBeforeEntries : String :=
  "</span></p>\n" ++ (blankParagraph ++ "<div class=\"font-1em10\">\n")

/-- The page behind its entries. -/
def tocAfterEntries : String := "</div>\n" ++ ("</div>\n" ++ ("</div>\n" ++ pageClosing))

/-- The page up to its entries. -/
def tocOpening (plan : BookPlan) : String :=
  tocBeforeLang ++ Text.escapeAttribute plan.lang ++ tocBeforeTitle ++ Text.escapeText plan.title
    ++ tocBeforeName ++ Text.escapeText plan.tocName ++ tocBeforeEntries

theorem tocPage_eq (plan : BookPlan) (entries : String) :
    tocPage plan entries = tocOpening plan ++ entries ++ tocAfterEntries := by
  unfold tocPage pageOpening tocOpening tocBeforeLang tocBeforeTitle tocBeforeName
    tocBeforeEntries tocAfterEntries
  simp only [String.append_assoc]

theorem append_ne_empty {s : String} (h : s ≠ "") (t : String) : s ++ t ≠ "" := by
  intro hst
  exact h (String.append_eq_empty_iff.mp hst).1

/-- The pieces of the page between which the fields of its plan and its entries stand. -/
def tocPieces : List String :=
  [tocBeforeLang, tocBeforeTitle, tocBeforeName, tocBeforeEntries, tocAfterEntries]

/-- **The pieces are sealed**, because each of their lines is, and none of them is empty. -/
theorem sealedMarkup_tocPieces : ∀ s ∈ tocPieces, SealedMarkup s ∧ s ≠ "" := by
  simp only [tocPieces, List.forall_mem_cons]
  unfold tocBeforeLang tocBeforeTitle tocBeforeName tocBeforeEntries tocAfterEntries styleLink
    keepSpaceLine
  refine ⟨⟨?_, append_ne_empty (by simp) _⟩, ⟨?_, append_ne_empty (by simp) _⟩,
    ⟨?_, append_ne_empty (by simp) _⟩, ⟨?_, append_ne_empty (by simp) _⟩,
    ⟨?_, append_ne_empty (by simp) _⟩, nofun⟩
  all_goals repeat' with_reducible apply SealedMarkup.append
  all_goals exact sealedMarkup_ofList (by decide)

theorem sealedMarkup_tocOpening {plan : BookPlan} (hplan : PlanAvoids placeholder plan) :
    SealedMarkup (tocOpening plan) := by
  have hlang := mt infix_escapeAttribute_iff.mp hplan.lang
  have htitle := mt infix_escapeText_iff.mp hplan.title
  have hname := mt infix_escapeText_iff.mp hplan.tocName
  have hpieces := sealedMarkup_tocPieces
  simp only [tocPieces, List.forall_mem_cons] at hpieces
  obtain ⟨⟨h₀, hne₀⟩, ⟨h₁, hne₁⟩, ⟨h₂, hne₂⟩, ⟨h₃, hne₃⟩, -⟩ := hpieces
  have hupToTitle := h₀.around h₁ hne₀ hne₁ hlang
  have hne := append_ne_empty (append_ne_empty hne₀ (Text.escapeAttribute plan.lang)) tocBeforeTitle
  have hupToName := hupToTitle.around h₂ hne hne₂ htitle
  have hne' := append_ne_empty (append_ne_empty hne (Text.escapeText plan.title)) tocBeforeName
  exact hupToName.around h₃ hne' hne₃ hname

/-- The markup of a numbered entry: its link up to the number of the page, between that and
its title, and behind its title. -/
theorem render_pieces (entry : TocEntry) {number : Nat} (hnumber : entry.number = some number) :
    ∃ before link behind, SealedMarkup before ∧ SealedMarkup link ∧ SealedMarkup behind
      ∧ link ≠ "" ∧ behind ≠ ""
      ∧ ∀ page, entry.render page = before ++ page ++ (link ++ entry.title ++ behind) := by
  have hanchor := sealedMarkup_anchor number
  have hlink : SealedMarkup
      (".xhtml#" ++ anchor number ++ "\" class=\"" ++ anchor number ++ "\">") := by
    refine .append (.append (.append (.append ?_ hanchor) ?_) hanchor) ?_
    all_goals exact sealedMarkup_ofList (by decide)
  cases hafterword : entry.afterword with
  | false =>
    have hfront : SealedMarkup ("<p>" ++ "<a href=\"p-") := by
      refine .append ?_ ?_
      all_goals exact sealedMarkup_ofList (by decide)
    have hbehind : SealedMarkup ("</a>" ++ "</p>\n") := by
      refine .append ?_ ?_
      all_goals exact sealedMarkup_ofList (by decide)
    refine ⟨_, _, _, hfront, hlink, hbehind, by simp, by simp, fun page => ?_⟩
    unfold TocEntry.render entryLink
    simp only [hnumber, hafterword, String.append_assoc]
  | true =>
    have hfront : SealedMarkup
        (blankParagraph ++ "<div class=\"h-indent-1em\">\n" ++ "<p>　" ++ "<a href=\"p-") := by
      refine .append (.append (.append ?_ ?_) ?_) ?_
      all_goals exact sealedMarkup_ofList (by decide)
    have hbehind : SealedMarkup ("</a>" ++ ("</p>\n" ++ "</div>\n")) := by
      refine .append ?_ (.append ?_ ?_)
      all_goals exact sealedMarkup_ofList (by decide)
    refine ⟨_, _, _, hfront, hlink, hbehind, by simp, by simp, fun page => ?_⟩
    unfold TocEntry.render entryLink
    simp only [hnumber, hafterword, String.append_assoc]

/-- The markup of a numbered entry, cut at the number of its page. -/
theorem render_numbered (entry : TocEntry) {number : Nat} (hnumber : entry.number = some number)
    (htitle : ¬ placeholder <:+: entry.title.toList) :
    ∃ before after, SealedMarkup before ∧ SealedMarkup after
      ∧ ∀ page, entry.render page = before ++ page ++ after := by
  obtain ⟨before, link, behind, hbefore, hlink, hbehind, hlinkne, hbehindne, hrender⟩ :=
    render_pieces entry hnumber
  exact ⟨before, _, hbefore, hlink.around hbehind hlinkne hbehindne htitle, hrender⟩

theorem render_unnumbered (entry : TocEntry) (hnumber : entry.number = none) (page : String) :
    entry.render page = blankParagraph := by
  unfold TocEntry.render
  rw [hnumber]

/-! ### Filling the page -/

/-- The entries with placeholders. -/
def renderOpen (entries : List TocEntry) : String :=
  String.join (entries.map (TocEntry.render (String.ofList placeholder)))

theorem renderOpen_cons (entry : TocEntry) (entries : List TocEntry) :
    renderOpen (entry :: entries)
      = entry.render (String.ofList placeholder) ++ renderOpen entries := by
  simp [renderOpen]

/-- The text with its first placeholder in sight. -/
theorem toList_cut (x before behind rest : String) :
    (x ++ (before ++ String.ofList placeholder ++ behind ++ rest)).toList
      = (x ++ before).toList ++ (placeholder ++ (behind ++ rest).toList) := by
  simp only [String.toList_append, String.toList_ofList, List.append_assoc]

/-- The induction is on the entries; `x` is what stands before them, which grows by each
link with its number in place. -/
theorem fillPlaceholders_renderOpen {entries : List TocEntry}
    (htitles : ∀ e ∈ entries, ¬ placeholder <:+: e.title.toList) {targets : List Nat}
    (hlength : targets.length = (linkedAnchors entries).length) {x after : String}
    (hx : SealedMarkup x) :
    fillPlaceholders (x ++ (renderOpen entries ++ after)).toList targets
      = (x ++ (String.join (renderLinked entries targets) ++ after)).toList := by
  induction entries generalizing x targets with
  | nil =>
    have hnil : targets = [] := List.length_eq_zero_iff.mp hlength
    rw [hnil]
    rfl
  | cons e entries ih =>
    have htitle := htitles e List.mem_cons_self
    have ih := @ih fun d hd => htitles d (List.mem_cons_of_mem e hd)
    rw [renderOpen_cons, String.append_assoc]
    cases hnumber : e.number with
    | none =>
      have hblank : SealedMarkup (x ++ blankParagraph) :=
        hx.append (sealedMarkup_ofList (by decide))
      have hlength' : targets.length = (linkedAnchors entries).length := by
        simpa [linkedAnchors, hnumber] using hlength
      rw [render_unnumbered e hnumber, ← String.append_assoc, ih hlength' hblank]
      simp [renderLinked, hnumber, render_unnumbered e hnumber, String.append_assoc]
    | some number =>
      obtain ⟨before, behind, hbefore, hbehind, hrender⟩ := render_numbered e hnumber htitle
      cases targets with
      | nil => simp [linkedAnchors, hnumber] at hlength
      | cons target targets =>
        have hlength' : targets.length = (linkedAnchors entries).length := by
          simpa [linkedAnchors, hnumber] using hlength
        have hdigits := sealedMarkup_paddedDigits 3 target
        -- the link with its number in place is sealed again
        have hfilled := ((hx.append hbefore).append hdigits).append hbehind
        have hfirst : Text.replaceFirst placeholder (Text.paddedDigits 3 target)
              (x ++ (e.render (String.ofList placeholder) ++ (renderOpen entries ++ after))).toList
            = (x ++ before ++ String.ofList (Text.paddedDigits 3 target) ++ behind
              ++ (renderOpen entries ++ after)).toList := by
          rw [hrender, toList_cut, replaceFirst_placeholder (hx.append hbefore).avoids]
          simp only [String.toList_append, String.toList_ofList, List.append_assoc]
        rw [fillPlaceholders, List.foldl_cons, hfirst, ← fillPlaceholders, ih hlength' hfilled]
        simp [renderLinked, hnumber, hrender, String.append_assoc]

/-! ### Counting the placeholders -/

/-- How often the placeholder's text stands in markup. -/
def placeholdersIn (s : String) : Nat := Text.countOf placeholder s.toList

theorem placeholdersIn_eq_zero_iff {s : String} :
    placeholdersIn s = 0 ↔ ¬ placeholder <:+: s.toList :=
  Text.countOf_eq_zero_iff placeholder_ne_nil

/-- None begins in sealed markup. -/
theorem placeholdersIn_append_left {s : String} (hs : SealedMarkup s) (t : String) :
    placeholdersIn (s ++ t) = placeholdersIn t := by
  rw [placeholdersIn, String.toList_append,
    Text.countOf_append_of_last placeholder_ne_nil hs.last, Text.countOf_eq_zero hs.avoids,
    Nat.zero_add]
  rfl

/-- None reaches over sealed markup. -/
theorem placeholdersIn_append {s : String} (hs : SealedMarkup s) (hne : s ≠ "") (x t : String) :
    placeholdersIn (x ++ (s ++ t)) = placeholdersIn x + placeholdersIn t := by
  have hfirst : ∀ e ∈ (s ++ t).toList.head?, e ∉ placeholder := by
    intro e he
    rw [String.toList_append, List.head?_append] at he
    cases hlist : s.toList with
    | nil => exact absurd (String.toList_eq_nil_iff.mp hlist) hne
    | cons d l =>
      rw [hlist, List.head?_cons, Option.some_or] at he
      exact hs.first e (by rw [hlist]; exact he)
  rw [placeholdersIn, String.toList_append,
    Text.countOf_append_of_first placeholder_ne_nil _ hfirst]
  exact congrArg _ (placeholdersIn_append_left hs t)

/-- How often it stands in the fields of the plan, as they are written on the page. -/
def planPlaceholders (plan : BookPlan) : Nat :=
  placeholdersIn (Text.escapeAttribute plan.lang) + placeholdersIn (Text.escapeText plan.title)
    + placeholdersIn (Text.escapeText plan.tocName)

/-- How often it stands in the titles of the entries that are written with one. -/
def titlePlaceholders (entries : List TocEntry) : Nat :=
  ((entries.filter (·.number.isSome)).map fun e => placeholdersIn e.title).sum

theorem planPlaceholders_eq_zero_iff {plan : BookPlan} :
    planPlaceholders plan = 0 ↔ PlanAvoids placeholder plan := by
  unfold planPlaceholders
  rw [Nat.add_eq_zero_iff, Nat.add_eq_zero_iff, placeholdersIn_eq_zero_iff,
    placeholdersIn_eq_zero_iff, placeholdersIn_eq_zero_iff, infix_escapeAttribute_iff,
    infix_escapeText_iff, infix_escapeText_iff]
  constructor
  · rintro ⟨⟨hlang, htitle⟩, hname⟩
    exact ⟨hlang, htitle, hname⟩
  · rintro ⟨hlang, htitle, hname⟩
    exact ⟨⟨hlang, htitle⟩, hname⟩

theorem titlePlaceholders_eq_zero_iff {entries : List TocEntry} :
    titlePlaceholders entries = 0
      ↔ ∀ e ∈ entries, e.number.isSome = true → ¬ placeholder <:+: e.title.toList := by
  rw [titlePlaceholders, List.sum_eq_zero_iff_forall_eq_nat, List.forall_mem_map]
  constructor
  · intro h e he hnumber
    exact placeholdersIn_eq_zero_iff.mp (h e (List.mem_filter.mpr ⟨he, hnumber⟩))
  · intro h e he
    obtain ⟨he, hnumber⟩ := List.mem_filter.mp he
    exact placeholdersIn_eq_zero_iff.mpr (h e he hnumber)

theorem placeholdersIn_tocOpening (plan : BookPlan) (t : String) :
    placeholdersIn (tocOpening plan ++ t) = planPlaceholders plan + placeholdersIn t := by
  have hpieces := sealedMarkup_tocPieces
  simp only [tocPieces, List.forall_mem_cons] at hpieces
  obtain ⟨⟨h₀, -⟩, ⟨h₁, hne₁⟩, ⟨h₂, hne₂⟩, ⟨h₃, hne₃⟩, -⟩ := hpieces
  unfold tocOpening planPlaceholders
  simp only [String.append_assoc]
  rw [placeholdersIn_append_left h₀, placeholdersIn_append h₁ hne₁, placeholdersIn_append h₂ hne₂,
    placeholdersIn_append h₃ hne₃]
  omega

/-- The induction is on the entries; each numbered one writes a placeholder and its title. -/
theorem placeholdersIn_renderOpen (entries : List TocEntry) {after : String}
    (hafter : SealedMarkup after) :
    placeholdersIn (renderOpen entries ++ after)
      = (linkedAnchors entries).length + titlePlaceholders entries := by
  induction entries with
  | nil => exact Text.countOf_eq_zero hafter.avoids
  | cons e entries ih =>
    rw [renderOpen_cons, String.append_assoc]
    cases hnumber : e.number with
    | none =>
      have hblank : SealedMarkup blankParagraph := sealedMarkup_ofList (by decide)
      rw [render_unnumbered e hnumber, placeholdersIn_append_left hblank, ih]
      simp [linkedAnchors, titlePlaceholders, hnumber]
    | some number =>
      obtain ⟨before, link, behind, hbefore, hlink, hbehind, -, hbehindne, hrender⟩ :=
        render_pieces e hnumber
      have hone (t : String) :
          placeholdersIn (String.ofList placeholder ++ t) = placeholdersIn t + 1 := by
        have hnil : ¬ placeholder <:+: [] := by simpa using placeholder_ne_nil
        unfold placeholdersIn
        rw [String.toList_append, String.toList_ofList]
        exact countOf_placeholder hnil t.toList
      rw [hrender]
      simp only [String.append_assoc]
      rw [placeholdersIn_append_left hbefore, hone, placeholdersIn_append_left hlink,
        placeholdersIn_append hbehind hbehindne, ih]
      simp [linkedAnchors, titlePlaceholders, hnumber]
      omega

/-! ### The theorems -/

section

variable {plan : BookPlan} {s : List Char}

theorem markup_buildSkeleton (plan : BookPlan) (s : List Char) :
    (buildSkeleton plan s).markup
      = tocOpening plan ++ (renderOpen (scanEntries s) ++ tocAfterEntries) := by
  rw [buildSkeleton, tocPage_eq, String.append_assoc]
  rfl

/-- **There is one placeholder for each link**, and what stands in the plan and in the titles
comes on top. -/
theorem placeholderCount_eq (plan : BookPlan) (s : List Char) :
    (buildSkeleton plan s).placeholderCount
      = planPlaceholders plan + (linkedAnchors (scanEntries s)).length
        + titlePlaceholders (scanEntries s) := by
  have hmarkup : (buildSkeleton plan s).placeholderCount
      = placeholdersIn (buildSkeleton plan s).markup := rfl
  have hafter : SealedMarkup tocAfterEntries :=
    (sealedMarkup_tocPieces _ (by simp [tocPieces])).1
  rw [hmarkup, markup_buildSkeleton, placeholdersIn_tocOpening,
    placeholdersIn_renderOpen _ hafter, Nat.add_assoc]

theorem placeholderCount_buildSkeleton (hplan : PlanAvoids placeholder plan)
    (htitles : ∀ e ∈ scanEntries s, ¬ placeholder <:+: e.title.toList) :
    (buildSkeleton plan s).placeholderCount = (linkedAnchors (scanEntries s)).length := by
  rw [placeholderCount_eq, planPlaceholders_eq_zero_iff.mpr hplan,
    titlePlaceholders_eq_zero_iff.mpr fun e he _ => htitles e he, Nat.zero_add, Nat.add_zero]

/-- **Filling the placeholders writes the page with numbers**, as long as there are as
many numbers as links. -/
theorem resolve_buildSkeleton (hplan : PlanAvoids placeholder plan)
    (htitles : ∀ e ∈ scanEntries s, ¬ placeholder <:+: e.title.toList) (actions : List Action) :
    (buildSkeleton plan s).resolve actions
      = if (linkedAnchors (scanEntries s)).length = (linkTargets actions).length then
          .ok (tocPage plan (String.join (renderLinked (scanEntries s) (linkTargets actions))))
        else .error ⟨(linkedAnchors (scanEntries s)).length, (linkTargets actions).length⟩ := by
  rw [Skeleton.resolve, placeholderCount_buildSkeleton hplan htitles]
  by_cases hlength : (linkedAnchors (scanEntries s)).length = (linkTargets actions).length
  · rw [if_pos hlength, if_pos hlength, markup_buildSkeleton,
      fillPlaceholders_renderOpen htitles hlength.symm (sealedMarkup_tocOpening hplan),
      String.ofList_toList, tocPage_eq, String.append_assoc]
  · rw [if_neg hlength, if_neg hlength]

end

end Kumihan.Book
