import Kumihan.Proofs.Contents.Linking

/-!
# Pairing links with pages

A table of contents is resolved if it holds as many placeholders as there are linked pages.
Its placeholders are found as text, so a title or a field of the plan that holds the text of
one is counted and filled like a link.  Where none does, each link is paired with its page; and
only there, since every placeholder beside the links leaves one page without a link.

## Main results

* `resolve_paired` — **when the links of a resolved page are paired with the linked pages.**
* `exists_resolve_unpaired` — a page can be resolved whose links are not.
-/

namespace Kumihan.Book

/-! ### Entries without a link -/

/-- An entry without a link is an empty line. -/
theorem title_of_scanEntries {s : List Char} {e : TocEntry} (h : e ∈ scanEntries s)
    (hnumber : e.number = none) : e.title = "" := by
  rcases eq_of_mem_scanEntries h with rfl | ⟨name, number, afterword, -, rfl⟩
  · rfl
  · contradiction

/-- The placeholder stands in no title if it stands in none that a link is written with. -/
theorem titlePlaceholders_scanEntries_eq_zero_iff {s : List Char} :
    titlePlaceholders (scanEntries s) = 0
      ↔ ∀ e ∈ scanEntries s, ¬ placeholder <:+: e.title.toList := by
  rw [titlePlaceholders_eq_zero_iff]
  refine ⟨fun h e he => ?_, fun h e he _ => h e he⟩
  cases hnumber : e.number with
  | some number => exact h e he (by rw [hnumber]; rfl)
  | none =>
    rw [title_of_scanEntries he hnumber]
    simpa using placeholder_ne_nil

/-! ### Pairing -/

/-- A page is resolved exactly if it holds as many placeholders as there are linked pages. -/
theorem resolve_eq_ok_iff {skeleton : Skeleton} {actions : List Action} {page : String} :
    skeleton.resolve actions = .ok page
      ↔ skeleton.placeholderCount = (linkTargets actions).length
        ∧ page = String.ofList
            (fillPlaceholders skeleton.markup.toList (linkTargets actions)) := by
  rw [Skeleton.resolve]
  by_cases hlength : skeleton.placeholderCount = (linkTargets actions).length
  · rw [if_pos hlength, Except.ok.injEq, eq_comm]
    simp [hlength]
  · rw [if_neg hlength]
    simp [hlength]

/-- **When the links of a resolved page are paired with the linked pages.**  There is a link for
each linked page exactly if neither a field of the plan nor a title holds the text of a
placeholder.  The resolved page is then the table of contents with the numbers in its links, the
first in the first, and with the fields and titles as they were. -/
theorem resolve_paired {plan : BookPlan} {s : List Char} {actions : List Action} {page : String}
    (h : (buildSkeleton plan s).resolve actions = .ok page) :
    ((linkedAnchors (scanEntries s)).length = (linkTargets actions).length
        ↔ PlanAvoids placeholder plan
          ∧ ∀ e ∈ scanEntries s, ¬ placeholder <:+: e.title.toList)
      ∧ (PlanAvoids placeholder plan →
          (∀ e ∈ scanEntries s, ¬ placeholder <:+: e.title.toList) →
          page = tocPage plan
            (String.join (renderLinked (scanEntries s) (linkTargets actions)))) := by
  -- the placeholders are the links and those in the fields and titles
  have hcount := (resolve_eq_ok_iff.mp h).1
  rw [placeholderCount_eq] at hcount
  have hpaired : (linkedAnchors (scanEntries s)).length = (linkTargets actions).length
      ↔ PlanAvoids placeholder plan
        ∧ ∀ e ∈ scanEntries s, ¬ placeholder <:+: e.title.toList := by
    rw [← planPlaceholders_eq_zero_iff, ← titlePlaceholders_scanEntries_eq_zero_iff]
    omega
  refine ⟨hpaired, fun hplan htitles => ?_⟩
  rw [resolve_buildSkeleton hplan htitles, if_pos (hpaired.mpr ⟨hplan, htitles⟩)] at h
  exact (Except.ok.inj h).symm

theorem resolve_chapterOnly :
    ∃ page, (buildSkeleton slimPlan chapterOnly).resolve [{ kind := .titledBody }] = .ok page
      ∧ page = tocPage slimPlan
        "<p><a href=\"p-001.xhtml#mokuji-0001\" class=\"mokuji-0001\">A</a></p>\n" := by
  have htitles : ∀ e ∈ scanEntries chapterOnly, ¬ placeholder <:+: e.title.toList := by
    intro e he htitle
    have hlow := infix_of_mem_scanEntries he
    exact Text.not_infix_of_notMem lowLine_mem_placeholder readsAs_chapterOnly.noLowLine
      (htitle.trans hlow)
  obtain ⟨page, hpage⟩ : ∃ page,
      (buildSkeleton slimPlan chapterOnly).resolve [{ kind := .titledBody }] = .ok page := by
    rw [resolve_buildSkeleton planAvoids_slimPlan htitles, scanEntries_chapterOnly]
    exact ⟨_, rfl⟩
  refine ⟨page, hpage, ?_⟩
  rw [(resolve_paired hpage).2 planAvoids_slimPlan htitles, scanEntries_chapterOnly]
  decide +kernel

/-! ### A title that is taken for a link -/

/-- A text with one entry, whose title is the text of a placeholder. -/
def titleTakenForLink : List Char := unlines ["#toc-chapter,REPLACE_ME#"]

theorem scanEntries_titleTakenForLink :
    scanEntries titleTakenForLink = [{ number := some 1, title := "REPLACE_ME" }] := by
  unfold titleTakenForLink
  rw [unlines_cons, unlines_nil, scanEntries_eq_lines]
  decide +kernel

/-- **A page can be resolved though its links are not paired with the linked pages.**  The one
link is filled with the number of the first page, and the title with that of the second. -/
theorem exists_resolve_unpaired :
    ¬ ∀ (plan : BookPlan) (s : List Char) (actions : List Action) (page : String),
      (buildSkeleton plan s).resolve actions = .ok page →
      (linkedAnchors (scanEntries s)).length = (linkTargets actions).length := by
  intro h
  have htitle : placeholdersIn "REPLACE_ME" = 1 := by
    have hnil : ¬ placeholder <:+: [] := by simpa using placeholder_ne_nil
    have hcount := countOf_placeholder hnil []
    rwa [List.nil_append, List.append_nil, Text.countOf_eq_zero hnil] at hcount
  have hcount : (buildSkeleton slimPlan titleTakenForLink).placeholderCount = 2 := by
    rw [placeholderCount_eq, planPlaceholders_eq_zero_iff.mpr planAvoids_slimPlan,
      scanEntries_titleTakenForLink]
    simp [linkedAnchors, titlePlaceholders, htitle]
  have hpaired := h slimPlan titleTakenForLink [{ kind := .titledBody }, { kind := .titledBody }] _
    (resolve_eq_ok_iff.mpr ⟨hcount, rfl⟩)
  rw [scanEntries_titleTakenForLink] at hpaired
  contradiction

end Kumihan.Book
