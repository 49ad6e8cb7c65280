import Kumihan.Proofs.Compositor.Refinement
import Kumihan.Proofs.Placement.Files

/-!
# What directives make where they stand

The pages of text are made at the boundaries; every other action is made by one directive where
it stands.  So the actions of a kind that holds no text can be read off the directives one by
one.

## Main definitions

* `singleKind?` — the kind of the page that a command makes, if it can occur once.

## Main results

* `filter_actions` — **the actions that hold no text are those that the directives make where they
  stand.**
* `layout_composeDirectives_iff` — **the pages of a manuscript can be placed exactly if none of
  three commands is given twice.**
-/

namespace Kumihan.Book

open Kumihan.Markup

/-! ### Actions without text -/

/-- **The actions that hold no text** are those that the directives make where they stand.  The
induction is on the directives, of which the last one gains its actions. -/
theorem filter_actions {p : Action → Bool} (hp : ∀ a, a.kind.holdsText = true → p a = false)
    (ds : List Directive) :
    (composeDirectives ds).actions.filter p = (ds.flatMap marks).filter p := by
  rw [(actions_eq_manuscript ds).1]
  induction ds using List.reverseRecOn with
  | nil => rfl
  | append_singleton ds d ih =>
    have hpage : (if d.command.isBoundary then
        ((Manuscript.ofDirectives ds).nextPage? d).toList else []).filter p = [] := by
      refine List.filter_eq_nil_iff.mpr fun a ha => ?_
      split at ha
      · have hmade := Option.mem_toList.mp ha
        simp [hp a (Segment.holdsText_content_of_page? hmade).1]
      · contradiction
    rw [Manuscript.ofDirectives_concat, Manuscript.actions, Manuscript.sheets_add, List.map_append,
      ← Manuscript.actions, Manuscript.map_action_gain, List.filter_append, List.filter_append, ih,
      hpage, List.nil_append, List.flatMap_append, List.filter_append, List.flatMap_singleton]

/-! ### Pages that can occur once -/

/-- The kind of the page that a command makes, if it can occur once. -/
def singleKind? : Command → Option ActionKind
  | .toc => some .toc
  | .titlePage => some .titlePage
  | .colophon => some .colophonImage
  | _ => none

/-- The commands that may be given once. -/
def singleCommands : List Command := [.toc, .titlePage, .colophon]

theorem countP_marks {kind : ActionKind} (h : kind.isSingle = true) (d : Directive) :
    (marks d).countP (·.kind = kind) = if singleKind? d.command = some kind then 1 else 0 := by
  have hglyph : kind ≠ .glyphImage := by
    rintro rfl
    contradiction
  have himages : kind ≠ .image ∧ kind ≠ .prefaceImage := by
    constructor <;> (rintro rfl; contradiction)
  unfold marks singleKind?
  cases d.command with
  | glyph => simp [List.countP_eq_zero, hglyph.symm]
  | image => simp [himages.1.symm]
  | prefaceImage => simp [himages.2.symm]
  | _ => simp [List.countP_cons]

/-- **A page that can occur once** is made as often as its command is given. -/
theorem countP_actions {kind : ActionKind} (h : kind.isSingle = true) (ds : List Directive) :
    (composeDirectives ds).actions.countP (·.kind = kind)
      = ds.countP (fun d => singleKind? d.command = some kind) := by
  have htext : ∀ a : Action, a.kind.holdsText = true → decide (a.kind = kind) = false := by
    intro a ha
    rw [decide_eq_false_iff_not]
    rintro rfl
    revert ha h
    cases a.kind <;> simp [ActionKind.holdsText, ActionKind.isSingle, fixedFile?]
  rw [List.countP_eq_length_filter, filter_actions htext, ← List.countP_eq_length_filter]
  induction ds with
  | nil => rfl
  | cons d ds ih =>
    rw [List.flatMap_cons, List.countP_append, countP_marks h, ih, List.countP_cons, Nat.add_comm]
    simp only [decide_eq_true_eq]

/-- **The pages of a manuscript can be placed exactly if** each of the commands for a page that
can occur once is given once at most. -/
theorem layout_composeDirectives_iff {ds : List Directive} :
    (∃ ps, layout (composeDirectives ds).actions = .ok ps)
      ↔ ∀ command ∈ singleCommands, ds.countP (·.command = command) ≤ 1 := by
  rw [layout_eq_ok_iff]
  -- each of the three kinds is made by the command of its page and by no other
  have hcount (kind : ActionKind) (command : Command) (hsingle : kind.isSingle = true)
      (h : ∀ c, singleKind? c = some kind ↔ c = command) :
      (composeDirectives ds).actions.countP (·.kind = kind)
        = ds.countP (·.command = command) := by
    rw [countP_actions hsingle]
    simp only [h]
  have htoc := hcount .toc .toc rfl fun c => by cases c <;> decide
  have htitle := hcount .titlePage .titlePage rfl fun c => by cases c <;> decide
  have hcolophon := hcount .colophonImage .colophon rfl fun c => by cases c <;> decide
  constructor
  · intro h command hcommand
    simp only [singleCommands, List.mem_cons, List.not_mem_nil, or_false] at hcommand
    rcases hcommand with rfl | rfl | rfl
    · exact htoc ▸ h .toc rfl
    · exact htitle ▸ h .titlePage rfl
    · exact hcolophon ▸ h .colophonImage rfl
  · intro h kind hsingle
    cases kind with
    | toc => exact htoc ▸ h .toc (by decide)
    | titlePage => exact htitle ▸ h .titlePage (by decide)
    | colophonImage => exact hcolophon ▸ h .colophon (by decide)
    | _ => contradiction

end Kumihan.Book
