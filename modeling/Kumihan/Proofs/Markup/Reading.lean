import Kumihan.Markup.Directive
import Kumihan.Proofs.Text.Cut
import Kumihan.Proofs.Text.Line

/-!
# How a line is read

A line with the mark of a table of contents or with a reference to a glyph is read as that,
whatever else is on it.  On any other line the first `#` and the last one are brackets, and a
line without brackets names no command.

## Main definitions

* `HidesBrackets line` — the line is read without a look at its brackets.

## Main results

* `bracketed?_eq_some_iff` — what the brackets of a line hold.
* `nameAndArgument_eq_iff` — how that is cut into a name and an argument.
* `command_eq_iff` — **when a line is read as a command that it names.**
* `filterMap_ofLines` — what is read off the lines can be read off their directives.
* `pairwise_line_ofLines` — the numbers of directives grow from line to line.
-/

namespace Kumihan.Markup

open Kumihan.Text (cutAt? cutLast?)

/-! ### Brackets -/

section

variable {line inner name argument : List Char}

/-- **The brackets of a line** are its first `#` and its last one. -/
theorem bracketed?_eq_some_iff (hfeed : '\n' ∉ line) :
    bracketed? line = some inner
      ↔ ∃ before after, line = before ++ '#' :: (inner ++ '#' :: after)
        ∧ '#' ∉ before ∧ '#' ∉ after := by
  have hbetween : bracketed? line = betweenHashes? line := by
    rw [bracketed?, Text.splitOn_of_notMem hfeed]
    cases h : betweenHashes? line <;> simp [h]
  rw [hbetween, betweenHashes?]
  constructor
  · intro h
    obtain ⟨⟨before, rest⟩, hfirst, h⟩ := Option.bind_eq_some_iff.mp h
    obtain ⟨⟨inner', after⟩, hlast, h⟩ := Option.bind_eq_some_iff.mp h
    obtain rfl := Option.some.inj h
    obtain ⟨rfl, hbefore⟩ := Text.cutAt?_eq_some_iff.mp hfirst
    obtain ⟨rfl, hafter⟩ := Text.cutLast?_eq_some_iff.mp hlast
    exact ⟨before, after, rfl, hbefore, hafter⟩
  · rintro ⟨before, after, rfl, hbefore, hafter⟩
    simp [Text.cutAt?_append_cons hbefore, Text.cutLast?_append_cons hafter]

/-- A name ends at the first comma, or with the brackets. -/
theorem nameAndArgument_eq_iff (hname : ',' ∉ name) :
    nameAndArgument inner = (name, argument)
      ↔ inner = name ++ ',' :: argument ∨ inner = name ∧ argument = [] := by
  unfold nameAndArgument
  constructor
  · intro h
    cases hcut : cutAt? ',' inner with
    | none =>
      rw [hcut] at h
      obtain ⟨rfl, rfl⟩ := Prod.mk.inj h
      exact Or.inr ⟨rfl, rfl⟩
    | some p =>
      rw [hcut, Option.getD_some] at h
      rw [h] at hcut
      exact Or.inl (Text.cutAt?_eq_some_iff.mp hcut).1
  · rintro (rfl | ⟨rfl, rfl⟩)
    · rw [Text.cutAt?_append_cons hname, Option.getD_some]
    · rw [Text.cutAt?_of_notMem hname, Option.getD_none]

end

/-! ### Commands -/

theorem ofName?_eq_some_iff {name : String} {c : Command} :
    Command.ofName? name = some c ↔ c ∈ Command.written ∧ c.name = name := by
  constructor
  · intro h
    exact ⟨List.mem_of_find?_eq_some h, by simpa using List.find?_some h⟩
  · rintro ⟨hwritten, rfl⟩
    exact Command.ofName?_name hwritten

/-- The line is read without a look at its brackets. -/
def HidesBrackets (line : List Char) : Prop :=
  ['#', 't', 'o', 'c', '#'] <:+: line ∨ glyphMarker <:+: line

instance (line : List Char) : Decidable (HidesBrackets line) :=
  decidable_of_iff (Text.hasInfix ['#', 't', 'o', 'c', '#'] line = true
      ∨ Text.hasInfix glyphMarker line = true) <| by
    rw [HidesBrackets, Text.hasInfix_iff, Text.hasInfix_iff]

/-- The commands that only a name in brackets stands for. -/
def Command.IsNamed (c : Command) : Prop := c ∈ Command.written ∧ c ≠ .toc ∧ c ≠ .glyph

section

variable {line : List Char} {n : Int}

theorem ofLine_of_toc (h : ['#', 't', 'o', 'c', '#'] <:+: line) :
    Directive.ofLine line n = .ok { command := .toc, line := n } := by
  rw [Directive.ofLine, if_pos (Text.hasInfix_iff.mpr h)]

theorem ofLine_of_glyphMarker (htoc : ¬ ['#', 't', 'o', 'c', '#'] <:+: line)
    (h : glyphMarker <:+: line) : Directive.ofLine line n = .ok (glyphLine line n) := by
  rw [Directive.ofLine, if_neg (mt Text.hasInfix_iff.mp htoc), if_pos (Text.hasInfix_iff.mpr h)]

/-- **What is read from a line has its number**, a directive as well as a fault. -/
theorem line_eq_of_ofLine :
    (∀ d, Directive.ofLine line n = .ok d → d.line = n)
      ∧ ∀ fault, Directive.ofLine line n = .error fault → fault.line = n := by
  constructor
  all_goals
    intro read h
    unfold Directive.ofLine at h
    grind [glyphLine]

theorem command_of_hidesBrackets (h : HidesBrackets line) :
    ∃ d, Directive.ofLine line n = .ok d ∧ (d.command = .toc ∨ d.command = .glyph) := by
  by_cases htoc : ['#', 't', 'o', 'c', '#'] <:+: line
  · exact ⟨_, ofLine_of_toc htoc, Or.inl rfl⟩
  · exact ⟨_, ofLine_of_glyphMarker htoc (h.resolve_left htoc), Or.inr rfl⟩

/-- Brackets that are looked at are read as the command of their name. -/
theorem ofLine_of_bracketed {inner name argument : List Char} (hshows : ¬ HidesBrackets line)
    (hinner : bracketed? line = some inner)
    (hcut : nameAndArgument inner = (name, argument)) :
    Directive.ofLine line n = match Command.ofName? (String.ofList name) with
      | some c => .ok { command := c, argument := String.ofList argument, line := n }
      | none => .error { name := String.ofList name, line := n } := by
  unfold HidesBrackets at hshows
  rw [not_or, ← Text.hasInfix_iff, ← Text.hasInfix_iff] at hshows
  rw [Directive.ofLine, if_neg hshows.1, if_neg hshows.2]
  cases hname : Command.ofName? (String.ofList name) <;> simp only [hinner, hcut, hname]

/-- A line without brackets is a rule, empty or text. -/
theorem ofLine_of_not_bracketed (hshows : ¬ HidesBrackets line) (hinner : bracketed? line = none) :
    Directive.ofLine line n =
      if Text.hasInfix (List.replicate 10 '-') line then .ok { command := .pageBreak, line := n }
      else if line.isEmpty then .ok { command := .blank, line := n }
      else .ok { command := .text, argument := String.ofList line, line := n } := by
  unfold HidesBrackets at hshows
  rw [not_or, ← Text.hasInfix_iff, ← Text.hasInfix_iff] at hshows
  rw [Directive.ofLine, if_neg hshows.1, if_neg hshows.2, hinner]

/-- Without brackets there is no named command. -/
theorem command_of_not_bracketed (hshows : ¬ HidesBrackets line)
    (hinner : bracketed? line = none) :
    ∃ d, Directive.ofLine line n = .ok d ∧ d.command ∉ Command.written := by
  rw [ofLine_of_not_bracketed hshows hinner]
  split
  · exact ⟨_, rfl, show Command.pageBreak ∉ Command.written by decide⟩
  split
  · exact ⟨_, rfl, show Command.blank ∉ Command.written by decide⟩
  · exact ⟨_, rfl, show Command.text ∉ Command.written by decide⟩

/-- **When a line is read as a command that it names**, and with which argument: its brackets
are looked at, and hold the name. -/
theorem command_eq_iff {c : Command} (hc : c.IsNamed) {name : List Char}
    (hname : c.name = String.ofList name) {argument : List Char} {d : Directive}
    (hd : Directive.ofLine line n = .ok d) :
    d.command = c ∧ d.argument.toList = argument
      ↔ ¬ HidesBrackets line
        ∧ ∃ inner, bracketed? line = some inner ∧ nameAndArgument inner = (name, argument) := by
  obtain ⟨hwritten, htoc, hglyph⟩ := hc
  constructor
  · rintro ⟨rfl, rfl⟩
    have hshows : ¬ HidesBrackets line := by
      intro hhides
      obtain ⟨e, he, hcommand⟩ := command_of_hidesBrackets (n := n) hhides
      obtain rfl := Except.ok.inj (hd.symm.trans he)
      exact hcommand.elim htoc hglyph
    refine ⟨hshows, ?_⟩
    cases hinner : bracketed? line with
    | none =>
      obtain ⟨e, he, hcommand⟩ := command_of_not_bracketed (n := n) hshows hinner
      obtain rfl := Except.ok.inj (hd.symm.trans he)
      exact absurd hwritten hcommand
    | some inner =>
      have hline := ofLine_of_bracketed (n := n) hshows hinner rfl
      rw [hd] at hline
      split at hline
      · next c' hname' =>
        obtain rfl := Except.ok.inj hline
        have heq := (ofName?_eq_some_iff.mp hname').2
        refine ⟨inner, rfl, Prod.ext ?_ String.toList_ofList.symm⟩
        exact String.ofList_injective (heq.symm.trans hname)
      · contradiction
  · rintro ⟨hshows, inner, hinner, hcut⟩
    have hread : Command.ofName? (String.ofList name) = some c :=
      ofName?_eq_some_iff.mpr ⟨hwritten, hname⟩
    rw [ofLine_of_bracketed hshows hinner hcut, hread] at hd
    obtain rfl := Except.ok.inj hd
    exact ⟨rfl, String.toList_ofList⟩

end

/-! ### All lines -/

/-- What is read off every line can be read off the directives, if it can be for one line. -/
theorem filterMap_ofLines {α : Type} {f : List Char → Option α} {g : Directive → Option α}
    {ls : List (List Char)} {n : Int} {ds : List Directive}
    (hlines : Directive.ofLines ls n = (ds, none))
    (hline : ∀ l ∈ ls, ∀ k d, Directive.ofLine l k = .ok d → f l = g d) :
    ls.filterMap f = ds.filterMap g := by
  induction ls generalizing n ds with
  | nil =>
    obtain ⟨rfl, -⟩ := Prod.mk.inj hlines
    rfl
  | cons l ls ih =>
    rw [Directive.ofLines] at hlines
    cases hl : Directive.ofLine l n with
    | error fault =>
      rw [hl] at hlines
      simp at hlines
    | ok d =>
      rw [hl] at hlines
      obtain ⟨rfl, hfault⟩ := Prod.mk.inj hlines
      have hrest : Directive.ofLines ls (n + 1) = ((Directive.ofLines ls (n + 1)).1, none) := by
        rw [← hfault]
      rw [List.filterMap_cons, List.filterMap_cons, hline l List.mem_cons_self n d hl,
        ih hrest fun l' hl' => hline l' (List.mem_cons_of_mem l hl')]

/-- **The numbers of directives grow from line to line.** -/
theorem pairwise_line_ofLines (ls : List (List Char)) (n : Int) :
    (Directive.ofLines ls n).1.Pairwise (·.line < ·.line)
      ∧ ∀ d ∈ (Directive.ofLines ls n).1, n ≤ d.line := by
  induction ls generalizing n with
  | nil => exact ⟨.nil, nofun⟩
  | cons l ls ih =>
    obtain ⟨hpairwise, hbound⟩ := ih (n + 1)
    rw [Directive.ofLines]
    cases hl : Directive.ofLine l n with
    | error fault => exact ⟨.nil, nofun⟩
    | ok d =>
      have hd := line_eq_of_ofLine.1 d hl
      refine ⟨List.pairwise_cons.mpr ⟨fun e he => ?_, hpairwise⟩, fun e he => ?_⟩
      · have := hbound e he
        omega
      · rcases List.mem_cons.mp he with rfl | he
        · exact Int.le_of_eq hd.symm
        · have := hbound e he
          omega

end Kumihan.Markup
