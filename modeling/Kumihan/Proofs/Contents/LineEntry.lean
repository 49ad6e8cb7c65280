import Kumihan.Proofs.Contents.Scan
import Kumihan.Proofs.Markup.Reading
import Kumihan.Proofs.Text.Count

/-!
# The entry that a line declares

The entries of a table of contents are searched for in the whole text, while its lines are read
as directives.  A line is searched for the same entry that it is read as, unless something else
on it is in the way: a mark that is looked for before any brackets, a `#` before the marker, or
brackets around a name without a comma.

## Main definitions

* `argumentFor? command d` — the argument of a directive with a command.
* `Names name c` — a name that can stand in a marker, and its command.
* `ReadAlike name line` — nothing on the line is in the way of a name.
* `DeclaresAlike line` — nothing on it is in the way of an entry or of the afterword.

## Main results

* `nameOn?_eq_argumentFor?_iff` — **when a line is searched for what it is read as.**
* `markedNames_of_declaresAlike` — the names in a text are the arguments of its directives.
-/

namespace Kumihan.Book

open Kumihan.Markup

/-! ### Names and arguments -/

/-- The argument of a directive, if it has this command. -/
def argumentFor? (command : Command) (d : Directive) : Option (List Char) :=
  if d.command = command then some d.argument.toList else none

theorem argumentFor?_eq_some_iff {command : Command} {d : Directive} {title : List Char} :
    argumentFor? command d = some title ↔ d.command = command ∧ d.argument.toList = title := by
  unfold argumentFor?
  by_cases h : d.command = command <;> simp [h]

/-- A name that can stand in a marker, and the command that it stands for in brackets. -/
structure Names (name : List Char) (c : Command) : Prop where
  noHash : '#' ∉ name
  noComma : ',' ∉ name
  named : c.IsNamed
  name_eq : c.name = String.ofList name

theorem Names.hash_notMem {name : List Char} {c : Command} (h : Names name c) :
    '#' ∉ name ++ [','] := by
  simp [h.noHash]

/-- The name of the command that declares an entry. -/
def entryName : List Char := ['t', 'o', 'c', '-', 'c', 'h', 'a', 'p', 't', 'e', 'r']

/-- The name of the command that opens the afterword. -/
def afterwordName : List Char := ['a', 't', 'o', 'g', 'a', 'k', 'i']

theorem names_entryName : Names entryName .tocChapter := by
  constructor
  case named => exact ⟨by decide, by decide, by decide⟩
  all_goals decide

theorem names_afterwordName : Names afterwordName .afterword := by
  constructor
  case named => exact ⟨by decide, by decide, by decide⟩
  all_goals decide

theorem entryMarker_eq : entryMarker = '#' :: (entryName ++ [',']) := String.toList_ofList

theorem afterwordMarker_eq : afterwordMarker = '#' :: (afterwordName ++ [',']) :=
  String.toList_ofList

/-! ### One line -/

/-- The name that a marker marks on a line begins behind the first marker, and the last `#` of
the line ends it. -/
theorem nameOn?_eq_some_iff {m line title : List Char} (hm : '#' ∉ m) :
    nameOn? ('#' :: m) line = some title
      ↔ ∃ before after, line = before ++ ('#' :: m ++ (title ++ '#' :: after))
        ∧ ¬ '#' :: m <:+: before ∧ '#' ∉ after := by
  constructor
  · intro h
    obtain ⟨⟨before, rest⟩, hcut, h⟩ := Option.bind_eq_some_iff.mp h
    obtain ⟨⟨title, after⟩, hlast, rfl⟩ := Option.map_eq_some_iff.mp h
    obtain ⟨rfl, hbefore⟩ := (Text.cut?_eq_some_iff hm).mp hcut
    obtain ⟨rfl, hafter⟩ := Text.cutLast?_eq_some_iff.mp hlast
    exact ⟨before, after, rfl, hbefore, hafter⟩
  · rintro ⟨before, after, rfl, hbefore, hafter⟩
    rw [nameOn?, Text.cut?_append hm hbefore]
    simp [Text.cutLast?_append_cons hafter]

/-- Nothing on the line is in the way of a name.  If the first marker with that name is closed
by a `#` behind it, no `#` stands before it, and the brackets of the line are looked at; and
brackets that are looked at do not hold the name alone. -/
def ReadAlike (name line : List Char) : Prop :=
  (∀ cut ∈ Text.cut? ('#' :: (name ++ [','])) line,
      '#' ∈ cut.2 → '#' ∉ cut.1 ∧ ¬ HidesBrackets line)
    ∧ (bracketed? line = some name → HidesBrackets line)

instance (name line : List Char) : Decidable (ReadAlike name line) :=
  inferInstanceAs (Decidable ((∀ cut ∈ Text.cut? _ line, _) ∧ _))

section

variable {name line : List Char} {c : Command} (h : Names name c) {n : Int} {d : Directive}

include h

/-- What a line is read as, by what its brackets hold. -/
theorem argumentFor?_eq_some_iff_bracketed (hd : Directive.ofLine line n = .ok d)
    {title : List Char} :
    argumentFor? c d = some title
      ↔ ¬ HidesBrackets line
        ∧ (bracketed? line = some (name ++ ',' :: title)
          ∨ bracketed? line = some name ∧ title = []) := by
  rw [argumentFor?_eq_some_iff, command_eq_iff h.named h.name_eq hd]
  constructor
  · rintro ⟨hshows, inner, hinner, hcut⟩
    rcases (nameAndArgument_eq_iff h.noComma).mp hcut with rfl | ⟨rfl, rfl⟩
    · exact ⟨hshows, Or.inl hinner⟩
    · exact ⟨hshows, Or.inr ⟨hinner, rfl⟩⟩
  · rintro ⟨hshows, hinner | ⟨hinner, rfl⟩⟩
    · exact ⟨hshows, _, hinner, (nameAndArgument_eq_iff h.noComma).mpr (Or.inl rfl)⟩
    · exact ⟨hshows, _, hinner, (nameAndArgument_eq_iff h.noComma).mpr (Or.inr ⟨rfl, rfl⟩)⟩

/-- A line whose brackets hold a name alone has no marker that is closed. -/
theorem nameOn?_of_bracketed_name (hfeed : '\n' ∉ line) (hinner : bracketed? line = some name) :
    nameOn? ('#' :: (name ++ [','])) line = none := by
  obtain ⟨b, a, hline, hb, ha⟩ := (bracketed?_eq_some_iff hfeed).mp hinner
  cases hfound : nameOn? ('#' :: (name ++ [','])) line with
  | none => rfl
  | some title =>
    obtain ⟨before, after, hline', -, -⟩ := (nameOn?_eq_some_iff h.hash_notMem).mp hfound
    -- the line has two `#` only, so the marker begins at the first of them
    have hcount : line.count '#' = 2 := by
      simp [hline, List.count_eq_zero.mpr hb, List.count_eq_zero.mpr ha,
        List.count_eq_zero.mpr h.noHash]
    have hcount' : line.count '#' = before.count '#' + title.count '#' + after.count '#' + 2 := by
      simp [hline', List.count_eq_zero.mpr h.noHash]
      omega
    have hbefore : '#' ∉ before := List.count_eq_zero.mp (by omega)
    obtain ⟨-, hrest⟩ := Text.cut_unique hb hbefore
      (hline.symm.trans (hline'.trans (by rw [List.cons_append])))
    rw [List.append_assoc, List.append_cancel_left_eq, List.singleton_append,
      List.cons.injEq] at hrest
    exact absurd hrest.1 (by decide)

/-- What a line is searched for and read as alike has nothing in its way. -/
theorem readAlike_of_eq (hfeed : '\n' ∉ line) (hd : Directive.ofLine line n = .ok d)
    (hsame : nameOn? ('#' :: (name ++ [','])) line = argumentFor? c d) : ReadAlike name line := by
  constructor
  · rintro ⟨before, body⟩ hcut hclosed
    obtain ⟨title, after, rfl, hafter⟩ :=
      (Text.notMem_or_exists_last '#' body).resolve_left (absurd hclosed)
    have hstands := (Text.cut?_eq_some_iff h.hash_notMem).mp hcut
    have hfound : nameOn? ('#' :: (name ++ [','])) line = some title :=
      (nameOn?_eq_some_iff h.hash_notMem).mpr ⟨before, after, hstands.1, hstands.2, hafter⟩
    obtain ⟨hshows, hinner | ⟨hinner, -⟩⟩ :=
      (argumentFor?_eq_some_iff_bracketed h hd).mp (hsame.symm.trans hfound)
    · -- the brackets hold the marker, so theirs is the first one
      obtain ⟨b, a, hline, hb, -⟩ := (bracketed?_eq_some_iff hfeed).mp hinner
      have havoids : ¬ '#' :: (name ++ [',']) <:+: b :=
        Text.not_infix_of_notMem List.mem_cons_self hb
      have hfirst := Text.cut?_append h.hash_notMem havoids (title ++ '#' :: a)
      have heq : line = b ++ ('#' :: (name ++ [',']) ++ (title ++ '#' :: a)) := by simp [hline]
      rw [← heq, hcut, Option.some.injEq, Prod.mk.injEq] at hfirst
      exact ⟨hfirst.1 ▸ hb, hshows⟩
    · rw [nameOn?_of_bracketed_name h hfeed hinner] at hfound
      contradiction
  · intro hinner
    refine Decidable.byContradiction fun hshows => ?_
    have hempty : argumentFor? c d = some [] :=
      (argumentFor?_eq_some_iff_bracketed h hd).mpr
        ⟨hshows, Or.inr ⟨hinner, rfl⟩⟩
    rw [← hsame, nameOn?_of_bracketed_name h hfeed hinner] at hempty
    contradiction

/-- **A line is searched for what it is read as** exactly if nothing on it is in the way. -/
theorem nameOn?_eq_argumentFor?_iff (hfeed : '\n' ∉ line) (hd : Directive.ofLine line n = .ok d) :
    nameOn? ('#' :: (name ++ [','])) line = argumentFor? c d ↔ ReadAlike name line := by
  refine ⟨readAlike_of_eq h hfeed hd, ?_⟩
  rintro ⟨hclosed, halone⟩
  -- an equation of options: each side gives a title exactly if the other one does
  refine Option.ext fun title => ?_
  rw [nameOn?_eq_some_iff h.hash_notMem, argumentFor?_eq_some_iff_bracketed h hd]
  constructor
  · rintro ⟨before, after, hline, havoids, hafter⟩
    have hcut := Text.cut?_append h.hash_notMem havoids (title ++ '#' :: after)
    rw [← hline] at hcut
    obtain ⟨hbefore, hshows⟩ := hclosed _ hcut (by simp)
    refine ⟨hshows, Or.inl ?_⟩
    exact (bracketed?_eq_some_iff hfeed).mpr ⟨before, after, by simp [hline], hbefore, hafter⟩
  · rintro ⟨hshows, hinner | ⟨hinner, -⟩⟩
    · -- brackets around the marker are found by the search
      obtain ⟨before, after, hline, hbefore, hafter⟩ := (bracketed?_eq_some_iff hfeed).mp hinner
      exact ⟨before, after, by simp [hline],
        Text.not_infix_of_notMem List.mem_cons_self hbefore, hafter⟩
    · exact absurd (halone hinner) hshows

/-- Nothing is in the way of a name that is neither marked on the line nor read off it. -/
theorem readAlike_of_command_ne (hmarker : ¬ '#' :: (name ++ [',']) <:+: line)
    (hne : ∀ d, Directive.ofLine line n = .ok d → d.command ≠ c) : ReadAlike name line := by
  constructor
  · rintro ⟨before, body⟩ hcut -
    exact absurd ⟨before, body, (Text.cut?_eq_append hcut).symm⟩ hmarker
  · -- brackets around the name alone would be read as its command
    intro hinner
    refine Decidable.byContradiction fun hshows => ?_
    have hread : Command.ofName? (String.ofList name) = some c :=
      ofName?_eq_some_iff.mpr ⟨h.named.1, h.name_eq⟩
    have hd := ofLine_of_bracketed (n := n) hshows hinner
      ((nameAndArgument_eq_iff h.noComma).mpr (Or.inr ⟨rfl, rfl⟩))
    rw [hread] at hd
    exact hne _ hd rfl

end

/-- Nothing on the line is in the way of an entry or of the afterword. -/
def DeclaresAlike (line : List Char) : Prop :=
  ReadAlike entryName line ∧ ReadAlike afterwordName line

instance (line : List Char) : Decidable (DeclaresAlike line) :=
  inferInstanceAs (Decidable (_ ∧ _))

/-- What is declared on a line, as it is searched and as it is read. -/
theorem declaresAlike_iff {line : List Char} (hfeed : '\n' ∉ line) {n : Int} {d : Directive}
    (hd : Directive.ofLine line n = .ok d) :
    DeclaresAlike line
      ↔ nameOn? entryMarker line = argumentFor? .tocChapter d
        ∧ nameOn? afterwordMarker line = argumentFor? .afterword d := by
  rw [entryMarker_eq, afterwordMarker_eq, nameOn?_eq_argumentFor?_iff names_entryName hfeed hd,
    nameOn?_eq_argumentFor?_iff names_afterwordName hfeed hd]
  rfl

/-! ### All lines -/

/-- **The names in a text are the arguments of the directives that are read off it**, if nothing
on its lines is in their way. -/
theorem markedNames_of_declaresAlike {s : List Char} (hlexes : (Directive.ofText s).2 = none)
    (halike : ∀ line ∈ Text.lines s, DeclaresAlike line) :
    markedNames entryMarker s = (Directive.ofText s).1.filterMap (argumentFor? .tocChapter)
      ∧ markedNames afterwordMarker s
        = (Directive.ofText s).1.filterMap (argumentFor? .afterword) := by
  have hlines : Directive.ofLines (Text.lines s) 1 = ((Directive.ofText s).1, none) := by
    rw [← hlexes]
    rfl
  have hread : ∀ line ∈ Text.lines s, ∀ n d, Directive.ofLine line n = .ok d →
      nameOn? entryMarker line = argumentFor? .tocChapter d
        ∧ nameOn? afterwordMarker line = argumentFor? .afterword d := fun line hline n d hd =>
    (declaresAlike_iff (Text.notMem_of_mem_lines hline) hd).mp (halike line hline)
  rw [markedNames_eq_filterMap_lines isMarker_entryMarker,
    markedNames_eq_filterMap_lines isMarker_afterwordMarker]
  exact ⟨filterMap_ofLines hlines fun line hline n d hd => (hread line hline n d hd).1,
    filterMap_ofLines hlines fun line hline n d hd => (hread line hline n d hd).2⟩

end Kumihan.Book
