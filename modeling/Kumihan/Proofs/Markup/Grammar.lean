import Kumihan.Proofs.Markup.Bracketed

/-!
# The grammar of a line

What a line asks for, said without a search: a line holds the mark of a table of contents, it
holds the opening of a reference to a glyph, it has two `#` with a name between them, or it has
fewer and is a rule of hyphens, empty or text.  The kinds are asked for in this order, so each of
them says of the line that it is none of those before it.

A line is read as exactly what the grammar says, and what is written in brackets is read back,
whatever stands in the argument.

## Main definitions

* `Brackets line inner` — `inner` stands between the first `#` of the line and the last one.
* `CutsAtComma inner name argument` — the first comma ends the name.
* `Reads n line` — the grammar: what the line with number `n` may be read as.

## Main results

* `exists_brackets_iff` — a line has brackets exactly if it has two `#`.
* `ofLine_eq_iff_reads` — **a line is read as the grammar says.**
* `reads_bracketedLine` — **a bracketed name is read with its whole argument.**
-/

namespace Kumihan.Markup

/-! ### Brackets and commas -/

/-- The text stands between the first `#` of the line and the last one. -/
def Brackets (line inner : List Char) : Prop :=
  ∃ before after, line = before ++ '#' :: (inner ++ '#' :: after) ∧ '#' ∉ before ∧ '#' ∉ after

/-- What stands in brackets is a name, which ends at the first comma, and an argument. -/
inductive CutsAtComma : List Char → List Char → List Char → Prop
  /-- The argument is all that stands behind the first comma. -/
  | comma {name argument : List Char} (h : ',' ∉ name) :
      CutsAtComma (name ++ ',' :: argument) name argument
  /-- Without a comma the argument is empty. -/
  | bare {name : List Char} (h : ',' ∉ name) : CutsAtComma name name []

section

variable {line inner name argument : List Char}

theorem bracketed?_eq_none_iff (hfeed : '\n' ∉ line) :
    bracketed? line = none ↔ ¬ ∃ inner, Brackets line inner := by
  rw [Option.eq_none_iff_forall_ne_some, not_exists]
  exact forall_congr' fun inner => not_congr (bracketed?_eq_some_iff hfeed)

/-- **A line has brackets exactly if it has two `#`.** -/
theorem exists_brackets_iff : (∃ inner, Brackets line inner) ↔ 2 ≤ line.count '#' := by
  constructor
  · rintro ⟨inner, before, after, rfl, -, -⟩
    simp only [List.count_append, List.count_cons_self]
    omega
  · intro hcount
    have hfirst : '#' ∈ line := List.count_pos_iff.mp (by omega)
    obtain ⟨before, rest, rfl, hbefore⟩ := List.eq_append_cons_of_mem hfirst
    rw [List.count_append, List.count_eq_zero_of_not_mem hbefore, List.count_cons_self] at hcount
    -- the second one is behind the first, and so is the last
    rcases Text.notMem_or_exists_last '#' rest with hnone | ⟨inner, after, rfl, hafter⟩
    · rw [List.count_eq_zero_of_not_mem hnone] at hcount
      omega
    · exact ⟨inner, before, after, rfl, hbefore, hafter⟩

/-- The cut at the first comma is the one that is made. -/
theorem nameAndArgument_eq_iff_cuts :
    nameAndArgument inner = (name, argument) ↔ CutsAtComma inner name argument := by
  constructor
  · intro h
    unfold nameAndArgument at h
    by_cases hcomma : ',' ∈ inner
    · obtain ⟨before, rest, rfl, hbefore⟩ := List.eq_append_cons_of_mem hcomma
      rw [Text.cutAt?_append_cons hbefore, Option.getD_some] at h
      obtain ⟨rfl, rfl⟩ := Prod.mk.inj h
      exact .comma hbefore
    · rw [Text.cutAt?_of_notMem hcomma, Option.getD_none] at h
      obtain ⟨rfl, rfl⟩ := Prod.mk.inj h
      exact .bare hcomma
  · rintro (hname | hname)
    · exact (nameAndArgument_eq_iff hname).mpr (Or.inl rfl)
    · exact (nameAndArgument_eq_iff hname).mpr (Or.inr ⟨rfl, rfl⟩)

end

/-! ### Lines -/

/-- **The grammar of a line**: what the line with number `n` may be read as. -/
inductive Reads (n : Int) (line : List Char) : Except UnknownDirective Directive → Prop
  /-- The mark of a table of contents comes before all else. -/
  | toc (h : ['#', 't', 'o', 'c', '#'] <:+: line) :
      Reads n line (.ok { command := .toc, line := n })
  /-- The opening of a reference makes a line of glyphs, even if the reference is not complete. -/
  | glyph (htoc : ¬ ['#', 't', 'o', 'c', '#'] <:+: line) (h : glyphMarker <:+: line) :
      Reads n line (.ok (glyphLine line n))
  /-- A name that a command has. -/
  | named {inner name argument : List Char} {c : Command} (hshows : ¬ HidesBrackets line)
      (hinner : Brackets line inner) (hcut : CutsAtComma inner name argument)
      (hwritten : c ∈ Command.written) (hname : c.name.toList = name) :
      Reads n line (.ok { command := c, argument := String.ofList argument, line := n })
  /-- A name that no command has. -/
  | unknown {inner name argument : List Char} (hshows : ¬ HidesBrackets line)
      (hinner : Brackets line inner) (hcut : CutsAtComma inner name argument)
      (hname : ∀ c ∈ Command.written, c.name.toList ≠ name) :
      Reads n line (.error { name := String.ofList name, line := n })
  /-- Ten hyphens in a row. -/
  | pageBreak (hshows : ¬ HidesBrackets line) (hcount : line.count '#' < 2)
      (h : List.replicate 10 '-' <:+: line) :
      Reads n line (.ok { command := .pageBreak, line := n })
  /-- Nothing at all. -/
  | blank (h : line = []) : Reads n line (.ok { command := .blank, line := n })
  /-- Whatever is left is text, and the whole of it is. -/
  | text (hshows : ¬ HidesBrackets line) (hcount : line.count '#' < 2)
      (hrule : ¬ List.replicate 10 '-' <:+: line) (hne : line ≠ []) :
      Reads n line (.ok { command := .text, argument := String.ofList line, line := n })

section

variable {line : List Char} {n : Int}

theorem ofName?_eq_none_iff {name : List Char} :
    Command.ofName? (String.ofList name) = none
      ↔ ∀ c ∈ Command.written, c.name.toList ≠ name := by
  rw [Option.eq_none_iff_forall_ne_some]
  constructor
  · intro h c hwritten hname
    refine h c (ofName?_eq_some_iff.mpr ⟨hwritten, ?_⟩)
    rw [← hname, String.ofList_toList]
  · intro h c hread
    obtain ⟨hwritten, hname⟩ := ofName?_eq_some_iff.mp hread
    exact h c hwritten (by rw [hname, String.toList_ofList])

theorem bracketed?_of_count (hfeed : '\n' ∉ line) (hcount : line.count '#' < 2) :
    bracketed? line = none := by
  rw [bracketed?_eq_none_iff hfeed, exists_brackets_iff]
  omega

/-- Every line is read as something that the grammar allows. -/
theorem reads_ofLine (hfeed : '\n' ∉ line) (n : Int) : Reads n line (Directive.ofLine line n) := by
  by_cases htoc : ['#', 't', 'o', 'c', '#'] <:+: line
  · rw [ofLine_of_toc htoc]
    exact .toc htoc
  by_cases hglyph : glyphMarker <:+: line
  · rw [ofLine_of_glyphMarker htoc hglyph]
    exact .glyph htoc hglyph
  have hshows : ¬ HidesBrackets line := not_or.mpr ⟨htoc, hglyph⟩
  cases hinner : bracketed? line with
  | some inner =>
    have hbrackets : Brackets line inner := (bracketed?_eq_some_iff hfeed).mp hinner
    have hcut : CutsAtComma inner _ _ := nameAndArgument_eq_iff_cuts.mp rfl
    rw [ofLine_of_bracketed hshows hinner rfl]
    split
    · next c hname =>
      obtain ⟨hwritten, hname⟩ := ofName?_eq_some_iff.mp hname
      exact .named hshows hbrackets hcut hwritten (by rw [hname, String.toList_ofList])
    · next hname => exact .unknown hshows hbrackets hcut (ofName?_eq_none_iff.mp hname)
  | none =>
    have hcount : line.count '#' < 2 := by
      rwa [bracketed?_eq_none_iff hfeed, exists_brackets_iff, Nat.not_le] at hinner
    rw [ofLine_of_not_bracketed hshows hinner]
    split
    · next hrule => exact .pageBreak hshows hcount (Text.hasInfix_iff.mp hrule)
    split
    · next hempty => exact .blank (List.isEmpty_iff.mp hempty)
    · next hrule hempty =>
      rw [Text.hasInfix_iff] at hrule
      rw [List.isEmpty_iff] at hempty
      exact .text hshows hcount hrule hempty

/-- The grammar allows nothing else. -/
theorem Reads.eq_ofLine {r : Except UnknownDirective Directive} (h : Reads n line r)
    (hfeed : '\n' ∉ line) : Directive.ofLine line n = r := by
  cases h with
  | toc htoc => exact ofLine_of_toc htoc
  | glyph htoc hglyph => exact ofLine_of_glyphMarker htoc hglyph
  | named hshows hinner hcut hwritten hname =>
    have hread := ofLine_of_bracketed (n := n) hshows ((bracketed?_eq_some_iff hfeed).mpr hinner)
      (nameAndArgument_eq_iff_cuts.mpr hcut)
    rw [hread, ← hname, String.ofList_toList, Command.ofName?_name hwritten]
  | unknown hshows hinner hcut hname =>
    have hread := ofLine_of_bracketed (n := n) hshows ((bracketed?_eq_some_iff hfeed).mpr hinner)
      (nameAndArgument_eq_iff_cuts.mpr hcut)
    rw [hread, ofName?_eq_none_iff.mpr hname]
  | pageBreak hshows hcount hrule =>
    rw [ofLine_of_not_bracketed hshows (bracketed?_of_count hfeed hcount),
      if_pos (Text.hasInfix_iff.mpr hrule)]
  | blank hempty =>
    subst hempty
    rfl
  | text hshows hcount hrule hne =>
    rw [← Text.hasInfix_iff] at hrule
    rw [ne_eq, ← List.isEmpty_iff] at hne
    rw [ofLine_of_not_bracketed hshows (bracketed?_of_count hfeed hcount), if_neg hrule, if_neg hne]

end

/-! ### Bracketed names -/

theorem comma_notMem_name {c : Command} (h : c ∈ Command.written) : ',' ∉ c.name.toList := by
  revert c
  decide

example : Command.written.length = 16 ∧ (Command.written.map Command.name).Nodup := by decide

/-- **A bracketed name is read with its whole argument**, whatever `#` and commas the argument
holds: the brackets are the outermost `#`, and the first comma is the one behind the name. -/
theorem reads_bracketedLine {c : Command} (hwritten : c ∈ Command.written) {argument : List Char}
    (n : Int) (hshows : ¬ HidesBrackets (bracketedLine c.name.toList argument)) :
    Reads n (bracketedLine c.name.toList argument)
      (.ok { command := c, argument := String.ofList argument, line := n }) := by
  have hinner : Brackets (bracketedLine c.name.toList argument)
      (c.name.toList ++ ',' :: argument) :=
    ⟨[], [], by simp [bracketedLine], List.not_mem_nil, List.not_mem_nil⟩
  exact .named hshows hinner (.comma (comma_notMem_name hwritten)) hwritten rfl

/-- **A line is read as the grammar says**, and as nothing else.  So a name in brackets is read
back with the argument that is written behind it. -/
theorem ofLine_eq_iff_reads :
    (∀ (line : List Char) (n : Int), '\n' ∉ line →
      ∀ r, Directive.ofLine line n = r ↔ Reads n line r)
      ∧ ∀ c ∈ Command.written, ∀ (argument : List Char) (n : Int),
        '\n' ∉ bracketedLine c.name.toList argument →
          ¬ HidesBrackets (bracketedLine c.name.toList argument) →
            Directive.ofLine (bracketedLine c.name.toList argument) n
              = .ok { command := c, argument := String.ofList argument, line := n } := by
  constructor
  · intro line n hfeed r
    constructor
    · rintro rfl
      exact reads_ofLine hfeed n
    · intro hreads
      exact hreads.eq_ofLine hfeed
  · intro c hwritten argument n hfeed hshows
    exact (reads_bracketedLine hwritten n hshows).eq_ofLine hfeed

/-- A signature with a `#` and a comma in it: both stay in the argument. -/
theorem ofLine_signature :
    Directive.ofLine (bracketedLine Command.fill.name.toList ['a', '#', 'b', ',', 'c']) 7
        = .ok { command := .fill, argument := String.ofList ['a', '#', 'b', ',', 'c'], line := 7 }
      ∧ Reads 7 (bracketedLine Command.fill.name.toList ['a', '#', 'b', ',', 'c'])
        (.ok { command := .fill, argument := String.ofList ['a', '#', 'b', ',', 'c'], line := 7 })
    := by
  have hread := ofLine_eq_iff_reads.2 .fill (by decide) ['a', '#', 'b', ',', 'c'] 7 (by decide)
    (by decide)
  exact ⟨hread, (ofLine_eq_iff_reads.1 _ 7 (by decide) _).mp hread⟩

end Kumihan.Markup
