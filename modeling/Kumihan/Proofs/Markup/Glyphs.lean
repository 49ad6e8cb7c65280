import Kumihan.Proofs.Markup.Reading
import Kumihan.Proofs.Text.Occurrence

/-!
# References to glyphs

A line that refers to glyphs is read from the left, and every complete reference on it is set as
a picture.  What is set holds no complete reference: a picture has no `#` in it, and what opens a
reference but does not complete one has no further `#` behind it.

## Main definitions

* `RefersToGlyph s` — somewhere in `s` a complete reference stands.
* `Directive.IsSet` — no reference is left in a directive.

## Main results

* `refersToGlyph_iff` — **the references of a text are those that are read.**
* `not_refersToGlyph_setPieces` — **a line that is set refers to no glyph.**
* `isSet_of_ofLine` — nor does any directive, once it is read.
* `mem_glyphs_of_ofLine` — a directive names every glyph that its line is set with.
-/

namespace Kumihan.Markup

open Kumihan.Text (cutAt?)

/-- Somewhere in the text stands a complete reference to a glyph. -/
def RefersToGlyph (s : List Char) : Prop :=
  ∃ name, '#' ∉ name ∧ '\n' ∉ name ∧ glyphMarker ++ name ++ ['#'] <:+: s

/-! ### References in parts of a text -/

section

variable {s t x y : List Char}

theorem RefersToGlyph.mono (h : RefersToGlyph s) (hst : s <:+: t) : RefersToGlyph t := by
  obtain ⟨name, hhash, hfeed, hoccurs⟩ := h
  exact ⟨name, hhash, hfeed, hoccurs.trans hst⟩

theorem RefersToGlyph.marker_occurs (h : RefersToGlyph s) : glyphMarker <:+: s := by
  obtain ⟨name, -, -, hoccurs⟩ := h
  rw [List.append_assoc] at hoccurs
  exact (List.prefix_append _ _).isInfix.trans hoccurs

@[simp] theorem not_refersToGlyph_nil : ¬ RefersToGlyph [] := by
  rintro ⟨name, -, -, hoccurs⟩
  simp at hoccurs

/-- No reference begins in a text without `#`. -/
theorem refersToGlyph_append_right (h : '#' ∉ x) : RefersToGlyph (x ++ y) ↔ RefersToGlyph y := by
  unfold RefersToGlyph
  simp only [glyphMarker, List.cons_append, Text.cons_infix_append_iff h]

/-- No reference ends in a text without `#`. -/
theorem refersToGlyph_append_left (h : '#' ∉ y) : RefersToGlyph (x ++ y) ↔ RefersToGlyph x := by
  unfold RefersToGlyph
  simp only [Text.concat_infix_append_iff h]

/-- No reference goes on behind the end of a line. -/
theorem refersToGlyph_append_cons :
    RefersToGlyph (x ++ '\n' :: y) ↔ RefersToGlyph x ∨ RefersToGlyph y := by
  have hparts : ∀ name, '\n' ∉ name → (glyphMarker ++ name ++ ['#'] <:+: x ++ '\n' :: y
      ↔ glyphMarker ++ name ++ ['#'] <:+: x ∨ glyphMarker ++ name ++ ['#'] <:+: y) := by
    intro name hfeed
    refine Text.infix_append_cons_iff (by simp) ?_
    rw [List.mem_append, List.mem_append, not_or, not_or]
    exact ⟨⟨by decide, hfeed⟩, by decide⟩
  constructor
  · rintro ⟨name, hhash, hfeed, hoccurs⟩
    rcases (hparts name hfeed).mp hoccurs with hoccurs | hoccurs
    · exact Or.inl ⟨name, hhash, hfeed, hoccurs⟩
    · exact Or.inr ⟨name, hhash, hfeed, hoccurs⟩
  · rintro (h | h)
    · exact h.mono (List.prefix_append x _).isInfix
    · exact h.mono ((List.suffix_cons '\n' y).trans (List.suffix_append x _)).isInfix

end

/-! ### Pieces -/

section

variable {s name rest : List Char}

/-- **The reference that a text begins with** is complete, and stays on its line. -/
theorem glyphReference?_eq_some_iff :
    glyphReference? s = some (name, rest)
      ↔ s = glyphMarker ++ name ++ '#' :: rest ∧ '#' ∉ name ∧ '\n' ∉ name := by
  constructor
  · intro h
    unfold glyphReference? at h
    split at h
    · next hmarker =>
      split at h
      · next hcut =>
        obtain ⟨hfeed, hread⟩ := Option.ite_none_left_eq_some.mp h
        obtain ⟨rfl, rfl⟩ := Prod.mk.inj (Option.some.inj hread)
        obtain ⟨hbehind, hhash⟩ := Text.cutAt?_eq_some_iff.mp hcut
        refine ⟨?_, hhash, hfeed⟩
        rw [List.append_assoc, ← hbehind]
        exact List.prefix_iff_eq_append.mp (List.isPrefixOf_iff_prefix.mp hmarker) |>.symm
      · contradiction
    · contradiction
  · rintro ⟨rfl, hhash, hfeed⟩
    have hmarker : glyphMarker.isPrefixOf (glyphMarker ++ name ++ '#' :: rest) = true := by
      rw [List.append_assoc]
      exact List.isPrefixOf_iff_prefix.mpr (List.prefix_append _ _)
    rw [glyphReference?, if_pos hmarker, List.append_assoc, List.drop_left,
      Text.cutAt?_append_cons hhash]
    exact if_neg hfeed

theorem glyphReference?_cons_of_ne {c : Char} (h : c ≠ '#') : glyphReference? (c :: s) = none := by
  rw [Option.eq_none_iff_forall_ne_some]
  rintro ⟨name, rest⟩ hread
  obtain ⟨hs, -⟩ := glyphReference?_eq_some_iff.mp hread
  exact h (List.cons.inj hs).1

@[simp] theorem pieces_nil : pieces [] = [] := by
  rw [pieces]
  rfl

theorem pieces_of_reference (h : glyphReference? s = some (name, rest)) :
    pieces s = .glyph name :: pieces rest := by
  rw [pieces]
  split
  · next hread =>
    obtain ⟨rfl, rfl⟩ := Prod.mk.inj (Option.some.inj (hread.symm.trans h))
    rfl
  · next hread =>
    rw [h] at hread
    contradiction

theorem pieces_cons {c : Char} (h : glyphReference? (c :: s) = none) :
    pieces (c :: s) = .char c :: pieces s := by
  rw [pieces]
  split
  · next hread =>
    rw [h] at hread
    contradiction
  · rfl

/-- A text that begins with no reference refers to what the text behind its first character
refers to. -/
theorem refersToGlyph_cons {c : Char} (h : glyphReference? (c :: s) = none) :
    RefersToGlyph (c :: s) ↔ RefersToGlyph s := by
  constructor
  · rintro ⟨name, hhash, hfeed, hoccurs⟩
    rcases List.infix_cons_iff.mp hoccurs with ⟨rest, hs⟩ | hoccurs
    · have hread : glyphReference? (c :: s) = some (name, rest) := by
        rw [glyphReference?_eq_some_iff, ← hs]
        exact ⟨by simp, hhash, hfeed⟩
      rw [h] at hread
      contradiction
    · exact ⟨name, hhash, hfeed, hoccurs⟩
  · intro hrefers
    exact hrefers.mono (List.suffix_cons c s).isInfix

/-- **The references of a text** are those that are read.  The induction is that of the reading:
a reference may be hidden only behind the one that is read before it. -/
theorem refersToGlyph_iff : RefersToGlyph s ↔ ∃ name, Piece.glyph name ∈ pieces s := by
  induction s using pieces.induct with
  | case1 s name rest hread ih =>
    obtain ⟨hs, hhash, hfeed⟩ := glyphReference?_eq_some_iff.mp hread
    refine iff_of_true ⟨name, hhash, hfeed, [], rest, by simp [hs]⟩ ⟨name, ?_⟩
    rw [pieces_of_reference hread]
    exact List.mem_cons_self
  | case2 hread => exact iff_of_false not_refersToGlyph_nil (by simp)
  | case3 c rest hread ih => simp [refersToGlyph_cons hread, ih, pieces_cons hread]

/-- The name of a glyph that is read holds no `#`. -/
theorem hash_notMem_of_mem_pieces (h : Piece.glyph name ∈ pieces s) : '#' ∉ name := by
  induction s using pieces.induct with
  | case1 s name' rest hread ih =>
    rw [pieces_of_reference hread] at h
    rcases List.mem_cons.mp h with heq | h
    · rw [Piece.glyph.inj heq]
      exact (glyphReference?_eq_some_iff.mp hread).2.1
    · exact ih h
  | case2 hread => simp at h
  | case3 c rest hread ih =>
    rw [pieces_cons hread] at h
    exact ih ((List.mem_cons.mp h).resolve_left nofun)

end

/-! ### Lines that are set -/

/-- A text, set piece by piece. -/
def setPieces (s : List Char) : List Char := (pieces s).flatMap Piece.render

section

variable {s name rest : List Char}

@[simp] theorem setPieces_nil : setPieces [] = [] := by
  simp [setPieces]

theorem setPieces_of_reference (h : glyphReference? s = some (name, rest)) :
    setPieces s = (glyphTag (String.ofList name)).toList ++ setPieces rest := by
  rw [setPieces, pieces_of_reference h, List.flatMap_cons]
  rfl

theorem setPieces_cons {c : Char} (h : glyphReference? (c :: s) = none) :
    setPieces (c :: s) = c :: setPieces s := by
  rw [setPieces, pieces_cons h, List.flatMap_cons]
  rfl

/-- A text without `#` is set as it is. -/
theorem setPieces_of_notMem (h : '#' ∉ s) : setPieces s = s := by
  induction s with
  | nil => simp
  | cons c s ih =>
    rw [List.mem_cons, not_or] at h
    rw [setPieces_cons (glyphReference?_cons_of_ne (Ne.symm h.1)), ih h.2]

/-- A picture begins with `<`. -/
theorem exists_glyphTag_cons (file : String) : ∃ tag, (glyphTag file).toList = '<' :: tag := by
  unfold glyphTag
  rw [String.toList_append, String.toList_append]
  exact ⟨_, rfl⟩

/-- A picture has a `#` only in its name. -/
theorem hash_notMem_glyphTag (h : '#' ∉ name) : '#' ∉ (glyphTag (String.ofList name)).toList := by
  unfold glyphTag
  simp only [String.toList_append, String.toList_ofList, List.mem_append, not_or]
  exact ⟨⟨by decide, h⟩, by decide⟩

/-- What is set begins with characters of the text until the first picture. -/
theorem prefix_of_prefix_setPieces {p : List Char} (hp : '<' ∉ p) (h : p <+: setPieces s) :
    p <+: s := by
  induction p generalizing s with
  | nil => exact List.nil_prefix
  | cons d p ih =>
    rw [List.mem_cons, not_or] at hp
    cases hread : glyphReference? s with
    | some found =>
      obtain ⟨tag, htag⟩ := exists_glyphTag_cons (String.ofList found.1)
      rw [setPieces_of_reference hread, htag, List.cons_append, List.cons_prefix_cons] at h
      exact absurd h.1.symm hp.1
    | none =>
      cases s with
      | nil => simp at h
      | cons c s =>
        rw [setPieces_cons hread, List.cons_prefix_cons] at h
        exact List.cons_prefix_cons.mpr ⟨h.1, ih hp.2 h.2⟩

/-- Where the marker stands on a line but no reference, no `#` follows. -/
theorem hash_notMem_of_marker (hread : glyphReference? (glyphMarker ++ s) = none)
    (h : '\n' ∉ s) : '#' ∉ s := by
  intro hmem
  obtain ⟨name, rest, rfl, hhash⟩ := List.eq_append_cons_of_mem hmem
  have hfeed : '\n' ∉ name := fun hmem => h (List.mem_append_left _ hmem)
  have hread' : glyphReference? (glyphMarker ++ (name ++ '#' :: rest)) = some (name, rest) :=
    glyphReference?_eq_some_iff.mpr ⟨(List.append_assoc ..).symm, hhash, hfeed⟩
  rw [hread] at hread'
  contradiction

/-- **A line that is set refers to no glyph.**  A reference cannot begin in a picture.  It cannot
begin at a `#` that stays either: were the marker there, no `#` would follow on the line. -/
theorem not_refersToGlyph_setPieces (h : '\n' ∉ s) : ¬ RefersToGlyph (setPieces s) := by
  induction s using pieces.induct with
  | case1 s name rest hread ih =>
    obtain ⟨hs, hhash, -⟩ := glyphReference?_eq_some_iff.mp hread
    have hrest : '\n' ∉ rest := by
      intro hmem
      exact h (by simp [hs, hmem])
    rw [setPieces_of_reference hread, refersToGlyph_append_right (hash_notMem_glyphTag hhash)]
    exact ih hrest
  | case2 hread => simp
  | case3 c rest hread ih =>
    have hrest : '\n' ∉ rest := fun hmem => h (List.mem_cons_of_mem c hmem)
    have hset : setPieces (c :: rest) = c :: setPieces rest := setPieces_cons hread
    rw [hset]
    rintro ⟨name, hhash, hfeed, hoccurs⟩
    rcases List.infix_cons_iff.mp hoccurs with ⟨behind, hbehind⟩ | hoccurs
    · -- the marker was in the line before it was set
      have hmarker : glyphMarker <+: c :: rest := by
        refine prefix_of_prefix_setPieces (by decide) ?_
        rw [hset, ← hbehind, List.append_assoc, List.append_assoc]
        exact List.prefix_append _ _
      obtain ⟨line, hline⟩ := hmarker
      obtain ⟨rfl, rfl⟩ := List.cons.inj hline
      have hfree : '#' ∉ line := hash_notMem_of_marker hread fun hmem => hrest (by simp [hmem])
      rw [setPieces_of_notMem (by simp [hfree])] at hbehind
      have hline : name ++ ['#'] ++ behind = line := by simpa [glyphMarker] using hbehind
      exact hfree (by simp [← hline])
    · exact ih hrest ⟨name, hhash, hfeed, hoccurs⟩

end

/-! ### Directives -/

section

variable {line : List Char} {n : Int} {d : Directive}

theorem mem_glyphNames {ps : List Piece} {file : String} :
    file ∈ glyphNames ps ↔ ∃ name, Piece.glyph name ∈ ps ∧ file = String.ofList name := by
  unfold glyphNames
  rw [List.mem_eraseDups, List.mem_filterMap]
  constructor
  · rintro ⟨piece, hpiece, hfile⟩
    cases piece with
    | char c => contradiction
    | glyph name => exact ⟨name, hpiece, (Option.some.inj hfile).symm⟩
  · rintro ⟨name, hpiece, rfl⟩
    exact ⟨_, hpiece, rfl⟩

/-- What stands in brackets, without the name, is a part of the line. -/
theorem argument_occurs {inner name argument : List Char} (hfeed : '\n' ∉ line)
    (hinner : bracketed? line = some inner) (hcut : nameAndArgument inner = (name, argument)) :
    argument <:+: line := by
  have hargument : argument <:+ inner := by
    unfold nameAndArgument at hcut
    cases hfirst : cutAt? ',' inner with
    | none =>
      rw [hfirst, Option.getD_none] at hcut
      rw [← (Prod.mk.inj hcut).2]
      exact List.nil_suffix
    | some found =>
      rw [hfirst, Option.getD_some] at hcut
      rw [hcut] at hfirst
      exact ⟨name ++ [','], by simp [(Text.cutAt?_eq_some_iff.mp hfirst).1]⟩
  obtain ⟨before, after, hline, -, -⟩ := (bracketed?_eq_some_iff hfeed).mp hinner
  exact hargument.isInfix.trans ⟨before ++ ['#'], '#' :: after, by simp [hline]⟩

/-- **How a line is read**, as far as glyphs go: it asks for the table of contents, it is set with
its glyphs, or it is without a marker, and its argument is a part of it. -/
theorem ofLine_cases (hfeed : '\n' ∉ line) (h : Directive.ofLine line n = .ok d) :
    d = { command := .toc, line := n } ∨ d = glyphLine line n
      ∨ ¬ glyphMarker <:+: line ∧ d.glyphs = [] ∧ d.argument.toList <:+: line := by
  unfold Directive.ofLine at h
  split at h
  · exact Or.inl (Except.ok.inj h).symm
  split at h
  · exact Or.inr (Or.inl (Except.ok.inj h).symm)
  next hmarker =>
  rw [Text.hasInfix_iff] at hmarker
  refine Or.inr (Or.inr ⟨hmarker, ?_⟩)
  cases hinner : bracketed? line with
  | some inner =>
    simp only [hinner] at h
    split at h
    · obtain rfl := Except.ok.inj h
      refine ⟨rfl, ?_⟩
      rw [String.toList_ofList]
      exact argument_occurs hfeed hinner rfl
    · contradiction
  | none =>
    simp only [hinner] at h
    split at h
    · obtain rfl := Except.ok.inj h
      exact ⟨rfl, List.nil_infix⟩
    split at h
    · obtain rfl := Except.ok.inj h
      exact ⟨rfl, List.nil_infix⟩
    · obtain rfl := Except.ok.inj h
      exact ⟨rfl, by simp⟩

/-- No reference to a glyph is left in a directive. -/
structure Directive.IsSet (d : Directive) : Prop where
  /-- The argument has none. -/
  argument : ¬ RefersToGlyph d.argument.toList
  /-- The names of its glyphs have none. -/
  glyphs : ∀ file ∈ d.glyphs, ¬ RefersToGlyph file.toList

/-- **No directive has a reference** to a glyph left. -/
theorem isSet_of_ofLine (hfeed : '\n' ∉ line) (h : Directive.ofLine line n = .ok d) :
    d.IsSet := by
  rcases ofLine_cases hfeed h with rfl | rfl | ⟨hmarker, hglyphs, hargument⟩
  · exact ⟨by simp, nofun⟩
  · refine ⟨?_, fun file hfile hrefers => ?_⟩
    · rw [glyphLine, String.toList_ofList]
      exact not_refersToGlyph_setPieces hfeed
    · obtain ⟨name, hpiece, rfl⟩ := mem_glyphNames.mp hfile
      rw [String.toList_ofList] at hrefers
      exact hash_notMem_of_mem_pieces hpiece (hrefers.marker_occurs.subset List.mem_cons_self)
  · refine ⟨fun hrefers => ?_, ?_⟩
    · exact hmarker (hrefers.marker_occurs.trans hargument)
    · rw [hglyphs]
      exact fun _ hfile => absurd hfile List.not_mem_nil

/-- **A directive names every glyph** that its line is set with.  A line that asks for the table
of contents is not set. -/
theorem mem_glyphs_of_ofLine (hfeed : '\n' ∉ line) (h : Directive.ofLine line n = .ok d)
    (htoc : d.command ≠ .toc) {name : List Char} (hpiece : Piece.glyph name ∈ pieces line) :
    d.command = .glyph ∧ String.ofList name ∈ d.glyphs := by
  rcases ofLine_cases hfeed h with rfl | rfl | ⟨hmarker, -, -⟩
  · exact absurd rfl htoc
  · exact ⟨rfl, mem_glyphNames.mpr ⟨name, hpiece, rfl⟩⟩
  · exact absurd (refersToGlyph_iff.mpr ⟨name, hpiece⟩).marker_occurs hmarker

/-- Every directive is read from a line. -/
theorem exists_ofLine_of_mem {ls : List (List Char)}
    (h : d ∈ (Directive.ofLines ls n).1) : ∃ l ∈ ls, ∃ k, Directive.ofLine l k = .ok d := by
  induction ls generalizing n with
  | nil => exact absurd h List.not_mem_nil
  | cons l ls ih =>
    rw [Directive.ofLines] at h
    cases hline : Directive.ofLine l n with
    | error fault =>
      rw [hline] at h
      exact absurd h List.not_mem_nil
    | ok e =>
      rw [hline] at h
      rcases List.mem_cons.mp h with rfl | h
      · exact ⟨l, List.mem_cons_self, n, hline⟩
      · obtain ⟨l', hl', k, hk⟩ := ih h
        exact ⟨l', List.mem_cons_of_mem l hl', k, hk⟩

end

end Kumihan.Markup
