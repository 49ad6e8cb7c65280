import Kumihan.Proofs.Markup.Glyphs

/-!
# A line, cut at its references to glyphs

A line with references is cut at them in one way only: the leftmost reference is cut off first,
its name runs to the next `#`, and what stands behind it is cut in the same way, until no complete
reference is left.  A reference that lacks its `#` is no cut and stays in the tail.

The argument of the line's directive is the same cut with a picture where each reference was, and
its glyphs are the names at the cuts, each once.

## Main definitions

* `Cut` — a reference that is cut off, and the gap before it.
* `interleave put cuts tail` — the gaps of a text, with `put name` at each cut.
* `CutsAt s cuts tail` — `s` is cut at its references.

## Main results

* `exists_cutsAt`, `CutsAt.unique` — **a text is cut at its references in one way.**
* `CutsAt.pieces_eq` — the cuts are where the reading finds glyphs.
* `ofLine_eq_interleave` — **what a line of glyphs is read as.**
-/

namespace Kumihan.Markup

/-! ### Cuts -/

/-- A reference to the glyph of a name, as it is written. -/
def referenceTo (name : List Char) : List Char := glyphMarker ++ name ++ ['#']

/-- The picture of the glyph of a name, as it is set. -/
def pictureOf (name : List Char) : List Char := (glyphTag (String.ofList name)).toList

/-- A complete reference stands at the beginning of the text, and on one line. -/
def BeginsReference (s : List Char) : Prop :=
  ∃ name rest, s = referenceTo name ++ rest ∧ '#' ∉ name ∧ '\n' ∉ name

/-- No reference begins in the gap, `s` being the text behind it. -/
def FreeGap (gap s : List Char) : Prop :=
  ∀ back, back <:+ gap → back ≠ [] → ¬ BeginsReference (back ++ s)

/-- A reference that is cut off a text. -/
structure Cut where
  /-- The text between the reference and the one before it. -/
  gap : List Char
  /-- The name of the glyph. -/
  name : List Char
  deriving DecidableEq

/-- The gaps of a text, with what is put for each name between them, and the tail behind. -/
def interleave (put : List Char → List Char) (cuts : List Cut) (tail : List Char) : List Char :=
  cuts.flatMap (fun cut => cut.gap ++ put cut.name) ++ tail

/-- A text is cut at its references, from the left. -/
inductive CutsAt : List Char → List Cut → List Char → Prop
  /-- No complete reference is left. -/
  | done {s : List Char} (h : ¬ RefersToGlyph s) : CutsAt s [] s
  /-- The leftmost reference is cut off.  Its name runs to the next `#`. -/
  | next {gap name rest : List Char} {cuts : List Cut} {tail : List Char}
      (hleft : FreeGap gap (referenceTo name ++ rest)) (hhash : '#' ∉ name) (hfeed : '\n' ∉ name)
      (h : CutsAt rest cuts tail) :
      CutsAt (gap ++ (referenceTo name ++ rest)) ({ gap, name } :: cuts) tail

section

variable {s name rest tail : List Char} {cuts : List Cut}

theorem glyphReference?_referenceTo (hhash : '#' ∉ name) (hfeed : '\n' ∉ name) :
    glyphReference? (referenceTo name ++ rest) = some (name, rest) := by
  rw [glyphReference?_eq_some_iff]
  exact ⟨by simp [referenceTo], hhash, hfeed⟩

theorem glyphReference?_eq_none_iff : glyphReference? s = none ↔ ¬ BeginsReference s := by
  rw [Option.eq_none_iff_forall_ne_some]
  constructor
  · rintro h ⟨name, rest, rfl, hhash, hfeed⟩
    exact h (name, rest) (glyphReference?_referenceTo hhash hfeed)
  · rintro h ⟨name, rest⟩ hread
    obtain ⟨hs, hhash, hfeed⟩ := glyphReference?_eq_some_iff.mp hread
    exact h ⟨name, rest, by simpa [referenceTo] using hs, hhash, hfeed⟩

theorem freeGap_nil : FreeGap [] s := by
  intro back hback hne
  exact absurd (List.suffix_nil.mp hback) hne

theorem freeGap_cons {c : Char} {gap : List Char} :
    FreeGap (c :: gap) s ↔ ¬ BeginsReference (c :: (gap ++ s)) ∧ FreeGap gap s := by
  constructor
  · intro h
    refine ⟨h (c :: gap) List.suffix_rfl (List.cons_ne_nil c gap), ?_⟩
    intro back hback
    exact h back (hback.trans (List.suffix_cons c gap))
  · rintro ⟨hfirst, h⟩ back hback hne
    rcases List.suffix_cons_iff.mp hback with rfl | hback
    · exact hfirst
    · exact h back hback hne

@[simp] theorem interleave_nil (put : List Char → List Char) : interleave put [] tail = tail := rfl

@[simp] theorem interleave_cons (put : List Char → List Char) (cut : Cut) :
    interleave put (cut :: cuts) tail = cut.gap ++ (put cut.name ++ interleave put cuts tail) := by
  simp [interleave]

/-- The gaps with the references between them are the text. -/
theorem CutsAt.eq_interleave (h : CutsAt s cuts tail) : s = interleave referenceTo cuts tail := by
  induction h with
  | done h => rfl
  | next hleft hhash hfeed h ih => rw [interleave_cons, ← ih]

/-- No reference is left behind the last cut. -/
theorem CutsAt.not_refersToGlyph (h : CutsAt s cuts tail) : ¬ RefersToGlyph tail := by
  induction h with
  | done h => exact h
  | next hleft hhash hfeed h ih => exact ih

/-- Where a reference opens behind the last cut, no `#` follows on the line. -/
theorem CutsAt.hash_notMem (h : CutsAt s cuts tail) (hfeed : '\n' ∉ s)
    {before behind : List Char} (htail : tail = before ++ (glyphMarker ++ behind)) :
    '#' ∉ behind := by
  have hbehind : '\n' ∉ behind := by
    intro hmem
    apply hfeed
    rw [h.eq_interleave, htail]
    simp [interleave, hmem]
  refine hash_notMem_of_marker ?_ hbehind
  rw [glyphReference?_eq_none_iff]
  rintro ⟨name, rest, hopens, hhash, hname⟩
  refine h.not_refersToGlyph ⟨name, hhash, hname, before, rest, ?_⟩
  rw [htail, hopens, List.append_assoc]
  rfl

/-- **Every text can be cut at its references.**  The induction is that of the reading. -/
theorem exists_cutsAt (s : List Char) : ∃ cuts tail, CutsAt s cuts tail := by
  induction s using pieces.induct with
  | case1 s name rest hread ih =>
    obtain ⟨cuts, tail, hcut⟩ := ih
    obtain ⟨rfl, hhash, hfeed⟩ := glyphReference?_eq_some_iff.mp hread
    refine ⟨{ gap := [], name } :: cuts, tail, ?_⟩
    have hs : glyphMarker ++ name ++ '#' :: rest = [] ++ (referenceTo name ++ rest) := by
      simp [referenceTo]
    rw [hs]
    exact .next freeGap_nil hhash hfeed hcut
  | case2 hread => exact ⟨[], [], .done not_refersToGlyph_nil⟩
  | case3 c rest hread ih =>
    obtain ⟨cuts, tail, hcut⟩ := ih
    cases hcut with
    | done h =>
      refine ⟨[], c :: rest, .done ?_⟩
      rwa [refersToGlyph_cons hread]
    | @next gap name rest cuts _ hleft hhash hfeed h =>
      -- the character goes into the gap, since no reference begins with it
      have hfirst := glyphReference?_eq_none_iff.mp hread
      refine ⟨{ gap := c :: gap, name } :: cuts, tail, ?_⟩
      rw [← List.cons_append]
      exact .next (freeGap_cons.mpr ⟨hfirst, hleft⟩) hhash hfeed h

/-! ### Cuts and pieces -/

/-- The pieces of a text that is cut. -/
def cutPieces (cuts : List Cut) (tail : List Char) : List Piece :=
  cuts.flatMap (fun cut => cut.gap.map .char ++ [.glyph cut.name]) ++ tail.map .char

@[simp] theorem cutPieces_nil : cutPieces [] tail = tail.map .char := rfl

@[simp] theorem cutPieces_cons (cut : Cut) :
    cutPieces (cut :: cuts) tail
      = cut.gap.map .char ++ .glyph cut.name :: cutPieces cuts tail := by
  simp [cutPieces]

/-- A text without a reference is read character by character. -/
theorem pieces_of_not_refersToGlyph (h : ¬ RefersToGlyph s) : pieces s = s.map .char := by
  induction s with
  | nil => simp
  | cons c s ih =>
    have hread : glyphReference? (c :: s) = none := by
      rw [glyphReference?_eq_none_iff]
      rintro ⟨name, rest, hs, hhash, hfeed⟩
      exact h ⟨name, hhash, hfeed, [], rest, hs.symm⟩
    rw [refersToGlyph_cons hread] at h
    rw [pieces_cons hread, ih h]
    rfl

/-- A gap is read character by character, and then the reference is. -/
theorem pieces_gap {gap : List Char} (hhash : '#' ∉ name) (hfeed : '\n' ∉ name)
    (hleft : FreeGap gap (referenceTo name ++ rest)) :
    pieces (gap ++ (referenceTo name ++ rest)) = gap.map .char ++ .glyph name :: pieces rest := by
  induction gap with
  | nil => exact pieces_of_reference (glyphReference?_referenceTo hhash hfeed)
  | cons c gap ih =>
    obtain ⟨hfirst, hleft⟩ := freeGap_cons.mp hleft
    rw [List.cons_append, pieces_cons (glyphReference?_eq_none_iff.mpr hfirst), ih hleft]
    rfl

/-- **The cuts are where the reading finds glyphs.** -/
theorem CutsAt.pieces_eq (h : CutsAt s cuts tail) : pieces s = cutPieces cuts tail := by
  induction h with
  | done h => exact pieces_of_not_refersToGlyph h
  | next hleft hhash hfeed h ih => rw [pieces_gap hhash hfeed hleft, ih, cutPieces_cons]

/-- The first glyph among some pieces tells the gap before it. -/
theorem gap_unique {gap gap' name' : List Char} {ps ps' : List Piece}
    (h : gap.map Piece.char ++ .glyph name :: ps = gap'.map Piece.char ++ .glyph name' :: ps') :
    gap = gap' ∧ name = name' ∧ ps = ps' := by
  induction gap generalizing gap' with
  | nil =>
    cases gap' with
    | nil => simpa using h
    | cons c gap' => simp at h
  | cons c gap ih =>
    cases gap' with
    | nil => simp at h
    | cons c' gap' =>
      simp only [List.map_cons, List.cons_append, List.cons.injEq, Piece.char.injEq] at h
      obtain ⟨rfl, h⟩ := h
      obtain ⟨rfl, hrest⟩ := ih h
      exact ⟨rfl, hrest⟩

theorem cutPieces_ne_chars (cut : Cut) (t : List Char) :
    cutPieces (cut :: cuts) tail ≠ t.map .char := by
  intro h
  have hmem : Piece.glyph cut.name ∈ t.map Piece.char := by
    rw [← h]
    simp
  simp at hmem

/-- The pieces of a text tell where it is cut. -/
theorem cutPieces_injective {cuts' : List Cut} {tail' : List Char}
    (h : cutPieces cuts tail = cutPieces cuts' tail') : cuts = cuts' ∧ tail = tail' := by
  induction cuts generalizing cuts' with
  | nil =>
    cases cuts' with
    | nil => exact ⟨rfl, (List.map_inj_right fun c d => Piece.char.inj).mp h⟩
    | cons cut' cuts' => exact absurd h.symm (cutPieces_ne_chars cut' tail)
  | cons cut cuts ih =>
    cases cuts' with
    | nil => exact absurd h (cutPieces_ne_chars cut tail')
    | cons cut' cuts' =>
      rw [cutPieces_cons, cutPieces_cons] at h
      obtain ⟨hgap, hname, hrest⟩ := gap_unique h
      obtain ⟨rfl, rfl⟩ := ih hrest
      obtain ⟨gap, name⟩ := cut
      obtain ⟨gap', name'⟩ := cut'
      obtain rfl : gap = gap' := hgap
      obtain rfl : name = name' := hname
      exact ⟨rfl, rfl⟩

/-- **A text is cut at its references in one way.** -/
theorem CutsAt.unique {cuts' : List Cut} {tail' : List Char} (h : CutsAt s cuts tail)
    (h' : CutsAt s cuts' tail') : cuts' = cuts ∧ tail' = tail :=
  cutPieces_injective (h'.pieces_eq.symm.trans h.pieces_eq)

/-! ### What is set -/

/-- What is set has the gaps of the text, and pictures between them. -/
theorem CutsAt.setPieces_eq (h : CutsAt s cuts tail) :
    setPieces s = interleave pictureOf cuts tail := by
  have hchars : ∀ t : List Char, (t.map Piece.char).flatMap Piece.render = t := by
    intro t
    rw [List.flatMap_map]
    exact List.flatMap_singleton' t
  rw [setPieces, h.pieces_eq]
  clear h
  induction cuts with
  | nil => exact hchars tail
  | cons cut cuts ih =>
    rw [cutPieces_cons, List.flatMap_append, hchars, List.flatMap_cons, ih, interleave_cons]
    rfl

/-- A text without a reference is set as it is. -/
theorem setPieces_of_not_refersToGlyph (h : ¬ RefersToGlyph s) : setPieces s = s :=
  (CutsAt.done h).setPieces_eq

/-- The glyphs of a text are the names at its cuts, each once. -/
theorem CutsAt.glyphNames_eq (h : CutsAt s cuts tail) :
    glyphNames (pieces s) = (cuts.map fun cut => String.ofList cut.name).eraseDups := by
  rw [h.pieces_eq, glyphNames]
  congr 1
  clear h
  induction cuts with
  | nil => simp [List.filterMap_map]
  | cons cut cuts ih => simp [List.filterMap_append, List.filterMap_map, ih]

/-! ### Lines of glyphs -/

/-- **What a line of glyphs is read as.**  The line is cut at its references in one way, and what
opens a reference behind the last cut has no `#` to complete it.  The argument has a picture at
each cut and is otherwise the line, the glyphs are the names at the cuts, each where it occurs
first, and no reference is left to set. -/
theorem ofLine_eq_interleave {line : List Char} (n : Int) (hfeed : '\n' ∉ line)
    (htoc : ¬ ['#', 't', 'o', 'c', '#'] <:+: line) (hmarker : glyphMarker <:+: line) :
    ∃ cuts tail, CutsAt line cuts tail
      ∧ (∀ cuts' tail', CutsAt line cuts' tail' → cuts' = cuts ∧ tail' = tail)
      ∧ line = interleave referenceTo cuts tail
      ∧ (∀ before behind, tail = before ++ (glyphMarker ++ behind) → '#' ∉ behind)
      ∧ ∃ d, Directive.ofLine line n = .ok d ∧ d.command = .glyph ∧ d.line = n
        ∧ d.argument.toList = interleave pictureOf cuts tail
        ∧ d.glyphs = (cuts.map fun cut => String.ofList cut.name).eraseDups
        ∧ ¬ RefersToGlyph d.argument.toList
        ∧ setPieces d.argument.toList = d.argument.toList := by
  obtain ⟨cuts, tail, hcut⟩ := exists_cutsAt line
  have hargument : (glyphLine line n).argument.toList = setPieces line := String.toList_ofList
  have hset : ¬ RefersToGlyph (setPieces line) := not_refersToGlyph_setPieces hfeed
  refine ⟨cuts, tail, hcut, ?_, hcut.eq_interleave, ?_, glyphLine line n, ?_, rfl, rfl, ?_, ?_, ?_,
    ?_⟩
  · intro cuts' tail' hcut'
    exact hcut.unique hcut'
  · intro before behind htail
    exact hcut.hash_notMem hfeed htail
  · exact ofLine_of_glyphMarker htoc hmarker
  · rw [hargument, hcut.setPieces_eq]
  · exact hcut.glyphNames_eq
  · rwa [hargument]
  · rw [hargument, setPieces_of_not_refersToGlyph hset]

end

/-- A line that shows one glyph twice and opens a third reference, which nothing completes. -/
def twiceAndOpen : List Char :=
  [] ++ (referenceTo ['a'] ++ (['b'] ++ (referenceTo ['a'] ++ (glyphMarker ++ ['c']))))

/-- The line is cut at its two references. -/
theorem cutsAt_twiceAndOpen :
    CutsAt twiceAndOpen [{ gap := [], name := ['a'] }, { gap := ['b'], name := ['a'] }]
      (glyphMarker ++ ['c']) := by
  have hopen : ¬ RefersToGlyph (glyphMarker ++ ['c']) := by
    rintro ⟨name, -, -, hoccurs⟩
    -- a reference has two `#`
    have hcount := hoccurs.sublist.count_le '#'
    simp [glyphMarker, List.count_append] at hcount
  have hgap : FreeGap ['b'] (referenceTo ['a'] ++ (glyphMarker ++ ['c'])) :=
    freeGap_cons.mpr
      ⟨glyphReference?_eq_none_iff.mp (glyphReference?_cons_of_ne (by decide)), freeGap_nil⟩
  refine .next freeGap_nil (by decide) (by decide) ?_
  exact .next hgap (by decide) (by decide) (.done hopen)

theorem ofLine_twiceAndOpen :
    ∃ d, Directive.ofLine twiceAndOpen 3 = .ok d
      ∧ d.argument.toList
        = pictureOf ['a'] ++ ('b' :: (pictureOf ['a'] ++ (glyphMarker ++ ['c'])))
      ∧ d.glyphs = [String.ofList ['a']] := by
  have hfeed : '\n' ∉ twiceAndOpen := by decide
  obtain ⟨cuts, tail, -, hunique, -, -, d, hread, -, -, hargument, hglyphs, -⟩ :=
    ofLine_eq_interleave 3 hfeed (by decide) (by decide)
  obtain ⟨rfl, rfl⟩ := hunique _ _ cutsAt_twiceAndOpen
  refine ⟨d, hread, ?_, ?_⟩
  · simpa using hargument
  · rw [hglyphs]
    rfl

end Kumihan.Markup
