import Kumihan.Lint.Finding
import Kumihan.Proofs.Lint.Mending
import Kumihan.Proofs.Markup.Typography

/-!
# The lines that blemishes stand on

A linter looks at a text as a whole and counts the line feeds before what it finds.  What it finds
is nevertheless what it would find in each line by itself: no pattern reaches over a line feed.
Nor does a removal, so a line keeps its number, whatever is removed from the text.

## Main definitions

* `IsLine s n l` — line `n` of the text is `l`.
* `LineByLine` — what is found in a text is found in its lines.
* `Blemish.StandsOn`, `Blemish.StoodOn` — what a line shows that has a blemish, or had one.

## Main results

* `occurrenceSpots_append_cons` — a character that is not in the pattern parts a text.
* `exists_line_of_mem_spots` — **the line of a blemish has it.**
* `exists_line_of_mem_punctuationSpots` — so has the line of a form that is typed.
* `splitOn_mend_lines` — **a text is mended line by line.**
* `stoodOn_of_removed` — the line of a blemish had it when the text was typed.
-/

namespace Kumihan.Lint

open Blemish (charSpots cutReturn dropEndSpaces endSpaces isZeroWidth joinLines trailing
  trailingSpots withoutTrailing)
open Markup (PunctuationRule punctuationRules)

variable {s : List Char}

/-! ### Lines and their numbers -/

/-- Line `n` of a text, the first having the number one. -/
def IsLine (s : List Char) (n : Int) (l : List Char) : Prop :=
  ∃ i : Nat, n = i + 1 ∧ (Text.splitOn '\n' s)[i]? = some l

theorem IsLine.notMem {n : Int} {l : List Char} (h : IsLine s n l) : '\n' ∉ l := by
  obtain ⟨i, -, hi⟩ := h
  exact Text.notMem_of_mem_splitOn (List.mem_of_getElem? hi)

/-! ### What is found line by line -/

/-- A search that finds in a text what it finds in the first line, with its number, and then in
the lines behind it. -/
def LineByLine (look : Nat → List Char → List Spot) : Prop :=
  ∀ n x y, '\n' ∉ x → look n (x ++ '\n' :: y) = look n x ++ look (n + 1) y

/-- **What is found in a text is found in one of its lines**, by a search that begins with the
number of this line.  The induction is on the lines. -/
theorem LineByLine.exists_line {look : Nat → List Char → List Spot} (hlook : LineByLine look)
    {n : Nat} {spot : Spot} (h : spot ∈ look n s) :
    ∃ i l, (Text.splitOn '\n' s)[i]? = some l ∧ spot ∈ look (n + i) l := by
  induction s using Text.lineInduction generalizing n with
  | last x hx => exact ⟨0, x, by rw [Text.splitOn_of_notMem hx]; rfl, h⟩
  | step x y hx ih =>
    rw [hlook n x y hx, List.mem_append] at h
    rw [Text.splitOn_append_cons hx]
    rcases h with h | h
    · exact ⟨0, x, rfl, h⟩
    · obtain ⟨i, l, hl, hspot⟩ := ih h
      exact ⟨i + 1, l, hl, by rwa [Nat.add_right_comm] at hspot⟩

theorem LineByLine.exists_isLine {look : Nat → List Char → List Spot} (hlook : LineByLine look)
    {spot : Spot} (h : spot ∈ look 1 s) :
    ∃ (n : Nat) (l : List Char), IsLine s n l ∧ spot ∈ look n l := by
  obtain ⟨i, l, hl, hspot⟩ := hlook.exists_line h
  exact ⟨1 + i, l, ⟨i, by omega, hl⟩, hspot⟩

/-! ### Single characters -/

theorem lineByLine_charSpots {p : Char → Bool} (hp : p '\n' = false) :
    LineByLine (charSpots p) := by
  intro n x y hx
  induction x with
  | nil => simp [charSpots, hp]
  | cons c x ih =>
    rw [List.mem_cons, not_or] at hx
    rw [List.cons_append, charSpots, charSpots, if_neg (Ne.symm hx.1), ih hx.2]
    cases p c <;> rfl

/-- What is found in one line has its number. -/
theorem charSpots_of_notMem {p : Char → Bool} (n : Nat) {l : List Char} (hl : '\n' ∉ l) :
    charSpots p n l = (l.filter p).map fun c => ⟨n, [c]⟩ := by
  induction l with
  | nil => rfl
  | cons c l ih =>
    rw [List.mem_cons, not_or] at hl
    rw [charSpots, if_neg (Ne.symm hl.1), ih hl.2, List.filter_cons]
    cases p c <;> rfl

/-- **The line of a character has it.** -/
theorem exists_line_of_mem_charSpots {p : Char → Bool} (hp : p '\n' = false) {spot : Spot}
    (h : spot ∈ charSpots p 1 s) :
    ∃ l, IsLine s spot.line l ∧ ∃ c ∈ l, p c = true ∧ spot.text = [c] := by
  obtain ⟨n, l, hl, hspot⟩ := (lineByLine_charSpots hp).exists_isLine h
  rw [charSpots_of_notMem n hl.notMem] at hspot
  obtain ⟨c, hc, rfl⟩ := List.mem_map.mp hspot
  obtain ⟨hmem, hpc⟩ := List.mem_filter.mp hc
  exact ⟨l, hl, c, hmem, hpc, rfl⟩

/-! ### Ends of lines -/

theorem exists_of_mem_trailingSpots {n : Nat} {ls : List (List Char)} {spot : Spot}
    (h : spot ∈ trailingSpots n ls) :
    ∃ (i : Nat) (l : List Char), ls[i]? = some l ∧ spot.line = n + i ∧ trailing l ≠ []
      ∧ spot.text = trailing l := by
  induction ls generalizing n with
  | nil => exact absurd h List.not_mem_nil
  | cons l ls ih =>
    have hlater (hmem : spot ∈ trailingSpots (n + 1) ls) :
        ∃ (i : Nat) (k : List Char), (l :: ls)[i]? = some k ∧ spot.line = n + i
          ∧ trailing k ≠ [] ∧ spot.text = trailing k := by
      obtain ⟨i, k, hk, hline, hspaces⟩ := ih hmem
      exact ⟨i + 1, k, hk, by omega, hspaces⟩
    rw [trailingSpots] at h
    split at h
    · exact hlater h
    · next hspaces =>
      rcases List.mem_cons.mp h with rfl | hmem
      · exact ⟨0, l, rfl, rfl, mt List.isEmpty_iff.mpr hspaces, rfl⟩
      · exact hlater hmem

/-! ### Occurrences -/

section

variable {pat : List Char} {n : Nat}

theorem occurrenceSpots_of_cut?_eq_none (h : Text.cut? pat s = none) :
    occurrenceSpots pat n s = [] := by
  rw [occurrenceSpots]
  split
  · rfl
  · split
    · rfl
    · next hcut =>
      rw [h] at hcut
      contradiction

theorem occurrenceSpots_of_cut?_eq_some {before after : List Char} (hpat : pat ≠ [])
    (h : Text.cut? pat s = some (before, after)) :
    occurrenceSpots pat n s = ⟨n + before.count '\n', pat⟩
      :: occurrenceSpots pat (n + before.count '\n' + pat.count '\n') after := by
  rw [occurrenceSpots, dif_neg hpat]
  split
  · next hcut =>
    rw [h] at hcut
    contradiction
  · next hcut =>
    rw [h, Option.some.injEq, Prod.mk.injEq] at hcut
    rw [hcut.1, hcut.2]

/-- **What stands on both sides of a separating character** is found apart.  The induction takes one
occurrence after the other from `x`. -/
theorem occurrenceSpots_append_cons {c : Char} (hpat : pat ≠ []) (hc : c ∉ pat) (n : Nat)
    (x y : List Char) :
    occurrenceSpots pat n (x ++ c :: y)
      = occurrenceSpots pat n x ++ occurrenceSpots pat (n + (x ++ [c]).count '\n') y := by
  induction hlen : x.length using Nat.strongRecOn generalizing x n with
  | ind len ih =>
    cases hcut : Text.cut? pat x with
    | some p =>
      obtain ⟨before, after⟩ := p
      have hlt := Text.length_lt_of_cut? hpat hcut
      have hline : n + (x ++ [c]).count '\n'
          = n + before.count '\n' + pat.count '\n' + (after ++ [c]).count '\n' := by
        rw [Text.cut?_eq_append hcut]
        simp only [List.count_append]
        omega
      rw [occurrenceSpots_of_cut?_eq_some hpat (Text.cut?_append_of_eq_some hpat hcut (c :: y)),
        occurrenceSpots_of_cut?_eq_some hpat hcut, ih after.length (hlen ▸ hlt) _ after rfl, hline,
        List.cons_append]
    | none =>
      have happend := Text.cut?_append_cons_of_not_infix hc (Text.cut?_eq_none_iff.mp hcut) y
      rw [occurrenceSpots_of_cut?_eq_none hcut, List.nil_append]
      cases hy : Text.cut? pat y with
      | none =>
        rw [hy] at happend
        rw [occurrenceSpots_of_cut?_eq_none hy, occurrenceSpots_of_cut?_eq_none happend]
      | some p =>
        obtain ⟨before, after⟩ := p
        rw [hy] at happend
        have hline : n + (x ++ c :: before).count '\n'
            = n + (x ++ [c]).count '\n' + before.count '\n' := by
          rw [← List.singleton_append, ← List.append_assoc, List.count_append, Nat.add_assoc]
        rw [occurrenceSpots_of_cut?_eq_some hpat hy, occurrenceSpots_of_cut?_eq_some hpat happend,
          hline]

/-- A pattern without a line feed does not reach over one. -/
theorem lineByLine_occurrenceSpots (hpat : pat ≠ []) (hfeed : '\n' ∉ pat) :
    LineByLine (occurrenceSpots pat) := by
  intro n x y hx
  rw [occurrenceSpots_append_cons hpat hfeed, List.count_append, List.count_eq_zero.mpr hx]
  rfl

/-- What is found in one line has its number, and is the pattern. -/
theorem eq_of_mem_occurrenceSpots {l : List Char} (hl : '\n' ∉ l) {spot : Spot}
    (h : spot ∈ occurrenceSpots pat n l) : spot = ⟨n, pat⟩ ∧ pat <:+: l := by
  induction hlen : l.length using Nat.strongRecOn generalizing l with
  | ind len ih =>
    by_cases hpat : pat = []
    · rw [occurrenceSpots, dif_pos hpat] at h
      contradiction
    cases hcut : Text.cut? pat l with
    | none =>
      rw [occurrenceSpots_of_cut?_eq_none hcut] at h
      contradiction
    | some p =>
      obtain ⟨before, after⟩ := p
      have hlt := Text.length_lt_of_cut? hpat hcut
      have hparts := Text.cut?_eq_append hcut
      have hbefore : '\n' ∉ before := fun h => hl (by rw [hparts]; simp [h])
      have hmiddle : '\n' ∉ pat := fun h => hl (by rw [hparts]; simp [h])
      have hafter : '\n' ∉ after := fun h => hl (by rw [hparts]; simp [h])
      rw [occurrenceSpots_of_cut?_eq_some hpat hcut, List.count_eq_zero.mpr hbefore,
        List.count_eq_zero.mpr hmiddle, Nat.add_zero] at h
      rcases List.mem_cons.mp h with rfl | hlater
      · exact ⟨rfl, ⟨before, after, hparts.symm⟩⟩
      · obtain ⟨hspot, hinfix⟩ := ih after.length (hlen ▸ hlt) hafter hlater rfl
        exact ⟨hspot, hinfix.trans (hparts ▸ List.infix_append_right)⟩

end

/-! ### What the line of a spot shows -/

/-- Line `n` of a text has a blemish of the kind, which is `text`. -/
def Blemish.StandsOn (b : Blemish) (n : Int) (l text : List Char) : Prop :=
  match b with
  | byteOrderMark => n = 1 ∧ l.head? = some '\uFEFF' ∧ text = ['\uFEFF']
  | carriageReturn => '\r' ∈ l ∧ text = ['\r']
  | tab => '\t' ∈ l ∧ text = ['\t']
  | trailingSpaces => trailing l ≠ [] ∧ text = trailing l
  | zeroWidth => ∃ c ∈ l, isZeroWidth c = true ∧ text = [c]

/-- A text begins as its first line does. -/
theorem exists_first_line {c : Char} (hc : c ≠ '\n') (h : s.head? = some c) :
    ∃ l, IsLine s 1 l ∧ l.head? = some c := by
  obtain ⟨s', rfl⟩ := List.head?_eq_some_iff.mp h
  obtain ⟨l, ls, hl⟩ := List.exists_cons_of_ne_nil (Text.splitOn_ne_nil '\n' s')
  refine ⟨c :: l, ⟨0, rfl, ?_⟩, rfl⟩
  rw [Text.splitOn, if_neg hc, hl]
  rfl

/-- **The line of a blemish has it.** -/
theorem exists_line_of_mem_spots {b : Blemish} {spot : Spot} (h : spot ∈ b.spots s) :
    ∃ l, IsLine s spot.line l ∧ b.StandsOn spot.line l spot.text := by
  cases b with
  | byteOrderMark =>
    rw [Blemish.spots] at h
    split at h
    · next hhead =>
      obtain rfl := List.mem_singleton.mp h
      obtain ⟨l, hl, hmark⟩ := exists_first_line (by decide) hhead
      exact ⟨l, hl, rfl, hmark, rfl⟩
    · contradiction
  | carriageReturn =>
    obtain ⟨l, hl, c, hc, heq, htext⟩ := exists_line_of_mem_charSpots (by decide) h
    obtain rfl := eq_of_beq heq
    exact ⟨l, hl, hc, htext⟩
  | tab =>
    obtain ⟨l, hl, c, hc, heq, htext⟩ := exists_line_of_mem_charSpots (by decide) h
    obtain rfl := eq_of_beq heq
    exact ⟨l, hl, hc, htext⟩
  | zeroWidth =>
    obtain ⟨l, hl, c, hc, hwidth, htext⟩ := exists_line_of_mem_charSpots (by decide) h
    exact ⟨l, hl, c, hc, hwidth, htext⟩
  | trailingSpaces =>
    obtain ⟨i, l, hl, hline, hspaces⟩ := exists_of_mem_trailingSpots h
    exact ⟨l, ⟨i, by omega, hl⟩, hspaces⟩

/-- **The line of a form that is typed has it.** -/
theorem exists_line_of_mem_punctuationSpots {rule : PunctuationRule}
    (hrule : rule ∈ punctuationRules) {spot : Spot} (h : spot ∈ punctuationSpots rule s) :
    ∃ l, IsLine s spot.line l ∧ spot.text = rule.ascii ∧ rule.ascii <:+: l := by
  obtain ⟨hne, hfeed⟩ := Markup.inert_feed.2 rule hrule
  obtain ⟨n, l, hl, hspot⟩ := (lineByLine_occurrenceSpots hne hfeed).exists_isLine h
  obtain ⟨rfl, hinfix⟩ := eq_of_mem_occurrenceSpots hl.notMem hspot
  exact ⟨l, hl, rfl, hinfix⟩

/-! ### Lines that something is removed from -/

/-- The mark at the beginning of a text is that of its first line. -/
theorem splitOn_remove_byteOrderMark (s : List Char) :
    Text.splitOn '\n' (Blemish.byteOrderMark.remove s)
      = (Text.splitOn '\n' s).modifyHead Blemish.byteOrderMark.remove := by
  cases s with
  | nil => rfl
  | cons c s =>
    obtain ⟨l, ls, hl⟩ := List.exists_cons_of_ne_nil (Text.splitOn_ne_nil '\n' s)
    by_cases hc : c = '\uFEFF'
    · rw [hc, Text.splitOn, if_neg (by decide), hl]
      exact hl
    · have hmark (t : List Char) : Blemish.byteOrderMark.remove (c :: t) = c :: t :=
        if_neg (by simpa using hc)
      rw [hmark, Text.splitOn, hl]
      split
      · rfl
      · rw [List.modifyHead_cons, hmark]

/-- **A text is mended line by line.** -/
theorem splitOn_mend_lines (s : List Char) :
    Text.splitOn '\n' (mend s)
      = ((Text.splitOn '\n' s).modifyHead Blemish.byteOrderMark.remove).map mendLine := by
  rw [splitOn_mend, splitOn_remove_byteOrderMark]

theorem count_mend (s : List Char) : (mend s).count '\n' = s.count '\n' := by
  have hlength := congrArg List.length (splitOn_mend_lines s)
  rw [List.length_map, List.length_modifyHead, Text.length_splitOn, Text.length_splitOn] at hlength
  omega

section

variable {n : Int} {l' : List Char}

theorem exists_line_of_remove_mark (h : IsLine (Blemish.byteOrderMark.remove s) n l') :
    ∃ l, IsLine s n l ∧ l' <:+ l := by
  obtain ⟨i, hn, hl'⟩ := h
  rw [splitOn_remove_byteOrderMark, List.getElem?_modifyHead] at hl'
  split at hl'
  · obtain ⟨l, hl, rfl⟩ := Option.map_eq_some_iff.mp hl'
    refine ⟨l, ⟨i, hn, hl⟩, ?_⟩
    rw [Blemish.remove]
    split
    · exact List.tail_suffix l
    · exact List.suffix_rfl
  · exact ⟨l', ⟨i, hn, hl'⟩, List.suffix_rfl⟩

theorem exists_line_of_filter {p : Char → Bool} (hp : p '\n' = true)
    (h : IsLine (s.filter p) n l') : ∃ l, IsLine s n l ∧ l' = l.filter p := by
  obtain ⟨i, hn, hl'⟩ := h
  rw [splitOn_filter hp, List.getElem?_map] at hl'
  obtain ⟨l, hl, rfl⟩ := Option.map_eq_some_iff.mp hl'
  exact ⟨l, ⟨i, hn, hl⟩, rfl⟩

/-- **A line keeps its number** when a kind of blemishes is removed from the text. -/
theorem exists_line_of_remove {b : Blemish} (h : IsLine (b.remove s) n l') :
    ∃ l, IsLine s n l ∧ l'.Sublist l := by
  have hfilter (p : Char → Bool) (hp : p '\n' = true) (h : IsLine (s.filter p) n l') :
      ∃ l, IsLine s n l ∧ l'.Sublist l := by
    obtain ⟨l, hl, rfl⟩ := exists_line_of_filter hp h
    exact ⟨l, hl, List.filter_sublist⟩
  cases b with
  | byteOrderMark =>
    obtain ⟨l, hl, hsuffix⟩ := exists_line_of_remove_mark h
    exact ⟨l, hl, hsuffix.sublist⟩
  | carriageReturn | tab | zeroWidth => exact hfilter _ (by decide) h
  | trailingSpaces =>
    obtain ⟨i, hn, hl'⟩ := h
    rw [splitOn_remove_trailingSpaces, List.getElem?_map] at hl'
    obtain ⟨l, hl, rfl⟩ := Option.map_eq_some_iff.mp hl'
    exact ⟨l, ⟨i, hn, hl⟩, withoutTrailing_sublist l⟩

/-- **A line keeps its number** when some kinds are removed, one after the other. -/
theorem exists_line_of_foldl_remove (kinds : List Blemish)
    (h : IsLine (kinds.foldl (fun t b => b.remove t) s) n l') :
    ∃ l, IsLine s n l ∧ l'.Sublist l := by
  induction kinds generalizing s with
  | nil => exact ⟨l', h, List.Sublist.refl l'⟩
  | cons b kinds ih =>
    obtain ⟨k, hk, hsub⟩ := ih h
    obtain ⟨l, hl, hsub'⟩ := exists_line_of_remove hk
    exact ⟨l, hl, hsub.trans hsub'⟩

/-- A line that is left was typed, and the other way round. -/
theorem exists_line_mend {l : List Char} (h : IsLine s n l) : ∃ left, IsLine (mend s) n left := by
  obtain ⟨i, hn, hl⟩ := h
  have hlt : i < (Text.splitOn '\n' (mend s)).length := by
    rw [splitOn_mend_lines, List.length_map, List.length_modifyHead]
    exact (List.getElem?_eq_some_iff.mp hl).1
  exact ⟨_, i, hn, List.getElem?_eq_getElem hlt⟩

end

/-! ### What is removed -/

/-- Line `n`, as it is typed, has a blemish of the kind, once the kinds before this one are
removed: the spaces at its end may stand before carriage returns and tabs. -/
def Blemish.StoodOn (b : Blemish) (n : Int) (l : List Char) : Prop :=
  match b with
  | trailingSpaces => (l.filter (!isStray ·)).getLast? = some ' '
  | b => ∃ text, b.StandsOn n l text

/-- What is found of some kinds of blemishes, each being removed before the next is looked for. -/
def removedFindings : List Blemish → List Char → List Finding
  | [], _ => []
  | b :: kinds, s =>
    (b.spots s).map (fun spot => ⟨spot.line, .removed b⟩) ++ removedFindings kinds (b.remove s)

/-- Spaces at the end of a line end it also with its byte order mark. -/
theorem getLast?_filter_of_suffix {p : Char → Bool} {l l' : List Char} {c : Char} (h : l' <:+ l)
    (hlast : (l'.filter p).getLast? = some c) : (l.filter p).getLast? = some c := by
  obtain ⟨x, rfl⟩ := h
  rw [List.filter_append, List.getLast?_append, hlast]
  rfl

/-- The spaces that are removed end their line once the carriage returns and tabs are gone. -/
theorem exists_line_of_strays_removed {n : Int} {l' : List Char}
    (h : IsLine (Blemish.tab.remove (Blemish.carriageReturn.remove
      (Blemish.byteOrderMark.remove s))) n l') (hspaces : trailing l' ≠ []) :
    ∃ l, IsLine s n l ∧ (l.filter (!isStray ·)).getLast? = some ' ' := by
  rw [remove_strays] at h
  obtain ⟨k, hk, rfl⟩ := exists_line_of_filter (by decide) h
  obtain ⟨l, hl, hsuffix⟩ := exists_line_of_remove_mark hk
  rw [trailing, cutReturn_of_notMem (notMem_filter_strays k), Ne, endSpaces_eq_nil_iff,
    not_not] at hspaces
  exact ⟨l, hl, getLast?_filter_of_suffix hsuffix hspaces⟩

/-- **The line of a blemish that is removed had it** when the text was typed. -/
theorem exists_line_of_mem_removedFindings {f : Finding}
    (h : f ∈ removedFindings Blemish.all s) :
    ∃ b l, f.issue = .removed b ∧ IsLine s f.line l ∧ b.StoodOn f.line l := by
  simp only [removedFindings, Blemish.all, List.mem_append, List.mem_map, List.not_mem_nil,
    or_false] at h
  -- what is left of a line when a kind is looked for is still in the line as it was typed
  rcases h with ⟨spot, hspot, rfl⟩ | ⟨spot, hspot, rfl⟩ | ⟨spot, hspot, rfl⟩ |
    ⟨spot, hspot, rfl⟩ | ⟨spot, hspot, rfl⟩
  · obtain ⟨l, hl, hstands⟩ := exists_line_of_mem_spots hspot
    exact ⟨_, l, rfl, hl, _, hstands⟩
  · obtain ⟨l', hl', hmem, htext⟩ := exists_line_of_mem_spots hspot
    obtain ⟨l, hl, hsub⟩ := exists_line_of_foldl_remove [.byteOrderMark] hl'
    exact ⟨_, l, rfl, hl, _, hsub.subset hmem, htext⟩
  · obtain ⟨l', hl', hmem, htext⟩ := exists_line_of_mem_spots hspot
    obtain ⟨l, hl, hsub⟩ :=
      exists_line_of_foldl_remove [.byteOrderMark, .carriageReturn] hl'
    exact ⟨_, l, rfl, hl, _, hsub.subset hmem, htext⟩
  · obtain ⟨l', hl', hspaces, -⟩ := exists_line_of_mem_spots hspot
    obtain ⟨l, hl, hlast⟩ := exists_line_of_strays_removed hl' hspaces
    exact ⟨_, l, rfl, hl, hlast⟩
  · obtain ⟨l', hl', c, hmem, hwidth, htext⟩ := exists_line_of_mem_spots hspot
    obtain ⟨l, hl, hsub⟩ := exists_line_of_foldl_remove
      [.byteOrderMark, .carriageReturn, .tab, .trailingSpaces] hl'
    exact ⟨_, l, rfl, hl, _, c, hsub.subset hmem, hwidth, htext⟩

end Kumihan.Lint
