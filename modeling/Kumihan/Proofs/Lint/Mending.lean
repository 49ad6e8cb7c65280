import Mathlib.Data.List.DropRight
import Kumihan.Lint.Blemish
import Kumihan.Proofs.Text.Line

/-!
# Mending a text

A text is mended by removing one kind of blemish after the other.  What is removed can bring
another blemish to light: the mark behind a byte order mark stands at the beginning once that is
gone, and the spaces before a character without a width end their line once that is gone.  The
kinds are removed in an order that catches what carriage returns and tabs hide at the ends of
lines, and nothing else.

## Main definitions

* `mend s` — the text without the blemishes of any kind, one kind after the other.
* `isLoose` — the characters that are removed wherever they stand.
* `Settles s` — nothing comes to light in the text too late to be removed.

## Main results

* `remove_eq_self_iff` — a text without a blemish of a kind stays as it is, and no other does.
* `mend_eq_joinLines` — **a text is mended line by line**, but for the mark at its beginning.
* `spots_mend_iff` — **what is mended has no blemish left exactly if it settles.**
-/

namespace Kumihan.Lint

open Blemish (charSpots cutReturn dropEndSpaces endSpaces isZeroWidth joinLines trailing
  trailingSpots withoutTrailing)

variable {s : List Char}

/-! ### Where a blemish stands -/

theorem charSpots_eq_nil_iff {p : Char → Bool} {line : Nat} :
    charSpots p line s = [] ↔ ∀ c ∈ s, p c = false := by
  induction s generalizing line with
  | nil => exact ⟨fun _ c hc => absurd hc List.not_mem_nil, fun _ => rfl⟩
  | cons d s ih =>
    rw [charSpots, List.forall_mem_cons]
    cases hd : p d with
    | true => simp
    | false => simpa using ih

theorem charSpots_beq_eq_nil_iff {c : Char} {line : Nat} :
    charSpots (· == c) line s = [] ↔ c ∉ s := by
  rw [charSpots_eq_nil_iff]
  constructor
  · intro h hc
    simpa using h c hc
  · intro h d hd
    rw [beq_eq_false_iff_ne]
    rintro rfl
    exact h hd

theorem trailingSpots_eq_nil_iff {line : Nat} {ls : List (List Char)} :
    trailingSpots line ls = [] ↔ ∀ l ∈ ls, trailing l = [] := by
  induction ls generalizing line with
  | nil => exact ⟨fun _ l hl => absurd hl List.not_mem_nil, fun _ => rfl⟩
  | cons l ls ih =>
    rw [trailingSpots, List.forall_mem_cons]
    cases hl : trailing l with
    | nil => simpa using ih
    | cons c cs => simp

theorem spots_byteOrderMark_iff :
    Blemish.byteOrderMark.spots s = [] ↔ s.head? ≠ some '\uFEFF' := by
  rw [Blemish.spots]
  split <;> simp_all

theorem spots_carriageReturn_iff : Blemish.carriageReturn.spots s = [] ↔ '\r' ∉ s :=
  charSpots_beq_eq_nil_iff

theorem spots_tab_iff : Blemish.tab.spots s = [] ↔ '\t' ∉ s :=
  charSpots_beq_eq_nil_iff

theorem spots_trailingSpaces_iff :
    Blemish.trailingSpaces.spots s = [] ↔ ∀ l ∈ Text.splitOn '\n' s, trailing l = [] :=
  trailingSpots_eq_nil_iff

theorem spots_zeroWidth_iff :
    Blemish.zeroWidth.spots s = [] ↔ ∀ c ∈ s, isZeroWidth c = false :=
  charSpots_eq_nil_iff

/-! ### Lines put together -/

theorem joinLines_cons {ls : List (List Char)} (h : ls ≠ []) (l : List Char) :
    joinLines (l :: ls) = l ++ '\n' :: joinLines ls := by
  cases ls with
  | nil => exact absurd rfl h
  | cons k ls => rfl

/-- A text is its lines with a line feed between any two. -/
theorem joinLines_splitOn (s : List Char) : joinLines (Text.splitOn '\n' s) = s := by
  induction s using Text.lineInduction with
  | last x hx =>
    rw [Text.splitOn_of_notMem hx]
    rfl
  | step x y hx ih =>
    rw [Text.splitOn_append_cons hx, joinLines_cons (Text.splitOn_ne_nil '\n' y), ih]

/-- Lines are found again that hold no line feed. -/
theorem splitOn_joinLines {ls : List (List Char)} (hne : ls ≠ []) (h : ∀ l ∈ ls, '\n' ∉ l) :
    Text.splitOn '\n' (joinLines ls) = ls := by
  induction ls with
  | nil => exact absurd rfl hne
  | cons l ls ih =>
    rw [List.forall_mem_cons] at h
    by_cases hls : ls = []
    · rw [hls, joinLines, Text.splitOn_of_notMem h.1]
    · rw [joinLines_cons hls, Text.splitOn_append_cons h.1, ih hls h.2]

theorem joinLines_map_sublist {f : List Char → List Char} (hf : ∀ l, (f l).Sublist l)
    (ls : List (List Char)) : (joinLines (ls.map f)).Sublist (joinLines ls) := by
  induction ls with
  | nil => exact List.Sublist.refl _
  | cons l ls ih =>
    by_cases hls : ls = []
    · rw [hls]
      exact hf l
    · rw [List.map_cons, joinLines_cons (by simpa using hls), joinLines_cons hls]
      exact (hf l).append (ih.cons_cons '\n')

/-- Where line feeds are kept, what is filtered is filtered line by line. -/
theorem splitOn_filter {p : Char → Bool} (hp : p '\n' = true) (s : List Char) :
    Text.splitOn '\n' (s.filter p) = (Text.splitOn '\n' s).map (List.filter p) := by
  have hnot (x : List Char) (hx : '\n' ∉ x) : '\n' ∉ x.filter p :=
    fun hmem => hx (List.mem_filter.mp hmem).1
  induction s using Text.lineInduction with
  | last x hx =>
    rw [Text.splitOn_of_notMem (hnot x hx), Text.splitOn_of_notMem hx, List.map_singleton]
  | step x y hx ih =>
    rw [List.filter_append, List.filter_cons_of_pos hp, Text.splitOn_append_cons (hnot x hx), ih,
      Text.splitOn_append_cons hx, List.map_cons]

/-! ### Spaces at the end of a line -/

theorem dropEndSpaces_append_endSpaces (l : List Char) : dropEndSpaces l ++ endSpaces l = l :=
  List.rdropWhile_append_rtakeWhile

theorem eq_of_mem_endSpaces {l : List Char} {c : Char} (h : c ∈ endSpaces l) : c = ' ' := by
  simpa using List.mem_rtakeWhile_imp h

theorem dropEndSpaces_sublist (l : List Char) : (dropEndSpaces l).Sublist l :=
  (List.rdropWhile_prefix (· = ' ') (l := l)).sublist

theorem getLast?_dropEndSpaces (l : List Char) : (dropEndSpaces l).getLast? ≠ some ' ' := by
  intro h
  have hne : dropEndSpaces l ≠ [] := by
    intro hnil
    rw [hnil] at h
    contradiction
  have hlast := List.rdropWhile_last_not (· = ' ') l hne
  rw [List.getLast?_eq_some_getLast hne, Option.some.injEq] at h
  exact hlast (decide_eq_true h)

/-- Spaces behind another character are dropped, and no more. -/
theorem dropEndSpaces_append {l sp : List Char} (hl : l.getLast? ≠ some ' ')
    (hsp : ∀ c ∈ sp, c = ' ') : dropEndSpaces (l ++ sp) = l := by
  induction sp using List.reverseRecOn with
  | nil =>
    rw [List.append_nil]
    refine List.rdropWhile_eq_self_iff.mpr fun hne => ?_
    rw [List.getLast?_eq_some_getLast hne] at hl
    simpa using hl
  | append_singleton sp c ih =>
    have hc : c = ' ' := hsp c (by simp)
    rw [← List.append_assoc]
    refine (List.rdropWhile_concat_pos (· = ' ') _ _ (by simpa using hc)).trans ?_
    exact ih fun d hd => hsp d (List.mem_append_left _ hd)

/-- Up to a character that is no space nothing is dropped. -/
theorem dropEndSpaces_append_of_mem {x y : List Char} {c : Char} (hc : c ∈ y) (hne : c ≠ ' ') :
    dropEndSpaces (x ++ y) = x ++ dropEndSpaces y := by
  have hy : ¬ (y.reverse.dropWhile (· = ' ')).isEmpty = true := by
    intro h
    have hall := List.dropWhile_eq_nil_iff.mp (List.isEmpty_iff.mp h) c (List.mem_reverse.mpr hc)
    exact hne (by simpa using hall)
  rw [dropEndSpaces, dropEndSpaces, List.reverse_append, List.dropWhile_append, if_neg hy,
    List.reverse_append, List.reverse_reverse]

theorem endSpaces_eq_nil_iff {l : List Char} : endSpaces l = [] ↔ l.getLast? ≠ some ' ' := by
  constructor
  · intro h
    have hl := dropEndSpaces_append_endSpaces l
    rw [h, List.append_nil] at hl
    exact hl ▸ getLast?_dropEndSpaces l
  · intro h
    have hl := dropEndSpaces_append_endSpaces l
    rw [← List.append_nil l, dropEndSpaces_append h fun _ hc => absurd hc List.not_mem_nil] at hl
    simpa using hl

theorem cutReturn_append (l : List Char) : (cutReturn l).1 ++ (cutReturn l).2 = l := by
  rw [cutReturn]
  split
  · next h =>
    obtain ⟨x, rfl⟩ := List.getLast?_eq_some_iff.mp h
    simp
  · exact List.append_nil l

theorem cutReturn_of_notMem {l : List Char} (h : '\r' ∉ l) : cutReturn l = (l, []) :=
  if_neg fun hlast => h (List.mem_of_getLast? hlast)

theorem withoutTrailing_sublist (l : List Char) : (withoutTrailing l).Sublist l := by
  have h : ((cutReturn l).1 ++ (cutReturn l).2) = l := cutReturn_append l
  conv => rhs; rw [← h]
  exact (dropEndSpaces_sublist _).append_right _

theorem withoutTrailing_eq_self_iff {l : List Char} : withoutTrailing l = l ↔ trailing l = [] := by
  have hcut := cutReturn_append l
  have hends := dropEndSpaces_append_endSpaces (cutReturn l).1
  constructor
  · intro h
    have h : dropEndSpaces (cutReturn l).1 ++ (cutReturn l).2
        = (cutReturn l).1 ++ (cutReturn l).2 := h.trans hcut.symm
    rw [List.append_left_inj] at h
    rw [h] at hends
    rw [trailing]
    simpa using hends
  · intro h
    have h : endSpaces (cutReturn l).1 = [] := h
    rw [h, List.append_nil] at hends
    show dropEndSpaces (cutReturn l).1 ++ (cutReturn l).2 = l
    rw [hends, hcut]

/-! ### One kind of blemish -/

theorem notMem_withoutTrailing {c : Char} {l : List Char} (h : c ∉ l) : c ∉ withoutTrailing l :=
  fun hmem => h ((withoutTrailing_sublist l).subset hmem)

/-- The lines of a text without spaces at their ends. -/
theorem splitOn_remove_trailingSpaces (s : List Char) :
    Text.splitOn '\n' (Blemish.trailingSpaces.remove s)
      = (Text.splitOn '\n' s).map withoutTrailing := by
  refine splitOn_joinLines (by simpa using Text.splitOn_ne_nil '\n' s) ?_
  intro l hl
  obtain ⟨line, hline, rfl⟩ := List.mem_map.mp hl
  exact notMem_withoutTrailing (Text.notMem_of_mem_splitOn hline)

/-- What is left stood there before. -/
theorem remove_sublist (b : Blemish) (s : List Char) : (b.remove s).Sublist s := by
  cases b with
  | byteOrderMark =>
    rw [Blemish.remove]
    split
    · exact List.tail_sublist s
    · exact List.Sublist.refl s
  | carriageReturn | tab | zeroWidth => exact List.filter_sublist
  | trailingSpaces =>
    have h := joinLines_map_sublist withoutTrailing_sublist (Text.splitOn '\n' s)
    rwa [joinLines_splitOn] at h

theorem filter_bne_eq_self_iff {c : Char} : s.filter (· != c) = s ↔ c ∉ s := by
  rw [List.filter_eq_self]
  constructor
  · intro h hc
    simpa using h c hc
  · rintro h d hd
    rw [bne_iff_ne]
    rintro rfl
    exact h hd

/-- **A text without a blemish of a kind stays as it is**, and no other does. -/
theorem remove_eq_self_iff {b : Blemish} : b.remove s = s ↔ b.spots s = [] := by
  cases b with
  | byteOrderMark =>
    rw [spots_byteOrderMark_iff, Blemish.remove]
    cases s with
    | nil => simp
    | cons c s =>
      by_cases hc : c = '\uFEFF'
      · simp [hc]
      · simp [hc]
  | carriageReturn =>
    rw [spots_carriageReturn_iff]
    exact filter_bne_eq_self_iff
  | tab =>
    rw [spots_tab_iff]
    exact filter_bne_eq_self_iff
  | zeroWidth =>
    rw [spots_zeroWidth_iff, Blemish.remove, List.filter_eq_self]
    simp
  | trailingSpaces =>
    rw [spots_trailingSpaces_iff]
    constructor
    · intro h l hl
      have hlines := splitOn_remove_trailingSpaces s
      rw [h, ← List.map_id (Text.splitOn '\n' s), List.map_map, List.map_inj_left] at hlines
      exact withoutTrailing_eq_self_iff.mp (hlines l hl).symm
    · intro h
      have hlines : (Text.splitOn '\n' s).map withoutTrailing = (Text.splitOn '\n' s).map id :=
        List.map_congr_left fun l hl => withoutTrailing_eq_self_iff.mpr (h l hl)
      rw [Blemish.remove, hlines, List.map_id, joinLines_splitOn]

/-! ### One kind after the other -/

/-- The text without the blemishes of any kind, one kind after the other. -/
def mend (s : List Char) : List Char := Blemish.all.foldl (fun t b => b.remove t) s

theorem foldl_remove_sublist (kinds : List Blemish) (s : List Char) :
    (kinds.foldl (fun t b => b.remove t) s).Sublist s := by
  induction kinds generalizing s with
  | nil => exact List.Sublist.refl s
  | cons b kinds ih => exact (ih (b.remove s)).trans (remove_sublist b s)

theorem foldl_remove_eq_self_iff {kinds : List Blemish} :
    kinds.foldl (fun t b => b.remove t) s = s ↔ ∀ b ∈ kinds, b.spots s = [] := by
  induction kinds with
  | nil => exact ⟨fun _ b hb => absurd hb List.not_mem_nil, fun _ => rfl⟩
  | cons b kinds ih =>
    rw [List.foldl_cons, List.forall_mem_cons, ← ih, ← remove_eq_self_iff]
    constructor
    · intro h
      -- nothing is put back, so what is the same in the end was the same in between
      have hrest := foldl_remove_sublist kinds (b.remove s)
      rw [h] at hrest
      have hb : b.remove s = s := (remove_sublist b s).antisymm hrest
      exact ⟨hb, by rwa [hb] at h⟩
    · rintro ⟨hb, h⟩
      rw [hb, h]

/-- **What is mended is the same text exactly if it has no blemish.** -/
theorem mend_eq_self_iff : mend s = s ↔ ∀ b ∈ Blemish.all, b.spots s = [] :=
  foldl_remove_eq_self_iff

/-! ### One line after the other -/

/-- The characters that are removed before the ends of lines are looked at. -/
def isStray (c : Char) : Bool := c == '\r' || c == '\t'

/-- The characters that are removed wherever they stand. -/
def isLoose (c : Char) : Bool := isStray c || isZeroWidth c

/-- A line of a text, mended. -/
def mendLine (l : List Char) : List Char :=
  (dropEndSpaces (l.filter (!isStray ·))).filter (!isZeroWidth ·)

theorem mendLine_sublist (l : List Char) : (mendLine l).Sublist l :=
  List.filter_sublist.trans ((dropEndSpaces_sublist _).trans List.filter_sublist)

theorem filter_joinLines {p : Char → Bool} (hp : p '\n' = true) (ls : List (List Char)) :
    (joinLines ls).filter p = joinLines (ls.map (List.filter p)) := by
  induction ls with
  | nil => rfl
  | cons l ls ih =>
    by_cases hls : ls = []
    · rw [hls]
      rfl
    · rw [joinLines_cons hls, List.map_cons, joinLines_cons (by simpa using hls),
        List.filter_append, List.filter_cons_of_pos hp, ih]

/-- The strays are removed as two kinds. -/
theorem remove_strays (s : List Char) :
    Blemish.tab.remove (Blemish.carriageReturn.remove s) = s.filter (!isStray ·) := by
  simp only [Blemish.remove, List.filter_filter]
  refine List.filter_congr fun c _ => ?_
  simp [isStray, bne, Bool.and_comm]

theorem notMem_filter_strays (l : List Char) : '\r' ∉ l.filter (!isStray ·) := by
  intro h
  simp [isStray] at h

/-- **A text is mended line by line**, but for the mark at its beginning. -/
theorem mend_eq_joinLines (s : List Char) :
    mend s = joinLines ((Text.splitOn '\n' (Blemish.byteOrderMark.remove s)).map mendLine) := by
  show Blemish.zeroWidth.remove (Blemish.trailingSpaces.remove
    (Blemish.tab.remove (Blemish.carriageReturn.remove (Blemish.byteOrderMark.remove s)))) = _
  generalize Blemish.byteOrderMark.remove s = t
  rw [remove_strays]
  show (joinLines ((Text.splitOn '\n' (t.filter (!isStray ·))).map withoutTrailing)).filter
    (!isZeroWidth ·) = _
  rw [splitOn_filter (by decide), filter_joinLines (by decide), List.map_map, List.map_map]
  refine congrArg joinLines (List.map_congr_left fun l _ => ?_)
  simp only [Function.comp_apply, withoutTrailing, cutReturn_of_notMem (notMem_filter_strays l),
    List.append_nil, mendLine]

theorem splitOn_mend (s : List Char) :
    Text.splitOn '\n' (mend s)
      = (Text.splitOn '\n' (Blemish.byteOrderMark.remove s)).map mendLine := by
  rw [mend_eq_joinLines]
  refine splitOn_joinLines (by simpa using Text.splitOn_ne_nil '\n' _) ?_
  intro l hl
  obtain ⟨line, hline, rfl⟩ := List.mem_map.mp hl
  exact fun hmem => Text.notMem_of_mem_splitOn hline ((mendLine_sublist line).subset hmem)

theorem eq_or_mem_of_mem_joinLines {c : Char} {ls : List (List Char)} (h : c ∈ joinLines ls) :
    c = '\n' ∨ ∃ l ∈ ls, c ∈ l := by
  induction ls with
  | nil => exact absurd h List.not_mem_nil
  | cons l ls ih =>
    by_cases hls : ls = []
    · rw [hls] at h
      exact Or.inr ⟨l, List.mem_cons_self, h⟩
    · rw [joinLines_cons hls, List.mem_append, List.mem_cons] at h
      rcases h with h | h | h
      · exact Or.inr ⟨l, List.mem_cons_self, h⟩
      · exact Or.inl h
      · refine (ih h).imp_right fun ⟨k, hk, hc⟩ => ⟨k, List.mem_cons_of_mem l hk, hc⟩

theorem isLoose_of_mem_mendLine {c : Char} {l : List Char} (h : c ∈ mendLine l) :
    isLoose c = false := by
  obtain ⟨hc, hwidth⟩ := List.mem_filter.mp h
  have hstray := (List.mem_filter.mp ((dropEndSpaces_sublist _).subset hc)).2
  simp only [Bool.not_eq_true'] at hwidth hstray
  rw [isLoose, hwidth, hstray, Bool.or_false]

/-- **No loose character is left.** -/
theorem isLoose_of_mem_mend {c : Char} (h : c ∈ mend s) : isLoose c = false := by
  rw [mend_eq_joinLines] at h
  rcases eq_or_mem_of_mem_joinLines h with rfl | ⟨l, hl, hc⟩
  · decide
  · obtain ⟨line, -, rfl⟩ := List.mem_map.mp hl
    exact isLoose_of_mem_mendLine hc

/-! ### What comes to light -/

/-- Beside the spaces at its end, a line loses its loose characters. -/
theorem mendLine_append (l : List Char) :
    mendLine l ++ endSpaces (l.filter (!isStray ·)) = l.filter (!isLoose ·) := by
  have hends : (endSpaces (l.filter (!isStray ·))).filter (!isZeroWidth ·)
      = endSpaces (l.filter (!isStray ·)) := by
    rw [List.filter_eq_self]
    intro c hc
    rw [eq_of_mem_endSpaces hc]
    decide
  rw [← hends, mendLine, ← List.filter_append, dropEndSpaces_append_endSpaces, List.filter_filter]
  refine List.filter_congr fun c _ => ?_
  rw [isLoose, Bool.not_or, Bool.and_comm]

/-- What stands behind does not begin like that, so it is the text before it that does. -/
theorem head?_append_eq_some_iff {m : Char} {x y : List Char} (hy : y.head? ≠ some m) :
    (x ++ y).head? = some m ↔ x.head? = some m := by
  cases x with
  | nil => exact ⟨fun h => absurd h hy, nofun⟩
  | cons c x => exact Iff.rfl

/-- A mended text begins with a byte order mark exactly if one stands behind loose characters
only. -/
theorem head?_mend_eq_mark_iff :
    (mend s).head? = some '\uFEFF'
      ↔ (Blemish.byteOrderMark.remove s).find? (!isLoose ·) = some '\uFEFF' := by
  have hfeed (y : List Char) : ('\n' :: y).head? ≠ some '\uFEFF' := nofun
  have hline (x : List Char) :
      (mendLine x).head? = some '\uFEFF' ↔ (x.filter (!isLoose ·)).head? = some '\uFEFF' := by
    rw [← mendLine_append, head?_append_eq_some_iff]
    intro h
    have hspace := eq_of_mem_endSpaces (List.mem_of_mem_head? h)
    contradiction
  rw [mend_eq_joinLines, ← List.head?_filter]
  induction Blemish.byteOrderMark.remove s using Text.lineInduction with
  | last x hx =>
    rw [Text.splitOn_of_notMem hx]
    exact hline x
  | step x y hx =>
    rw [Text.splitOn_append_cons hx, List.map_cons,
      joinLines_cons (by simpa using Text.splitOn_ne_nil '\n' y),
      head?_append_eq_some_iff (hfeed _), hline, List.filter_append,
      List.filter_cons_of_pos (by decide), head?_append_eq_some_iff (hfeed _)]

/-- At the end of the line a character without a width stands behind a space, and behind that space
there is nothing that stays. -/
def HidesSpace (l : List Char) : Prop :=
  ∃ x y, l = x ++ ' ' :: y ∧ (∀ c ∈ y, c = ' ' ∨ isLoose c = true) ∧ ∃ c ∈ y, isZeroWidth c = true

theorem isStray_of_isZeroWidth {c : Char} (h : isZeroWidth c = true) : isStray c = false := by
  rw [isStray, Bool.or_eq_false_iff, beq_eq_false_iff_ne, beq_eq_false_iff_ne]
  constructor
  all_goals
    rintro rfl
    revert h
    decide

/-- **A mended line ends in a space** if characters without a width were removed from behind it. -/
theorem hidesSpace_of_getLast? {l : List Char} (h : (mendLine l).getLast? = some ' ') :
    HidesSpace l := by
  have hends := dropEndSpaces_append_endSpaces (l.filter (!isStray ·))
  have hlast := getLast?_dropEndSpaces (l.filter (!isStray ·))
  have hspaces : ∀ c ∈ endSpaces (l.filter (!isStray ·)), c = ' ' := fun c => eq_of_mem_endSpaces
  rw [mendLine] at h
  generalize dropEndSpaces (l.filter (!isStray ·)) = d at h hends hlast
  generalize endSpaces (l.filter (!isStray ·)) = sp at hends hspaces
  -- the space is not at the end of `d`, so there is something behind it that is filtered out
  obtain ⟨u, hu⟩ := List.getLast?_eq_some_iff.mp h
  obtain ⟨d₁, d₂, rfl, -, hd₂⟩ := List.filter_eq_append_iff.mp hu
  obtain ⟨z, v, rfl, -, -, hv⟩ := List.filter_eq_cons_iff.mp hd₂
  have hvne : v ≠ [] := by
    rintro rfl
    simp at hlast
  have hwidth : ∀ c ∈ v, isZeroWidth c = true := by simpa using List.filter_eq_nil_iff.mp hv
  -- the same space in the line
  have hl : l.filter (!isStray ·) = (d₁ ++ z) ++ (' ' :: (v ++ sp)) := by
    rw [← hends]
    simp
  obtain ⟨l₁, l₂, rfl, -, hl₂⟩ := List.filter_eq_append_iff.mp hl
  obtain ⟨k, y, rfl, -, -, hy⟩ := List.filter_eq_cons_iff.mp hl₂
  refine ⟨l₁ ++ k, y, by simp, fun c hc => ?_, ?_⟩
  · by_cases hstray : isStray c = true
    · exact Or.inr (by rw [isLoose, hstray, Bool.true_or])
    · have hmem : c ∈ v ++ sp := hy ▸ List.mem_filter.mpr ⟨hc, by simpa using hstray⟩
      rcases List.mem_append.mp hmem with hmem | hmem
      · exact Or.inr (by rw [isLoose, hwidth c hmem, Bool.or_true])
      · exact Or.inl (hspaces c hmem)
  · obtain ⟨c, hc⟩ := List.exists_mem_of_ne_nil v hvne
    have hmem : c ∈ y.filter (!isStray ·) := hy ▸ List.mem_append_left _ hc
    exact ⟨c, (List.mem_filter.mp hmem).1, hwidth c hc⟩

theorem getLast?_of_hidesSpace {l : List Char} (h : HidesSpace l) :
    (mendLine l).getLast? = some ' ' := by
  obtain ⟨x, y, rfl, hy, c, hc, hwidth⟩ := h
  have hc : c ∈ y.filter (!isStray ·) :=
    List.mem_filter.mpr ⟨hc, by simp [isStray_of_isZeroWidth hwidth]⟩
  have hne : c ≠ ' ' := by
    rintro rfl
    exact absurd hwidth (by decide)
  -- what is left behind the space is spaces
  have hleft : ∀ e ∈ mendLine y, e = ' ' := by
    intro e he
    rcases hy e ((mendLine_sublist y).subset he) with rfl | hloose
    · rfl
    · rw [isLoose_of_mem_mendLine he] at hloose
      contradiction
  have hmended : mendLine (x ++ ' ' :: y)
      = (x.filter (!isStray ·)).filter (!isZeroWidth ·) ++ ' ' :: mendLine y := by
    rw [mendLine, List.filter_append, List.filter_cons_of_pos (by decide), List.append_cons,
      dropEndSpaces_append_of_mem hc hne, List.filter_append, List.filter_append, mendLine]
    simp [isZeroWidth]
  rw [hmended, List.getLast?_append, List.getLast?_eq_some_getLast (List.cons_ne_nil _ _),
    Option.some_or, Option.some.injEq]
  rcases List.mem_cons.mp (List.getLast_mem (List.cons_ne_nil ' ' (mendLine y))) with h | h
  · exact h
  · exact hleft _ h

/-- Nothing comes to light in the text too late to be removed. -/
structure Settles (s : List Char) : Prop where
  /-- Behind a byte order mark and loose characters no other such mark stands. -/
  mark : (Blemish.byteOrderMark.remove s).find? (!isLoose ·) ≠ some '\uFEFF'
  /-- No line hides a space at its end. -/
  spaces : ∀ l ∈ Text.splitOn '\n' (Blemish.byteOrderMark.remove s), ¬ HidesSpace l

/-- **A mended text has no blemish left** exactly if it settles. -/
theorem spots_mend_iff : (∀ b ∈ Blemish.all, b.spots (mend s) = []) ↔ Settles s := by
  have hreturn : '\r' ∉ mend s := fun h => absurd (isLoose_of_mem_mend h) (by decide)
  have htab : '\t' ∉ mend s := fun h => absurd (isLoose_of_mem_mend h) (by decide)
  have hwidth : ∀ c ∈ mend s, isZeroWidth c = false := fun c hc =>
    (Bool.or_eq_false_iff.mp (isLoose_of_mem_mend hc)).2
  have hmark : Blemish.byteOrderMark.spots (mend s) = []
      ↔ (Blemish.byteOrderMark.remove s).find? (!isLoose ·) ≠ some '\uFEFF' := by
    rw [spots_byteOrderMark_iff, Ne, head?_mend_eq_mark_iff]
  have hspaces : Blemish.trailingSpaces.spots (mend s) = []
      ↔ ∀ l ∈ Text.splitOn '\n' (Blemish.byteOrderMark.remove s), ¬ HidesSpace l := by
    rw [spots_trailingSpaces_iff, splitOn_mend, List.forall_mem_map]
    refine forall_congr' fun l => forall_congr' fun _ => ?_
    have hl : '\r' ∉ mendLine l := fun h => absurd (isLoose_of_mem_mendLine h) (by decide)
    rw [trailing, cutReturn_of_notMem hl, endSpaces_eq_nil_iff]
    exact not_congr ⟨hidesSpace_of_getLast?, getLast?_of_hidesSpace⟩
  constructor
  · intro h
    exact ⟨hmark.mp (h _ (by decide)), hspaces.mp (h _ (by decide))⟩
  · intro h b _
    cases b with
    | byteOrderMark => exact hmark.mpr h.mark
    | carriageReturn => exact spots_carriageReturn_iff.mpr hreturn
    | tab => exact spots_tab_iff.mpr htab
    | trailingSpaces => exact hspaces.mpr h.spaces
    | zeroWidth => exact spots_zeroWidth_iff.mpr hwidth

end Kumihan.Lint
