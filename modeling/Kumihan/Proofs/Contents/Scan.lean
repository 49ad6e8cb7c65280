import Kumihan.Book.Contents
import Kumihan.Proofs.Text.Cut
import Kumihan.Proofs.Text.Line

/-!
# Entries are read line by line

The entries of a table of contents are read off the whole text, from the left.  Since a
marker begins with `#` and holds no other one, and a name runs to the last `#` of its line,
every line gives one name at most, and which one does not depend on the other lines.

## Main definitions

* `nameOn?` — the name that a marker marks on a line.
* `linkedAnchors` — the numbers of the anchors that entries link to.

## Main results

* `markedNames_eq_filterMap_lines` — **names are found line by line.**
* `linkedAnchors_scanEntries` — **the linked entries are numbered from one on.**
-/

namespace Kumihan.Book

/-- The name that a marker marks on a line: it begins behind the first marker and runs to
the last `#`. -/
def nameOn? (marker line : List Char) : Option (List Char) :=
  (Text.cut? marker line).bind fun (_, rest) => (Text.cutLast? '#' rest).map (·.1)

/-! ### One line -/

section

variable {m line rest : List Char}

theorem nameOn?_nil (m : List Char) : nameOn? ('#' :: m) [] = none := rfl

/-- A line without a `#` gives no name. -/
theorem nameOn?_of_notMem (h : '#' ∉ line) : nameOn? ('#' :: m) line = none := by
  have hcut : Text.cut? ('#' :: m) line = none :=
    Text.cut?_eq_none_iff.mpr (Text.not_infix_of_notMem List.mem_cons_self h)
  rw [nameOn?, hcut]
  rfl

/-- A line whose first marker is not at its beginning. -/
theorem nameOn?_cons {d : Char} (h : ¬ '#' :: m <+: d :: line) :
    nameOn? ('#' :: m) (d :: line) = nameOn? ('#' :: m) line := by
  have hp : ¬ ('#' :: m).isPrefixOf (d :: line) = true := fun hp =>
    h (List.isPrefixOf_iff_prefix.mp hp)
  rw [nameOn?, nameOn?, Text.cut?, if_neg hp]
  cases Text.cut? ('#' :: m) line with
  | none => rfl
  | some p => rfl

/-- A line that begins with the marker. -/
theorem nameOn?_marker (body : List Char) :
    nameOn? ('#' :: m) ('#' :: m ++ body) = (Text.cutLast? '#' body).map (·.1) := by
  have hp : ('#' :: m).isPrefixOf ('#' :: m ++ body) = true :=
    List.isPrefixOf_iff_prefix.mpr (List.prefix_append _ _)
  rw [nameOn?, List.cons_append, Text.cut?, ← List.cons_append, if_pos hp, List.drop_left]
  rfl

end

/-! ### Names -/

section

variable {m line rest : List Char}

/-- Behind a line stands nothing, or a line feed. -/
def EndsLine (rest : List Char) : Prop := rest = [] ∨ ∃ t, rest = '\n' :: t

theorem takeWhile_line (hline : '\n' ∉ line) (hrest : EndsLine rest) :
    (line ++ rest).takeWhile (· ≠ '\n') = line ∧ (line ++ rest).dropWhile (· ≠ '\n') = rest := by
  have hall : ∀ c ∈ line, decide (c ≠ '\n') = true := by
    intro c hc
    simp only [decide_eq_true_eq]
    rintro rfl
    exact hline hc
  rw [List.takeWhile_append_of_pos hall, List.dropWhile_append_of_pos hall]
  rcases hrest with rfl | ⟨t, rfl⟩
  · simp
  · simp

/-- A marker that the text begins with marks a name if a `#` follows on its line. -/
theorem markedName?_append {body : List Char} (hbody : '\n' ∉ body) (hrest : EndsLine rest) :
    markedName? ('#' :: m) ('#' :: m ++ body ++ rest)
      = (Text.cutLast? '#' body).map fun (name, tail) => (name, tail ++ rest) := by
  have hp : ('#' :: m).isPrefixOf ('#' :: m ++ (body ++ rest)) = true :=
    List.isPrefixOf_iff_prefix.mpr (List.prefix_append _ _)
  obtain ⟨htake, hdrop⟩ := takeWhile_line hbody hrest
  rw [List.append_assoc, markedName?, if_pos hp, List.drop_left]
  simp only [htake, hdrop]
  cases Text.cutLast? '#' body with
  | none => rfl
  | some p => rfl

/-- A marker does not reach over the end of a line. -/
theorem markedName?_eq_none (hm : '\n' ∉ m) (hrest : EndsLine rest)
    (h : ¬ '#' :: m <+: line) : markedName? ('#' :: m) (line ++ rest) = none := by
  rw [markedName?, if_neg]
  intro hp
  obtain ⟨t, ht⟩ := List.isPrefixOf_iff_prefix.mp hp
  rcases List.append_eq_append_iff.mp ht with ⟨y, hline, -⟩ | ⟨y, hmarker, hy⟩
  · exact h (hline ▸ List.prefix_append _ y)
  · cases y with
    | nil =>
      rw [List.append_nil] at hmarker
      exact h (hmarker ▸ List.prefix_refl _)
    | cons e y =>
      rcases hrest with rfl | ⟨t', rfl⟩
      · simp at hy
      · -- the marker would hold the line feed
        rw [List.cons_append, List.cons.injEq] at hy
        have hmem : e ∈ '#' :: m := by
          rw [hmarker]
          simp
        rw [← hy.1] at hmem
        rcases List.mem_cons.mp hmem with hmem | hmem
        · simp at hmem
        · exact hm hmem

theorem markedNames_nil (m : List Char) : markedNames ('#' :: m) [] = [] := by
  rw [markedNames.eq_def]
  rfl

theorem markedNames_of_eq_none {d : Char} {s : List Char} {marker : List Char}
    (h : markedName? marker (d :: s) = none) :
    markedNames marker (d :: s) = markedNames marker s := by
  rw [markedNames.eq_def]
  split
  · next hsome =>
    rw [h] at hsome
    contradiction
  · rfl

theorem markedNames_of_eq_some {s name tail : List Char} {marker : List Char}
    (h : markedName? marker s = some (name, tail)) :
    markedNames marker s = name :: markedNames marker tail := by
  rw [markedNames.eq_def]
  split
  · next hsome =>
    rw [h, Option.some.injEq, Prod.mk.injEq] at hsome
    rw [hsome.1, hsome.2]
  · next hnone =>
    rw [h] at hnone
    contradiction

/-- A line without a `#` is read over. -/
theorem markedNames_of_notMem (hm : '\n' ∉ m) (hrest : EndsLine rest) (h : '#' ∉ line) :
    markedNames ('#' :: m) (line ++ rest) = markedNames ('#' :: m) rest := by
  induction line with
  | nil => rfl
  | cons d line ih =>
    have hp : ¬ '#' :: m <+: d :: line := fun hp => h (hp.subset List.mem_cons_self)
    have hnone : markedName? ('#' :: m) (d :: (line ++ rest)) = none :=
      markedName?_eq_none hm hrest hp
    rw [List.cons_append, markedNames_of_eq_none hnone]
    exact ih fun hmem => h (List.mem_cons_of_mem d hmem)

/-- **The names of a text are that of its first line, if it has one, and those of the
rest.**  The induction is on the part of the line that is still to be read. -/
theorem markedNames_line (hm : '\n' ∉ m) (hm' : '#' ∉ m) (hline : '\n' ∉ line)
    (hrest : EndsLine rest) :
    markedNames ('#' :: m) (line ++ rest)
      = (nameOn? ('#' :: m) line).toList ++ markedNames ('#' :: m) rest := by
  induction line with
  | nil => rfl
  | cons d line ih =>
    have ih := ih fun h => hline (List.mem_cons_of_mem d h)
    by_cases hp : '#' :: m <+: d :: line
    · -- the marker stands here, and a name runs to the last `#` behind it
      obtain ⟨body, hbody⟩ := hp
      rw [← hbody] at hline ⊢
      have hbodyline : '\n' ∉ body := fun h => hline (List.mem_append_right _ h)
      rw [nameOn?_marker]
      rcases Text.notMem_or_exists_last '#' body with hlast | ⟨name, tail, rfl, htail⟩
      · -- no `#` follows, here or further on
        have hrestline : '#' ∉ line := by
          rw [List.cons_append, List.cons.injEq] at hbody
          rw [← hbody.2, List.mem_append, not_or]
          exact ⟨hm', hlast⟩
        have hnone : markedName? ('#' :: m) ('#' :: m ++ body ++ rest) = none := by
          rw [markedName?_append hbodyline hrest, Text.cutLast?_of_notMem hlast]
          rfl
        rw [Text.cutLast?_of_notMem hlast]
        rw [hbody, List.cons_append] at hnone ⊢
        rw [markedNames_of_eq_none hnone, markedNames_of_notMem hm hrest hrestline]
        rfl
      · -- the search goes on behind the name, where no `#` is left on the line
        have hsome := markedName?_append (m := m) hbodyline hrest
        rw [Text.cutLast?_append_cons htail] at hsome ⊢
        rw [markedNames_of_eq_some hsome, markedNames_of_notMem hm hrest htail]
        rfl
    · have hnone : markedName? ('#' :: m) (d :: (line ++ rest)) = none :=
        markedName?_eq_none hm hrest hp
      rw [nameOn?_cons hp, List.cons_append, markedNames_of_eq_none hnone, ih]

/-- Names are found between line feeds. -/
theorem markedNames_eq_filterMap (hm : '\n' ∉ m) (hm' : '#' ∉ m) (s : List Char) :
    markedNames ('#' :: m) s = (Text.splitOn '\n' s).filterMap (nameOn? ('#' :: m)) := by
  induction s using Text.lineInduction with
  | last x hx =>
    have h := markedNames_line hm hm' hx (Or.inl rfl)
    rw [List.append_nil, markedNames_nil, List.append_nil] at h
    rw [Text.splitOn_of_notMem hx, h]
    cases hname : nameOn? ('#' :: m) x <;> simp [hname]
  | step x y hx ih =>
    have hrest : EndsLine ('\n' :: y) := Or.inr ⟨y, rfl⟩
    have h := markedNames_line hm hm' hx hrest
    -- no marker stands at the line feed, so the search passes to the next line
    have hnil : ¬ '#' :: m <+: [] := by simp
    have hfeed : markedNames ('#' :: m) ('\n' :: y) = markedNames ('#' :: m) y :=
      markedNames_of_eq_none (markedName?_eq_none hm hrest hnil)
    rw [h, hfeed, ih, Text.splitOn_append_cons hx, List.filterMap_cons]
    cases nameOn? ('#' :: m) x <;> rfl

/-- A character behind a line changes no name on it, unless it is one that the marker or
the end of a name could be made of. -/
theorem nameOn?_concat {c : Char} (hc : c ≠ '#') (hm : c ∉ m) (line : List Char) :
    nameOn? ('#' :: m) (line ++ [c]) = nameOn? ('#' :: m) line := by
  induction line with
  | nil => exact nameOn?_of_notMem (by simpa using Ne.symm hc)
  | cons d line ih =>
    by_cases hp : '#' :: m <+: d :: line
    · -- the last `#` stays the last one
      obtain ⟨body, hbody⟩ := hp
      rw [← hbody, List.append_assoc, nameOn?_marker, nameOn?_marker]
      rcases Text.notMem_or_exists_last '#' body with hlast | ⟨name, tail, rfl, htail⟩
      · rw [Text.cutLast?_of_notMem hlast, Text.cutLast?_of_notMem (by simp [hlast, Ne.symm hc])]
      · have htail' : '#' ∉ tail ++ [c] := by simp [htail, Ne.symm hc]
        rw [List.append_assoc, List.cons_append, Text.cutLast?_append_cons htail,
          Text.cutLast?_append_cons htail']
        rfl
    · have hp' : ¬ '#' :: m <+: d :: (line ++ [c]) := by
        intro h
        rcases List.prefix_concat_iff.mp (show '#' :: m <+: (d :: line) ++ [c] from h) with h | h
        · have hmem : c ∈ '#' :: m := by simp [h]
          rcases List.mem_cons.mp hmem with hmem | hmem
          · exact hc hmem
          · exact hm hmem
        · exact hp h
      rw [List.cons_append, nameOn?_cons hp', nameOn?_cons hp, ih]

/-- A name is a part of its line. -/
theorem infix_of_nameOn?_eq_some {marker name : List Char} (h : nameOn? marker line = some name) :
    name <:+: line := by
  obtain ⟨⟨before, body⟩, hcut, hname⟩ := Option.bind_eq_some_iff.mp h
  obtain ⟨⟨name, tail⟩, hlast, rfl⟩ := Option.map_eq_some_iff.mp hname
  rcases Text.notMem_or_exists_last '#' body with hnone | ⟨x, y, rfl, hy⟩
  · rw [Text.cutLast?_of_notMem hnone] at hlast
    contradiction
  · rw [Text.cutLast?_append_cons hy, Option.some.injEq, Prod.mk.injEq] at hlast
    exact ⟨before ++ marker, '#' :: y, by simp [Text.cut?_eq_append hcut, hlast.1]⟩

end

/-! ### Markers -/

/-- A marker begins with `#`; no other one is in it, and no end of a line. -/
def IsMarker (marker : List Char) : Prop :=
  ∃ m, marker = '#' :: m ∧ '#' ∉ m ∧ '\n' ∉ m ∧ '\r' ∉ m

theorem isMarker_entryMarker : IsMarker entryMarker :=
  ⟨_, String.toList_ofList, by decide⟩

theorem isMarker_afterwordMarker : IsMarker afterwordMarker :=
  ⟨_, String.toList_ofList, by decide⟩

/-- **Names are found line by line.** -/
theorem markedNames_eq_filterMap_lines {marker : List Char} (h : IsMarker marker)
    (s : List Char) : markedNames marker s = (Text.lines s).filterMap (nameOn? marker) := by
  obtain ⟨m, rfl, hash, hfeed, hreturn⟩ := h
  rw [markedNames_eq_filterMap hfeed hash, Text.filterMap_lines (nameOn?_nil m)]
  exact nameOn?_concat (by decide) hreturn

/-- A name is a part of the text. -/
theorem infix_of_mem_markedNames {marker s name : List Char} (h : IsMarker marker)
    (hname : name ∈ markedNames marker s) : name <:+: s := by
  obtain ⟨m, rfl, hash, hfeed, -⟩ := h
  rw [markedNames_eq_filterMap hfeed hash] at hname
  obtain ⟨line, hline, hname⟩ := List.mem_filterMap.mp hname
  exact (infix_of_nameOn?_eq_some hname).trans (Text.infix_of_mem_splitOn hline)

/-! ### Entries -/

/-- The numbers of the anchors that entries link to. -/
def linkedAnchors (entries : List TocEntry) : List Nat := entries.filterMap (·.number)

/-- The names of a list that are given a number. -/
def numberedNames (names : List (List Char)) : Nat := names.countP (· ≠ phantomName)

theorem numberEntries_snd (names : List (List Char)) (n : Nat) :
    (numberEntries names n).2 = n + numberedNames names := by
  induction names generalizing n with
  | nil => rfl
  | cons name names ih =>
    unfold numberEntries
    by_cases h : name = phantomName
    · rw [if_pos h]
      simp [ih, numberedNames, h]
    · rw [if_neg h]
      simp only [ih, numberedNames, List.countP_cons]
      simp [h]
      omega

/-- The entries of the names of chapters and of the name of the afterword. -/
def entriesOf (names : List (List Char)) (afterword : Option (List Char)) : List TocEntry :=
  (numberEntries names 1).1 ++ (afterword.map fun name =>
    { number := some (numberedNames names + 1), title := String.ofList name
      afterword := true }).toList

theorem scanEntries_eq (s : List Char) :
    scanEntries s
      = entriesOf (markedNames entryMarker s) (markedNames afterwordMarker s).head? := by
  have hnext := numberEntries_snd (markedNames entryMarker s) 1
  unfold scanEntries entriesOf
  cases (markedNames afterwordMarker s).head? with
  | none => simp
  | some name => simp [hnext, Nat.add_comm]

/-- **The entries of a text are read off its lines.** -/
theorem scanEntries_eq_lines (s : List Char) :
    scanEntries s
      = entriesOf ((Text.lines s).filterMap (nameOn? entryMarker))
        ((Text.lines s).filterMap (nameOn? afterwordMarker)).head? := by
  rw [scanEntries_eq, markedNames_eq_filterMap_lines isMarker_entryMarker,
    markedNames_eq_filterMap_lines isMarker_afterwordMarker]

theorem linkedAnchors_numberEntries (names : List (List Char)) (n : Nat) :
    linkedAnchors (numberEntries names n).1 = List.range' n (numberedNames names) := by
  induction names generalizing n with
  | nil => rfl
  | cons name names ih =>
    unfold numberEntries
    by_cases h : name = phantomName
    · rw [if_pos h]
      have hcount : numberedNames (name :: names) = numberedNames names := by
        simp [numberedNames, h]
      rw [hcount, ← ih n]
      rfl
    · rw [if_neg h]
      have hcount : numberedNames (name :: names) = numberedNames names + 1 := by
        simp [numberedNames, h]
      rw [hcount, List.range'_succ, ← ih (n + 1)]
      rfl

/-- **The linked entries are numbered from one on**, the afterword behind the chapters. -/
theorem linkedAnchors_scanEntries (s : List Char) :
    linkedAnchors (scanEntries s)
      = List.range' 1 (numberedNames (markedNames entryMarker s)
          + if markedNames afterwordMarker s = [] then 0 else 1) := by
  unfold scanEntries
  cases hnames : markedNames afterwordMarker s with
  | nil => simpa using linkedAnchors_numberEntries _ 1
  | cons name names =>
    have hentries := linkedAnchors_numberEntries (markedNames entryMarker s) 1
    have hnext := numberEntries_snd (markedNames entryMarker s) 1
    rw [if_neg (List.cons_ne_nil _ _), List.range'_1_concat, ← hentries]
    simp [linkedAnchors, hnext]

/-- An entry of a list of names is an empty line, or it has a number and the words of a name. -/
theorem eq_of_mem_numberEntries {names : List (List Char)} {n : Nat} {e : TocEntry}
    (h : e ∈ (numberEntries names n).1) :
    e = { number := none, title := "" }
      ∨ ∃ name ∈ names, ∃ number, e = { number := some number, title := String.ofList name } := by
  induction names generalizing n with
  | nil => simp [numberEntries] at h
  | cons name names ih =>
    unfold numberEntries at h
    by_cases hphantom : name = phantomName
    · rw [if_pos hphantom] at h
      rcases List.mem_cons.mp h with rfl | h
      · exact Or.inl rfl
      · exact (ih h).imp_right fun ⟨name', hname, hnumber⟩ =>
          ⟨name', List.mem_cons_of_mem name hname, hnumber⟩
    · rw [if_neg hphantom] at h
      rcases List.mem_cons.mp h with rfl | h
      · exact Or.inr ⟨name, List.mem_cons_self, n, rfl⟩
      · exact (ih h).imp_right fun ⟨name', hname, hnumber⟩ =>
          ⟨name', List.mem_cons_of_mem name hname, hnumber⟩

/-- **An entry of a text** is an empty line, or it has a number and its words stand in the text. -/
theorem eq_of_mem_scanEntries {s : List Char} {e : TocEntry} (h : e ∈ scanEntries s) :
    e = { number := none, title := "" }
      ∨ ∃ name number afterword, name <:+: s
        ∧ e = { number := some number, title := String.ofList name, afterword } := by
  rw [scanEntries_eq, entriesOf, List.mem_append] at h
  rcases h with h | h
  · refine (eq_of_mem_numberEntries h).imp_right ?_
    rintro ⟨name, hname, number, rfl⟩
    exact ⟨name, number, false, infix_of_mem_markedNames isMarker_entryMarker hname, rfl⟩
  · obtain ⟨name, hname, rfl⟩ := Option.map_eq_some_iff.mp (Option.mem_toList.mp h)
    have hname := infix_of_mem_markedNames isMarker_afterwordMarker (List.mem_of_mem_head? hname)
    exact Or.inr ⟨name, _, true, hname, rfl⟩

/-- The words of an entry are a part of the text, or there are none. -/
theorem infix_of_mem_scanEntries {s : List Char} {e : TocEntry} (h : e ∈ scanEntries s) :
    e.title.toList <:+: s := by
  rcases eq_of_mem_scanEntries h with rfl | ⟨name, number, afterword, hname, rfl⟩
  · exact List.nil_infix
  · rwa [String.toList_ofList]

end Kumihan.Book
