import Kumihan.Proofs.Contents.RegularBook

/-!
# Declared entries

The entries that a text is searched for are those that its directives declare, if nothing on
its lines is in the way of them.

## Main definitions

* `declaredEntries ds` — the entries that directives declare.

## Main results

* `scanEntries_line_eq_iff` — when one line has the entry that its directive declares.
* `scanEntries_eq_declaredEntries` — **a text has the entries that its directives declare.**
* `exists_entries_apart` — some texts have others.
-/

namespace Kumihan.Book

open Kumihan.Markup

/-! ### Declared entries -/

/-- The chapters that directives list, the next one of them having number `n`. -/
def declaredChapters : Nat → List Directive → List TocEntry
  | _, [] => []
  | n, d :: ds =>
    if d.command = .tocChapter then
      if d.argument = "phantom" then
        { number := none, title := "" } :: declaredChapters n ds
      else
        { number := some n, title := d.argument } :: declaredChapters (n + 1) ds
    else declaredChapters n ds

/-- The entries that directives declare: the chapters that they list, numbered from one on, and
the first afterword with the number behind the last of these. -/
def declaredEntries (ds : List Directive) : List TocEntry :=
  declaredChapters 1 ds ++
    match ds.find? (·.command = .afterword) with
    | some d =>
      [{ number := some ((linkedAnchors (declaredChapters 1 ds)).length + 1), title := d.argument
         afterword := true }]
    | none => []

theorem declaredChapters_eq (n : Nat) (ds : List Directive) :
    declaredChapters n ds = (numberEntries (ds.filterMap (argumentFor? .tocChapter)) n).1 := by
  induction ds generalizing n with
  | nil => rfl
  | cons d ds ih =>
    rw [declaredChapters]
    by_cases hd : d.command = .tocChapter
    · have hargument : argumentFor? .tocChapter d = some d.argument.toList :=
        argumentFor?_eq_some_iff.mpr ⟨hd, rfl⟩
      have hphantom : d.argument = "phantom" ↔ d.argument.toList = phantomName :=
        String.toList_inj.symm
      rw [if_pos hd, List.filterMap_cons, hargument, numberEntries]
      by_cases hp : d.argument = "phantom"
      · rw [if_pos hp, if_pos (hphantom.mp hp), ih]
      · rw [if_neg hp, if_neg (mt hphantom.mpr hp), ih]
        simp
    · have hargument : argumentFor? .tocChapter d = none := if_neg hd
      rw [if_neg hd, List.filterMap_cons, hargument, ih]

theorem head?_filterMap_argumentFor? (command : Command) (ds : List Directive) :
    (ds.filterMap (argumentFor? command)).head?
      = (ds.find? (·.command = command)).map (·.argument.toList) := by
  induction ds with
  | nil => rfl
  | cons d ds ih =>
    by_cases hd : d.command = command
    · simp [argumentFor?, hd]
    · simp [argumentFor?, hd, ih]

theorem declaredEntries_eq (ds : List Directive) :
    declaredEntries ds
      = entriesOf (ds.filterMap (argumentFor? .tocChapter))
        (ds.filterMap (argumentFor? .afterword)).head? := by
  have hlength : (linkedAnchors (declaredChapters 1 ds)).length
      = numberedNames (ds.filterMap (argumentFor? .tocChapter)) := by
    rw [declaredChapters_eq, linkedAnchors_numberEntries, List.length_range']
  rw [declaredEntries, entriesOf, hlength, declaredChapters_eq, head?_filterMap_argumentFor?]
  cases ds.find? (·.command = .afterword) <;> simp

/-! ### Names from entries -/

/-- The name that an entry was made of. -/
def TocEntry.name (e : TocEntry) : List Char :=
  if e.number.isSome then e.title.toList else phantomName

theorem map_name_numberEntries (names : List (List Char)) (n : Nat) :
    (numberEntries names n).1.map TocEntry.name = names := by
  induction names generalizing n with
  | nil => rfl
  | cons name names ih =>
    rw [numberEntries]
    by_cases h : name = phantomName
    · rw [if_pos h, List.map_cons, ih, h]
      rfl
    · rw [if_neg h, List.map_cons, ih]
      simp [TocEntry.name]

theorem afterword_of_mem_numberEntries {names : List (List Char)} {n : Nat} {e : TocEntry}
    (h : e ∈ (numberEntries names n).1) : e.afterword = false := by
  rcases eq_of_mem_numberEntries h with rfl | ⟨name, -, number, rfl⟩ <;> rfl

/-- Entries tell the names that they were made of. -/
theorem entriesOf_injective {names names' : List (List Char)} {a a' : Option (List Char)}
    (h : entriesOf names a = entriesOf names' a') : names = names' ∧ a = a' := by
  have hchapters (names : List (List Char)) (a : Option (List Char)) :
      (entriesOf names a).filter (!·.afterword) = (numberEntries names 1).1 := by
    rw [entriesOf, List.filter_append, List.filter_eq_self.mpr]
    · cases a <;> simp
    · intro e he
      rw [afterword_of_mem_numberEntries he]
      rfl
  have hafterword (names : List (List Char)) (a : Option (List Char)) :
      ((entriesOf names a).find? (·.afterword)).map (·.title.toList) = a := by
    rw [entriesOf, List.find?_append, List.find?_eq_none.mpr]
    · cases a <;> simp
    · intro e he
      rw [afterword_of_mem_numberEntries he]
      exact Bool.false_ne_true
  constructor
  · rw [← map_name_numberEntries names 1, ← hchapters names a, h, hchapters,
      map_name_numberEntries]
  · rw [← hafterword names a, h, hafterword]

/-! ### Texts -/

/-- **A line declares on its own what it is read as** exactly if nothing on it is in the way. -/
theorem scanEntries_line_eq_iff {line : List Char} (hfeed : '\n' ∉ line) {n : Int} {d : Directive}
    (hd : Directive.ofLine line n = .ok d) :
    scanEntries line = declaredEntries [d] ↔ DeclaresAlike line := by
  have hnames (marker : List Char) (h : IsMarker marker) :
      markedNames marker line = (nameOn? marker line).toList := by
    obtain ⟨m, rfl, hash, hm, -⟩ := h
    have hline := markedNames_line hm hash hfeed (Or.inl rfl)
    rwa [List.append_nil, markedNames_nil, List.append_nil] at hline
  have hargument (command : Command) :
      [d].filterMap (argumentFor? command) = (argumentFor? command d).toList := by
    cases h : argumentFor? command d <;> simp [h]
  have hlist {o o' : Option (List Char)} (h : o.toList = o'.toList) : o = o' := by
    have hhead := congrArg List.head? h
    rwa [Option.head?_toList, Option.head?_toList] at hhead
  rw [declaresAlike_iff hfeed hd, scanEntries_eq, declaredEntries_eq,
    hnames _ isMarker_entryMarker, hnames _ isMarker_afterwordMarker, hargument, hargument,
    Option.head?_toList, Option.head?_toList]
  constructor
  · intro h
    obtain ⟨hentry, hafterword⟩ := entriesOf_injective h
    exact ⟨hlist hentry, hafterword⟩
  · rintro ⟨hentry, hafterword⟩
    rw [hentry, hafterword]

/-- The four ways in which something can be in the way of an entry. -/
example : ∀ line ∈ ["#toc#toc-chapter,A#", "#toc-chapter,第#gaiji,g.png#章#",
    "#img,a#toc-chapter,B#", "#toc-chapter#"], ¬ DeclaresAlike line.toList := by
  decide +kernel

/-- **A text has the entries that its directives declare**, if all of its lines can be read and
nothing on any of them is in the way.  This asks for no more than it must: a line with something
in the way has, as a text of its own, other entries than its directive declares. -/
theorem scanEntries_eq_declaredEntries {s : List Char} (hlexes : (Directive.ofText s).2 = none) :
    ((∀ line ∈ Text.lines s, DeclaresAlike line) →
        scanEntries s = declaredEntries (Directive.ofText s).1)
      ∧ ∀ line ∈ Text.lines s, ∀ n d, Directive.ofLine line n = .ok d →
        (scanEntries line = declaredEntries [d] ↔ DeclaresAlike line) := by
  constructor
  · intro halike
    obtain ⟨hentries, hafterword⟩ := markedNames_of_declaresAlike hlexes halike
    rw [scanEntries_eq, declaredEntries_eq, hentries, hafterword]
  · intro line hline n d hd
    exact scanEntries_line_eq_iff (Text.notMem_of_mem_lines hline) hd

theorem scanEntries_catBook :
    scanEntries catBook
      = [{ number := some 1, title := "第一章" }, { number := none, title := "" },
         { number := some 2, title := "第二章" },
         { number := some 3, title := "あとがき", afterword := true }] := by
  have hread := readsAs_catBook.read
  have halike : ∀ line ∈ Text.lines catBook, DeclaresAlike line := by
    unfold catBook
    repeat rw [unlines_cons]
    rw [unlines_nil]
    decide +kernel
  rw [(scanEntries_eq_declaredEntries (by rw [hread])).1 halike, hread]
  decide +kernel

/-- An entry with a picture of a character, which is read as a line of text. -/
def glyphEntry : List Char := unlines ["#toc-chapter,第#gaiji,g.png#章#"]

/-- **Not every text has the entries that its directives declare.**  The entry is found by the
search, and the line with the picture declares none. -/
theorem exists_entries_apart :
    ¬ ∀ s, (Directive.ofText s).2 = none →
      scanEntries s = declaredEntries (Directive.ofText s).1 := by
  intro h
  have hfound : scanEntries glyphEntry
      = [{ number := some 1, title := "第#gaiji,g.png#章" }] := by
    unfold glyphEntry
    rw [unlines_cons, unlines_nil, scanEntries_eq_lines]
    decide +kernel
  have hread : (Directive.ofText glyphEntry).2 = none
      ∧ declaredEntries (Directive.ofText glyphEntry).1 = [] := by
    unfold glyphEntry
    rw [unlines_cons, unlines_nil]
    decide +kernel
  have hsame := h glyphEntry hread.1
  rw [hfound, hread.2] at hsame
  contradiction

end Kumihan.Book
