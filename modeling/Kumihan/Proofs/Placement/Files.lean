import Kumihan.Proofs.Placement.LinkTargets

/-!
# The files of all pages

The pages of the body, the pictures of the front matter and the pages that can occur once share
one directory.  Their files differ by how the name goes on behind its common beginning, so no
page takes the file of another.  The only way in which the placing can fail is a second page of a
kind that can occur once.

## Main definitions

* `ActionKind.isSingle` — the kind can occur once.
* `Layout.Taken` — a page that is placed already has the file.

## Main results

* `layout_eq_ok_iff` — **the pages can be placed exactly if each of these kinds occurs once at
  most.**
* `layoutFrom_eq_error` — which page is refused when they cannot.
* `Layout.taken_place` — a page takes a file that no page before it has.
* `nodup_files_layout` — **the files of the placements differ.**
-/

namespace Kumihan.Book

/-- A page of the kind can occur once. -/
def ActionKind.isSingle (kind : ActionKind) : Bool := (fixedFile? kind).isSome

/-! ### Pages that can occur once -/

/-- **One page** is placed unless it is the second one of its kind where only one can be. -/
theorem Layout.place_cases (l : Layout) (a : Action) :
    (a.kind.isSingle = true ∧ a.kind ∈ l.used ∧ l.place a = .error ⟨a.kind⟩)
      ∨ (¬ (a.kind.isSingle = true ∧ a.kind ∈ l.used)
        ∧ ∃ p l', l.place a = .ok (p, l')
          ∧ l'.used = if a.kind.isSingle then a.kind :: l.used else l.used) := by
  unfold Layout.place ActionKind.isSingle
  cases hkind : a.kind
  case toc | titlePage | colophonImage =>
    simp only
    split
    · next hused => exact Or.inl ⟨rfl, hused, rfl⟩
    · next hused => exact Or.inr ⟨fun h => hused h.2, _, _, rfl, rfl⟩
  all_goals exact Or.inr ⟨fun h => by simp [fixedFile?] at h, _, _, rfl, rfl⟩

/-- How often a page of the kind has been placed. -/
def Layout.placed (l : Layout) (kind : ActionKind) : Nat := if kind ∈ l.used then 1 else 0

/-- What a page takes from its kind is what the layout notes of it. -/
theorem Layout.placed_add_countP {l l' : Layout} {a : Action}
    (hfree : ¬ (a.kind.isSingle = true ∧ a.kind ∈ l.used))
    (hused : l'.used = if a.kind.isSingle then a.kind :: l.used else l.used) {kind : ActionKind}
    (hsingle : kind.isSingle = true) {as : List Action} :
    l'.placed kind + as.countP (·.kind = kind)
      = l.placed kind + (a :: as).countP (·.kind = kind) := by
  rw [List.countP_cons, Layout.placed, Layout.placed, hused]
  by_cases hkind : a.kind = kind
  · rw [← hkind] at hsingle ⊢
    have hnew : a.kind ∉ l.used := fun hmem => hfree ⟨hsingle, hmem⟩
    simp [hsingle, hnew]
    omega
  · have hother : (kind ∈ if a.kind.isSingle then a.kind :: l.used else l.used)
        ↔ kind ∈ l.used := by
      split
      · rw [List.mem_cons]
        exact or_iff_right (Ne.symm hkind)
      · exact Iff.rfl
    simp [hother, hkind]

/-- **When pages can be placed**, from some point on.  The induction is on the actions; a kind that
has had its one page counts as one that occurs among them. -/
theorem layoutFrom_eq_ok_iff {l : Layout} {as : List Action} :
    (∃ ps, layoutFrom l as = .ok ps)
      ↔ ∀ kind : ActionKind, kind.isSingle = true →
        l.placed kind + as.countP (·.kind = kind) ≤ 1 := by
  induction as generalizing l with
  | nil =>
    refine ⟨fun _ kind _ => ?_, fun _ => ⟨[], rfl⟩⟩
    unfold Layout.placed
    split <;> simp
  | cons a as ih =>
    rcases l.place_cases a with ⟨hsingle, hused, hplace⟩ | ⟨hfree, p, l', hplace, hused⟩
    · -- the page is the second one of its kind
      have hfail : ¬ ∃ ps, layoutFrom l (a :: as) = .ok ps := by
        rintro ⟨ps, h⟩
        rw [layoutFrom, hplace] at h
        contradiction
      refine ⟨fun h => absurd h hfail, fun h => ?_⟩
      have hcount := h a.kind hsingle
      rw [Layout.placed, if_pos hused, List.countP_cons, if_pos (by simp)] at hcount
      omega
    · have hrest : (∃ ps, layoutFrom l (a :: as) = .ok ps) ↔ ∃ ps, layoutFrom l' as = .ok ps := by
        rw [layoutFrom, hplace]
        simp only
        cases layoutFrom l' as with
        | error fault => simp
        | ok ps => simp
      rw [hrest, ih]
      refine forall_congr' fun kind => forall_congr' fun hsingle => ?_
      rw [Layout.placed_add_countP hfree hused hsingle]

/-- **The pages of a book can be placed exactly if** none of the kinds that can occur once occurs
twice. -/
theorem layout_eq_ok_iff {actions : List Action} :
    (∃ ps, layout actions = .ok ps)
      ↔ ∀ kind : ActionKind, kind.isSingle = true → actions.countP (·.kind = kind) ≤ 1 := by
  rw [layout, layoutFrom_eq_ok_iff]
  refine forall_congr' fun kind => forall_congr' fun _ => ?_
  rw [Layout.placed, if_neg List.not_mem_nil, Nat.zero_add]

/-- **A page that is refused** is the second one of its kind, and only one can be.  The induction
goes over the same two cases. -/
theorem layoutFrom_eq_error {l : Layout} {as : List Action} {fault : DuplicatePage}
    (h : layoutFrom l as = .error fault) :
    fault.kind.isSingle = true ∧ 2 ≤ l.placed fault.kind + as.countP (·.kind = fault.kind) := by
  induction as generalizing l with
  | nil => contradiction
  | cons a as ih =>
    rw [layoutFrom] at h
    rcases l.place_cases a with ⟨hsingle, hused, hplace⟩ | ⟨hfree, p, l', hplace, hused⟩
    · rw [hplace] at h
      obtain rfl : ⟨a.kind⟩ = fault := Except.error.inj h
      have hcount : 0 < (a :: as).countP (·.kind = a.kind) := by simp
      refine ⟨hsingle, ?_⟩
      show 2 ≤ l.placed a.kind + (a :: as).countP (·.kind = a.kind)
      rw [Layout.placed, if_pos hused]
      omega
    · have hrest : layoutFrom l' as = .error fault := by
        rw [hplace] at h
        simp only at h
        cases hrest : layoutFrom l' as with
        | error fault' =>
          rw [hrest] at h
          exact h
        | ok ps =>
          rw [hrest] at h
          contradiction
      obtain ⟨hsingle, hcount⟩ := ih hrest
      rw [Layout.placed_add_countP hfree hused hsingle] at hcount
      exact ⟨hsingle, hcount⟩

/-! ### Files -/

/-- The character with which the name of a page's file goes on behind `xhtml/p-`. -/
def initial? (file : String) : Option Char := file.toList[8]?

theorem initial?_prefaceFile (n : Nat) : initial? (prefaceFile n) = some 'f' := by
  unfold initial? prefaceFile
  simp only [String.toList_append, String.toList_ofList, List.append_assoc]
  rfl

theorem initial?_bodyFile (n : Nat) : ∃ c, initial? (bodyFile n) = some c ∧ c.isDigit = true := by
  unfold initial? bodyFile
  simp only [String.toList_append, String.toList_ofList, List.append_assoc]
  cases hdigits : Text.paddedDigits 3 n with
  | nil => exact absurd hdigits (Text.paddedDigits_ne_nil 3 n)
  | cons c digits =>
    exact ⟨c, rfl, Text.isDigit_of_mem_paddedDigits (hdigits ▸ List.mem_cons_self)⟩

theorem prefaceFile_injective {m n : Nat} (h : prefaceFile m = prefaceFile n) : m = n := by
  unfold prefaceFile at h
  have hfile := congrArg String.toList h
  simp only [String.toList_append, String.toList_ofList, List.append_assoc,
    List.append_cancel_left_eq, List.append_cancel_right_eq] at hfile
  exact Text.paddedDigits_injective hfile

/-- The names of the pages that can occur once go on with a letter. -/
theorem initial?_of_fixedFile? {kind : ActionKind} {file : String}
    (h : fixedFile? kind = some file) : initial? file = some 't' ∨ initial? file = some 'c' := by
  unfold fixedFile? at h
  split at h
  · exact Or.inl (Option.some.inj h ▸ by decide)
  · exact Or.inl (Option.some.inj h ▸ by decide)
  · exact Or.inr (Option.some.inj h ▸ by decide)
  · contradiction

theorem fixedFile?_ne_prefaceFile (kind : ActionKind) (n : Nat) :
    fixedFile? kind ≠ some (prefaceFile n) := by
  intro h
  have hinitial := initial?_of_fixedFile? h
  rw [initial?_prefaceFile] at hinitial
  simp at hinitial

theorem fixedFile?_injective {kind kind' : ActionKind} {file : String}
    (h : fixedFile? kind = some file) (h' : fixedFile? kind' = some file) : kind = kind' := by
  have hall : ∀ k ∈ ActionKind.all, ∀ k' ∈ ActionKind.all,
      (fixedFile? k).isSome → fixedFile? k = fixedFile? k' → k = k' := by decide
  have hmem (k : ActionKind) : k ∈ ActionKind.all := by cases k <;> decide
  exact hall kind (hmem _) kind' (hmem _) (by rw [h]; rfl) (h.trans h'.symm)

/-- A page that is placed already has the file. -/
inductive Layout.Taken (l : Layout) : String → Prop
  /-- The page is the only one of its kind. -/
  | single {kind : ActionKind} {file : String} (hused : kind ∈ l.used)
      (hfile : fixedFile? kind = some file) : l.Taken file
  /-- The page is a picture of the front matter. -/
  | preface {n : Nat} (hn : n < l.nextPreface) : l.Taken (prefaceFile n)
  /-- The page is one of the body. -/
  | body {n : Nat} (hn : n < l.nextBody) : l.Taken (bodyFile n)

theorem Layout.taken_prefaceFile {l : Layout} {n : Nat} (h : l.Taken (prefaceFile n)) :
    n < l.nextPreface := by
  generalize hfile : prefaceFile n = file at h
  cases h with
  | single hused hfixed => exact absurd (hfile ▸ hfixed) (fixedFile?_ne_prefaceFile _ _)
  | preface hn => rwa [prefaceFile_injective hfile]
  | body hn => exact absurd hfile (prefaceFile_ne _ _)

theorem Layout.taken_bodyFile {l : Layout} {n : Nat} (h : l.Taken (bodyFile n)) :
    n < l.nextBody := by
  generalize hfile : bodyFile n = file at h
  cases h with
  | single hused hfixed => exact absurd (hfile ▸ hfixed) (fixedFile?_ne _ _)
  | preface hn => exact absurd hfile.symm (prefaceFile_ne _ _)
  | body hn => rwa [bodyFile_injective hfile]

theorem Layout.taken_fixedFile {l : Layout} {kind : ActionKind} {file : String}
    (hfixed : fixedFile? kind = some file) (h : l.Taken file) : kind ∈ l.used := by
  cases h with
  | single hused hfile => rwa [fixedFile?_injective hfixed hfile]
  | preface hn => exact absurd hfixed (fixedFile?_ne_prefaceFile _ _)
  | body hn => exact absurd hfixed (fixedFile?_ne _ _)

/-- A file that is taken stays so while pages are placed. -/
theorem Layout.taken_of_place {l l' : Layout} {a : Action} {p : Placement}
    (h : l.place a = .ok (p, l')) {file : String} (htaken : l.Taken file) : l'.Taken file := by
  have hgrow : l.used ⊆ l'.used ∧ l.nextPreface ≤ l'.nextPreface ∧ l.nextBody ≤ l'.nextBody := by
    unfold Layout.place at h
    cases hkind : a.kind <;> rw [hkind] at h <;> simp only at h
    case toc | titlePage | colophonImage =>
      split at h
      · contradiction
      · obtain ⟨-, rfl⟩ := by simpa using h
        simp
    all_goals
      obtain ⟨-, rfl⟩ := by simpa using h
      simp
  obtain ⟨hused, hpreface, hbody⟩ := hgrow
  cases htaken with
  | single hmem hfile => exact .single (hused hmem) hfile
  | preface hn => exact .preface (Nat.lt_of_lt_of_le hn hpreface)
  | body hn => exact .body (Nat.lt_of_lt_of_le hn hbody)

/-- **One page** takes a file that no page before it has, and from then on has it. -/
theorem Layout.taken_place {l l' : Layout} {a : Action} {p : Placement}
    (h : l.place a = .ok (p, l')) {file : String} (hfile : p.file = some file) :
    ¬ l.Taken file ∧ l'.Taken file := by
  unfold Layout.place at h
  cases hkind : a.kind <;> rw [hkind] at h <;> simp only at h
  case glyphImage =>
    obtain ⟨rfl, -⟩ := by simpa using h
    contradiction
  case prefaceImage =>
    obtain ⟨rfl, rfl⟩ := by simpa using h
    obtain rfl := Option.some.inj hfile
    exact ⟨fun htaken => Nat.lt_irrefl _ (taken_prefaceFile htaken), .preface (Nat.lt_succ_self _)⟩
  case toc | titlePage | colophonImage =>
    split at h
    · contradiction
    · next hfree =>
      obtain ⟨rfl, rfl⟩ := by simpa using h
      exact ⟨fun htaken => hfree (taken_fixedFile hfile htaken), .single List.mem_cons_self hfile⟩
  -- the other kinds are those of the body pages
  all_goals
    obtain ⟨rfl, rfl⟩ := by simpa using h
    obtain rfl := Option.some.inj hfile
    exact ⟨fun htaken => Nat.lt_irrefl _ (taken_bodyFile htaken), .body (Nat.lt_succ_self _)⟩

/-- **The files of placements**, from some point on, are none that is taken, and differ.  The
induction is on the actions; what the page that is placed first takes is taken for those behind. -/
theorem files_layoutFrom {l : Layout} {as : List Action} {ps : List Placement}
    (h : layoutFrom l as = .ok ps) :
    (∀ file ∈ ps.filterMap (·.file), ¬ l.Taken file) ∧ (ps.filterMap (·.file)).Nodup := by
  induction as generalizing l ps with
  | nil =>
    obtain rfl := Except.ok.inj h
    exact ⟨fun _ hmem => absurd hmem List.not_mem_nil, List.nodup_nil⟩
  | cons a as ih =>
    obtain ⟨p, l', rest, hplace, hrest, rfl⟩ := layoutFrom_cons_eq_ok h
    obtain ⟨hfree, hnodup⟩ := ih hrest
    have hbehind : ∀ file ∈ rest.filterMap (·.file), ¬ l.Taken file :=
      fun file hmem htaken => hfree file hmem (Layout.taken_of_place hplace htaken)
    cases hfile : p.file with
    | none =>
      rw [List.filterMap_cons_none hfile]
      exact ⟨hbehind, hnodup⟩
    | some file =>
      obtain ⟨hfresh, htaken⟩ := Layout.taken_place hplace hfile
      rw [List.filterMap_cons_some hfile]
      refine ⟨List.forall_mem_cons.mpr ⟨hfresh, hbehind⟩, List.nodup_cons.mpr ⟨?_, hnodup⟩⟩
      exact fun hmem => hfree file hmem htaken

/-- **The files of the pages of a book differ.** -/
theorem nodup_files_layout {actions : List Action} {ps : List Placement}
    (h : layout actions = .ok ps) : (ps.filterMap (·.file)).Nodup :=
  (files_layoutFrom h).2

end Kumihan.Book
