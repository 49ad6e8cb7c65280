import Kumihan.Book.Contents
import Kumihan.Book.Placement
import Kumihan.Proofs.Text.Decimal

/-!
# Page numbers and files

Pages are numbered twice, once for the table of contents and once for their files.  Both
walk over the same actions, and both give a body page the number that is one more than the
count of the body pages before it.

## Main definitions

* `pageNumber before` — the number of a body page behind some actions.

## Main results

* `getElem?_linkTargets` — the number of a linked page, as the table of contents has it.
* `layout_split` — **the file of a body page has the same number, and is its own.**
-/

namespace Kumihan.Book

/-- The number of a body page that stands behind some actions. -/
def pageNumber (before : List Action) : Nat := before.countP (·.kind.isNumbered) + 1

theorem isNumbered_of_isLinked {kind : ActionKind} (h : kind.isLinked = true) :
    kind.isNumbered = true := by
  revert h
  cases kind <;> simp [ActionKind.isLinked, ActionKind.isNumbered]

/-! ### The numbers in the table of contents -/

theorem linkTargetsFrom_cons (n : Nat) (a : Action) (as : List Action) :
    linkTargetsFrom n (a :: as)
      = (if a.kind.isLinked then [n] else [])
        ++ linkTargetsFrom (n + if a.kind.isNumbered then 1 else 0) as := by
  rw [linkTargetsFrom]
  by_cases hnumbered : a.kind.isNumbered = true
  · by_cases hlinked : a.kind.isLinked = true <;> simp [hnumbered, hlinked]
  · have hlinked : ¬ a.kind.isLinked = true := fun h => hnumbered (isNumbered_of_isLinked h)
    simp [hnumbered, hlinked]

theorem linkTargetsFrom_append (n : Nat) (as bs : List Action) :
    linkTargetsFrom n (as ++ bs)
      = linkTargetsFrom n as ++ linkTargetsFrom (n + as.countP (·.kind.isNumbered)) bs := by
  induction as generalizing n with
  | nil => rfl
  | cons a as ih =>
    have hcount : n + (a :: as).countP (·.kind.isNumbered)
        = n + (if a.kind.isNumbered then 1 else 0) + as.countP (·.kind.isNumbered) := by
      rw [List.countP_cons]
      omega
    rw [List.cons_append, linkTargetsFrom_cons, linkTargetsFrom_cons, ih, List.append_assoc,
      hcount]

theorem length_linkTargetsFrom (n : Nat) (as : List Action) :
    (linkTargetsFrom n as).length = as.countP (·.kind.isLinked) := by
  induction as generalizing n with
  | nil => rfl
  | cons a as ih =>
    rw [linkTargetsFrom_cons, List.length_append, ih, List.countP_cons]
    by_cases h : a.kind.isLinked = true
    · simp [h, Nat.add_comm]
    · simp [h]

theorem length_linkTargets (as : List Action) :
    (linkTargets as).length = as.countP (·.kind.isLinked) :=
  length_linkTargetsFrom 1 as

/-- **The number of a linked page** is one more than the count of the body pages before it. -/
theorem getElem?_linkTargets {pre : List Action} {a : Action} (ha : a.kind.isLinked = true)
    (post : List Action) :
    (linkTargets (pre ++ a :: post))[pre.countP (·.kind.isLinked)]? = some (pageNumber pre) := by
  have hlength : (linkTargetsFrom 1 pre).length = pre.countP (·.kind.isLinked) :=
    length_linkTargetsFrom 1 pre
  rw [linkTargets, linkTargetsFrom_append, ← hlength, List.getElem?_append_right (Nat.le_refl _),
    linkTargetsFrom_cons, if_pos ha, Nat.sub_self, pageNumber, Nat.add_comm 1]
  rfl

/-! ### The files -/

/-- A file whose name does not go on with a digit is not that of a body page. -/
theorem bodyFile_ne {c : Char} (hc : c.isDigit = false) (rest : List Char) (n : Nat) :
    String.ofList ("xhtml/p-".toList ++ c :: rest) ≠ bodyFile n := by
  intro h
  have hfile := congrArg String.toList h
  simp only [bodyFile, String.toList_append, String.toList_ofList, List.append_assoc,
    List.append_cancel_left_eq] at hfile
  -- behind the common beginning stands `c`, and in the name of the body page a digit
  cases hdigits : Text.paddedDigits 3 n with
  | nil => exact Text.paddedDigits_ne_nil 3 n hdigits
  | cons d ds =>
    have hmem : d ∈ Text.paddedDigits 3 n := by simp [hdigits]
    have hd : d.isDigit = true := Text.isDigit_of_mem_paddedDigits hmem
    rw [hdigits, List.cons_append, List.cons.injEq] at hfile
    rw [← hfile.1, hc] at hd
    contradiction

theorem bodyFile_injective {m n : Nat} (h : bodyFile m = bodyFile n) : m = n := by
  have hfile := congrArg String.toList h
  simp only [bodyFile, String.toList_append, String.toList_ofList, List.append_assoc,
    List.append_cancel_left_eq, List.append_cancel_right_eq] at hfile
  exact Text.paddedDigits_injective hfile

/-- No page beside the body pages has the file of one. -/
theorem fixedFile?_ne (kind : ActionKind) (n : Nat) : fixedFile? kind ≠ some (bodyFile n) := by
  intro h
  unfold fixedFile? at h
  split at h
  · exact bodyFile_ne (c := 't') (by decide) "oc.xhtml".toList n (Option.some.inj h)
  · exact bodyFile_ne (c := 't') (by decide) "itlepage.xhtml".toList n (Option.some.inj h)
  · exact bodyFile_ne (c := 'c') (by decide) "olophon.xhtml".toList n (Option.some.inj h)
  · contradiction

theorem prefaceFile_ne (m n : Nat) : prefaceFile m ≠ bodyFile n := by
  intro h
  refine bodyFile_ne (c := 'f') (by decide)
    ("matter-".toList ++ Text.paddedDigits 3 m ++ ".xhtml".toList) n (Eq.trans ?_ h)
  apply String.toList_inj.mp
  unfold prefaceFile
  simp only [String.toList_append, String.toList_ofList]
  rfl

/-- **One page**: what is placed, whether it has the file of a body page, and which number
is next. -/
theorem Layout.place_eq_ok {l l' : Layout} {a : Action} {p : Placement}
    (h : l.place a = .ok (p, l')) :
    p.action = a ∧ l'.nextBody = l.nextBody + (if a.kind.isNumbered then 1 else 0)
      ∧ ∀ n, p.file = some (bodyFile n) ↔ a.kind.isNumbered = true ∧ n = l.nextBody := by
  unfold Layout.place at h
  cases hkind : a.kind <;> rw [hkind] at h <;> simp only at h
  case toc | titlePage | colophonImage =>
    split at h
    · contradiction
    · obtain ⟨rfl, rfl⟩ := by simpa using h
      exact ⟨rfl, rfl, fun n => by simp [ActionKind.isNumbered, fixedFile?_ne]⟩
  case prefaceImage =>
    obtain ⟨rfl, rfl⟩ := by simpa using h
    exact ⟨rfl, rfl, fun n => by simp [ActionKind.isNumbered, prefaceFile_ne]⟩
  case glyphImage =>
    obtain ⟨rfl, rfl⟩ := by simpa using h
    exact ⟨rfl, rfl, fun n => by simp [ActionKind.isNumbered]⟩
  -- the other kinds are those of the body pages
  all_goals
    obtain ⟨rfl, rfl⟩ := by simpa using h
    refine ⟨rfl, rfl, fun n => ?_⟩
    simp only [ActionKind.isNumbered, true_and, Option.some.injEq]
    exact ⟨fun hfile => (bodyFile_injective hfile).symm, fun hn => by rw [hn]⟩

theorem layoutFrom_cons_eq_ok {l : Layout} {a : Action} {as : List Action} {ps : List Placement}
    (h : layoutFrom l (a :: as) = .ok ps) :
    ∃ p l' rest, l.place a = .ok (p, l') ∧ layoutFrom l' as = .ok rest ∧ ps = p :: rest := by
  rw [layoutFrom] at h
  cases hplace : l.place a with
  | error fault =>
    rw [hplace] at h
    contradiction
  | ok placed =>
    obtain ⟨p, l'⟩ := placed
    rw [hplace] at h
    simp only at h
    cases hrest : layoutFrom l' as with
    | error fault =>
      rw [hrest] at h
      contradiction
    | ok rest =>
      rw [hrest] at h
      exact ⟨p, l', rest, rfl, hrest, (Except.ok.inj h).symm⟩

/-- The placements of the actions `pre` and of those behind them. -/
theorem layoutFrom_append {l : Layout} {pre as : List Action} {ps : List Placement}
    (h : layoutFrom l (pre ++ as) = .ok ps) :
    ∃ l' front back, ps = front ++ back ∧ front.map (·.action) = pre
      ∧ layoutFrom l' as = .ok back
      ∧ l'.nextBody = l.nextBody + pre.countP (·.kind.isNumbered) := by
  induction pre generalizing l ps with
  | nil => exact ⟨l, [], ps, rfl, rfl, h, rfl⟩
  | cons a pre ih =>
    obtain ⟨p, l₁, rest, hplace, hrest, rfl⟩ := layoutFrom_cons_eq_ok h
    obtain ⟨haction, hnext, -⟩ := Layout.place_eq_ok hplace
    obtain ⟨l₂, front, back, rfl, hfront, hback, hnext₂⟩ := ih hrest
    refine ⟨l₂, p :: front, back, rfl, by rw [List.map_cons, haction, hfront], hback, ?_⟩
    rw [hnext₂, hnext, List.countP_cons]
    omega

/-- **The file of a body page** has the number that is one more than the count of the body
pages before it, and no other page has the file of a body page. -/
theorem layout_split {pre post : List Action} {a : Action} {ps : List Placement}
    (h : layout (pre ++ a :: post) = .ok ps) :
    ∃ front p back, ps = front ++ p :: back ∧ front.map (·.action) = pre ∧ p.action = a
      ∧ ∀ n, p.file = some (bodyFile n) ↔ a.kind.isNumbered = true ∧ n = pageNumber pre := by
  obtain ⟨l', front, back, rfl, hfront, hback, hnext⟩ := layoutFrom_append h
  obtain ⟨p, l'', rest, hplace, -, rfl⟩ := layoutFrom_cons_eq_ok hback
  obtain ⟨haction, -, hfile⟩ := Layout.place_eq_ok hplace
  refine ⟨front, p, rest, rfl, hfront, haction, fun n => ?_⟩
  rw [hfile, hnext, pageNumber, Nat.add_comm]

end Kumihan.Book
