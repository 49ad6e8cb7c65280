import Mathlib.Data.Bool.AllAny
import Kumihan.Proofs.Text.Attribute
import Kumihan.Proofs.Text.Count
import Kumihan.Proofs.Text.Occurrence

/-!
# Escaping one character after the other

Text is escaped character by character.  It could as well be gone through once for each special
character, if the ampersand came first: what is written for the others has an ampersand in it.  What
is escaped is undone in the same way, with the ampersand last.

## Main definitions

* `escapeOnly marks` — a character as it is written if only `marks` are special.
* `escapeInTurn`, `unescapeInTurn` — one replacement for each special character.
* `textMarks`, `attributeMarks` — the characters that are special in a text and in an attribute.

## Main results

* `replaceAll_flatMap` — replacing in a text that is written character by character.
* `escapeText_eq`, `escapeAttribute_eq` — **escaping is a sequence of replacements.**
* `unescape_escapeText`, `unescape_escapeAttribute` — **what is escaped is undone by replacements.**
-/

namespace Kumihan.Text

variable {pat rep : List Char} {f g : Char → List Char} {marks : List Char} {c : Char}

/-! ### Replacing in what is written character by character -/

/-- A text in which the pattern never begins stays, whatever stands behind it. -/
theorem replaceAll_append_of_neverBegins {x : List Char} (h : neverBegins pat x = true)
    (y : List Char) : replaceAll pat rep (x ++ y) = x ++ replaceAll pat rep y := by
  induction x with
  | nil => rfl
  | cons c x ih =>
    have hstart : ¬ pat <+: c :: (x ++ y) := not_prefix_append_of_neverBegins h y
    rw [List.cons_append, replaceAll_cons_of_not_prefix hstart, ih (neverBegins_cons_iff.mp h).2.2,
      List.cons_append]

/-- Where every character is written as the pattern or as a text in which the pattern never begins,
what is written for each character is rewritten by itself. -/
theorem replaceAll_flatMap (hpat : pat ≠ [])
    (h : ∀ c, f c = pat ∧ g c = rep ∨ neverBegins pat (f c) = true ∧ g c = f c) (s : List Char) :
    replaceAll pat rep (s.flatMap f) = s.flatMap g := by
  induction s with
  | nil => exact replaceAll_of_not_infix (by simpa using hpat)
  | cons c s ih =>
    rw [List.flatMap_cons, List.flatMap_cons, ← ih]
    rcases h c with ⟨hf, hg⟩ | ⟨hf, hg⟩
    · rw [hf, hg, replaceAll_append hpat]
    · rw [hg, replaceAll_append_of_neverBegins hf]

/-! ### One special character -/

/-- A character as it is written if only some are special. -/
def escapeOnly (marks : List Char) (c : Char) : List Char :=
  if c ∈ marks then escapeAttributeChar c else [c]

theorem escapeOnly_of_mem (h : c ∈ marks) : escapeOnly marks c = escapeAttributeChar c := if_pos h

theorem escapeOnly_of_notMem (h : c ∉ marks) : escapeOnly marks c = [c] := if_neg h

theorem escapeOnly_nil : escapeOnly [] = fun c => [c] :=
  funext fun _ => escapeOnly_of_notMem List.not_mem_nil

/-- One more special character makes a difference for itself only. -/
theorem escapeOnly_cons_of_ne {d : Char} (h : d ≠ c) :
    escapeOnly (c :: marks) d = escapeOnly marks d := by
  simp [escapeOnly, h]

/-- The special characters other than the ampersand. -/
def tagMarks : List Char := ['<', '>', '"']

/-- What is written for a special character begins with the only ampersand in it. -/
theorem exists_escape_cons (h : c ∈ tagMarks ++ ['&']) :
    ∃ m, escapeAttributeChar c = '&' :: m := by
  have hall : ∀ c ∈ tagMarks ++ ['&'], (escapeAttributeChar c).head? = some '&' :=
    List.all_iff_forall_prop.mp (by decide)
  exact ⟨_, List.eq_cons_of_mem_head? (hall c h)⟩

/-- What is written for a special character begins nowhere in what is written for another one. -/
theorem neverBegins_escape {d : Char} (hc : c ∈ tagMarks ++ ['&']) (hd : d ∈ tagMarks ++ ['&'])
    (hne : d ≠ c) : neverBegins (escapeAttributeChar c) (escapeAttributeChar d) = true := by
  have hall : ((tagMarks ++ ['&']).all fun c => (tagMarks ++ ['&']).all fun d =>
      d == c || neverBegins (escapeAttributeChar c) (escapeAttributeChar d)) = true := by decide
  have hboth := List.all_eq_true.mp (List.all_eq_true.mp hall c hc) d hd
  simpa [hne] using hboth

/-- No special character but the ampersand stands in what is written for one. -/
theorem notMem_escape {d : Char} (hc : c ∈ tagMarks) (hd : d ∈ tagMarks ++ ['&']) :
    c ∉ escapeAttributeChar d := by
  have hall : (tagMarks.all fun c => (tagMarks ++ ['&']).all fun d =>
      !(escapeAttributeChar d).contains c) = true := by decide
  have hboth := List.all_eq_true.mp (List.all_eq_true.mp hall c hc) d hd
  simpa using hboth

/-- **Escaping one more character** that is not in what is written for the others. -/
theorem replaceAll_escapeOnly (hout : ∀ d ∈ marks, c ∉ escapeAttributeChar d) (hnew : c ∉ marks)
    (s : List Char) :
    replaceAll [c] (escapeAttributeChar c) (s.flatMap (escapeOnly marks))
      = s.flatMap (escapeOnly (c :: marks)) := by
  refine replaceAll_flatMap (List.cons_ne_nil c []) (fun d => ?_) s
  by_cases hd : d = c
  · subst hd
    exact Or.inl ⟨escapeOnly_of_notMem hnew, escapeOnly_of_mem List.mem_cons_self⟩
  · refine Or.inr ⟨neverBegins_of_notMem ?_, escapeOnly_cons_of_ne hd⟩
    by_cases hmem : d ∈ marks
    · rw [escapeOnly_of_mem hmem]
      exact hout d hmem
    · rw [escapeOnly_of_notMem hmem, List.mem_singleton]
      exact Ne.symm hd

/-- **Undoing one character**: as long as the ampersand is special, what is written for a character
is written for no other one. -/
theorem replaceAll_escape (hall : c :: marks ⊆ tagMarks ++ ['&']) (hnew : c ∉ marks)
    (hamp : '&' ∈ c :: marks) (s : List Char) :
    replaceAll (escapeAttributeChar c) [c] (s.flatMap (escapeOnly (c :: marks)))
      = s.flatMap (escapeOnly marks) := by
  have hc := hall List.mem_cons_self
  obtain ⟨m, hm⟩ := exists_escape_cons hc
  refine replaceAll_flatMap (hm ▸ List.cons_ne_nil '&' m) (fun d => ?_) s
  by_cases hd : d = c
  · subst hd
    exact Or.inl ⟨escapeOnly_of_mem List.mem_cons_self, escapeOnly_of_notMem hnew⟩
  · refine Or.inr ⟨?_, (escapeOnly_cons_of_ne hd).symm⟩
    by_cases hmem : d ∈ c :: marks
    · rw [escapeOnly_of_mem hmem]
      exact neverBegins_escape hc (hall hmem) hd
    · have hplain : '&' ≠ d := fun h => hmem (h ▸ hamp)
      rw [escapeOnly_of_notMem hmem, hm]
      exact neverBegins_of_notMem (by simpa using hplain)

/-! ### All special characters -/

/-- Every special character is replaced by what is written for it, the last one of the list
first. -/
def escapeInTurn (marks s : List Char) : List Char :=
  marks.foldr (fun c s => replaceAll [c] (escapeAttributeChar c) s) s

/-- What is written for a special character is replaced by it, for the first one of the list
first. -/
def unescapeInTurn (marks s : List Char) : List Char :=
  marks.foldl (fun s c => replaceAll (escapeAttributeChar c) [c] s) s

theorem escapeInTurn_eq (marks : List Char) (hmarks : marks ⊆ tagMarks)
    (hnodup : marks.Nodup) (s : List Char) :
    escapeInTurn (marks ++ ['&']) s = s.flatMap (escapeOnly (marks ++ ['&'])) := by
  induction marks with
  | nil =>
    have hfirst : replaceAll ['&'] (escapeAttributeChar '&') (s.flatMap (escapeOnly []))
        = s.flatMap (escapeOnly ['&']) :=
      replaceAll_escapeOnly (by simp) List.not_mem_nil s
    rwa [escapeOnly_nil, List.flatMap_singleton'] at hfirst
  | cons c marks ih =>
    obtain ⟨hc, hmarks⟩ := List.cons_subset.mp hmarks
    obtain ⟨hnew, hnodup⟩ := List.nodup_cons.mp hnodup
    have hamp : c ≠ '&' := by
      rintro rfl
      exact absurd hc (by decide)
    have hall : marks ++ ['&'] ⊆ tagMarks ++ ['&'] := fun d hd =>
      List.mem_append.mpr ((List.mem_append.mp hd).imp_left fun h => hmarks h)
    show replaceAll [c] (escapeAttributeChar c) (escapeInTurn (marks ++ ['&']) s) = _
    rw [ih hmarks hnodup]
    exact replaceAll_escapeOnly (fun d hd => notMem_escape hc (hall hd)) (by simp [hnew, hamp]) s

/-- **What is escaped is undone**, whatever the order of the special characters is before the
ampersand. -/
theorem unescapeInTurn_flatMap (marks : List Char) (hmarks : marks ⊆ tagMarks)
    (hnodup : marks.Nodup) (s : List Char) :
    unescapeInTurn (marks ++ ['&']) (s.flatMap (escapeOnly (marks ++ ['&']))) = s := by
  induction marks with
  | nil =>
    have hlast : replaceAll (escapeAttributeChar '&') ['&'] (s.flatMap (escapeOnly ['&']))
        = s.flatMap (escapeOnly []) :=
      replaceAll_escape (by decide) List.not_mem_nil List.mem_cons_self s
    rwa [escapeOnly_nil, List.flatMap_singleton'] at hlast
  | cons c marks ih =>
    obtain ⟨hc, hmarks⟩ := List.cons_subset.mp hmarks
    obtain ⟨hnew, hnodup⟩ := List.nodup_cons.mp hnodup
    have hamp : c ≠ '&' := by
      rintro rfl
      exact absurd hc (by decide)
    have hall : c :: (marks ++ ['&']) ⊆ tagMarks ++ ['&'] := by
      refine List.cons_subset.mpr ⟨List.mem_append_left _ hc, fun d hd => ?_⟩
      exact List.mem_append.mpr ((List.mem_append.mp hd).imp_left fun h => hmarks h)
    have hstep := replaceAll_escape hall (by simp [hnew, hamp]) (by simp) s
    show unescapeInTurn (marks ++ ['&']) (replaceAll (escapeAttributeChar c) [c] _) = s
    rw [List.cons_append, hstep]
    exact ih hmarks hnodup

/-! ### Texts and attributes -/

/-- The characters that are special in a text between two tags. -/
def textMarks : List Char := ['<', '>', '&']

/-- The characters that are special in the value of an attribute. -/
def attributeMarks : List Char := ['<', '>', '"', '&']

theorem escapeOnly_textMarks : escapeOnly textMarks = escapeChar := by
  have hmarks : ∀ c ∈ textMarks, escapeAttributeChar c = escapeChar c :=
    List.all_iff_forall_prop.mp (by decide)
  funext c
  by_cases hc : c ∈ textMarks
  · rw [escapeOnly_of_mem hc, hmarks c hc]
  · rw [escapeOnly_of_notMem hc]
    unfold escapeChar
    split <;> simp_all [textMarks]

theorem escapeOnly_eq_escapeAttributeChar (marks : List Char) (h : attributeMarks ⊆ marks) :
    escapeOnly marks = escapeAttributeChar := by
  funext c
  by_cases hc : c ∈ marks
  · exact escapeOnly_of_mem hc
  · have hplain : c ∉ attributeMarks := fun hmem => hc (h hmem)
    rw [escapeOnly_of_notMem hc]
    unfold escapeAttributeChar escapeChar
    split <;> simp_all [attributeMarks]

/-- **Text is escaped** by three replacements, that of the ampersand first. -/
theorem escapeText_eq (s : String) : (escapeText s).toList = escapeInTurn textMarks s.toList := by
  have hturns := escapeInTurn_eq ['<', '>'] (by decide) (by decide) s.toList
  rw [escapeText, String.toList_ofList, ← escapeOnly_textMarks]
  exact hturns.symm

/-- **The value of an attribute is escaped** as text is, and then its quotes are. -/
theorem escapeAttribute_eq (s : String) :
    (escapeAttribute s).toList = escapeInTurn ('"' :: textMarks) s.toList := by
  have hturns := escapeInTurn_eq ['"', '<', '>'] (by decide) (by decide) s.toList
  rw [escapeAttribute, String.toList_ofList,
    ← escapeOnly_eq_escapeAttributeChar ('"' :: textMarks) (by decide)]
  exact hturns.symm

/-- **Escaped text is undone** by three replacements, that of the ampersand last. -/
theorem unescape_escapeText (s : String) :
    unescapeInTurn textMarks (escapeText s).toList = s.toList := by
  rw [escapeText, String.toList_ofList, ← escapeOnly_textMarks]
  exact unescapeInTurn_flatMap ['<', '>'] (by decide) (by decide) s.toList

theorem unescape_escapeAttribute (s : String) :
    unescapeInTurn attributeMarks (escapeAttribute s).toList = s.toList := by
  rw [escapeAttribute, String.toList_ofList,
    ← escapeOnly_eq_escapeAttributeChar attributeMarks (List.Subset.refl _)]
  exact unescapeInTurn_flatMap ['<', '>', '"'] (by decide) (by decide) s.toList

end Kumihan.Text
