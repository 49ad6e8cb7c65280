import Kumihan.Proofs.Contents.Resolved

/-!
# The gaps of a page

A page with placeholders is its parts with a placeholder between any two, and there is one way to
cut it so: the first character of the placeholder does not come again in it, so no two placeholders
overlap.  Filling the first gap joins the two parts beside it.  What is put there shares no
character with the placeholder, so the part that results holds no placeholder either, and the other
gaps stay as they were.

## Main definitions

* `Text.IsCut pat parts s` — the parts of a text between the occurrences of a pattern.
* `Text.weave parts words` — parts with words between them.

## Main results

* `Text.exists_isCut`, `Text.IsCut.unique` — **a text is cut at a pattern in one way.**
* `Text.IsCut.countOf_eq` — there is one part more than there are occurrences.
* `Text.IsCut.foldl_replaceFirst` — filling one gap after the other fills all of them in order.
* `resolve_weave` — **when a page is resolved, and to what.**
-/

namespace Kumihan.Text

/-! ### Parts -/

/-- A text is cut at every occurrence of a pattern: no part of it holds the pattern, and the text
is the parts with the pattern between any two. -/
structure IsCut (pat : List Char) (parts : List (List Char)) (s : List Char) : Prop where
  ne_nil : parts ≠ []
  avoids : ∀ part ∈ parts, ¬ pat <:+: part
  eq_intercalate : s = pat.intercalate parts

/-- Parts with words between them, the first word behind the first part. -/
def weave : List (List Char) → List (List Char) → List Char
  | [], _ => []
  | part :: parts, [] => part ++ weave parts []
  | part :: parts, word :: words => part ++ word ++ weave parts words

/-- Where two parts are joined by a word, the word is between them. -/
theorem weave_join (p word q : List Char) (parts words : List (List Char)) :
    weave ((p ++ word ++ q) :: parts) words = weave (p :: q :: parts) (word :: words) := by
  cases words with
  | nil => simp [weave]
  | cons w words => simp [weave]

theorem intercalate_join (pat p word q : List Char) (parts : List (List Char)) :
    pat.intercalate ((p ++ word ++ q) :: parts) = p ++ word ++ pat.intercalate (q :: parts) := by
  cases parts with
  | nil => simp
  | cons part parts => simp [List.intercalate_cons_cons]

section

variable {c : Char} {m s : List Char} {p q word : List Char} {parts parts' : List (List Char)}

theorem IsCut.tail (h : IsCut (c :: m) (p :: q :: parts) s) :
    IsCut (c :: m) (q :: parts) ((c :: m).intercalate (q :: parts)) where
  ne_nil := List.cons_ne_nil q parts
  avoids := fun part hpart => h.avoids part (List.mem_cons_of_mem p hpart)
  eq_intercalate := rfl

/-- A text with more than one part goes on with the pattern behind the first of them. -/
theorem IsCut.eq_append (h : IsCut (c :: m) (p :: q :: parts) s) :
    s = p ++ (c :: m ++ (c :: m).intercalate (q :: parts)) := by
  rw [h.eq_intercalate, List.intercalate_cons_cons, List.append_assoc]

/-- The first part ends where the pattern occurs first. -/
theorem IsCut.cut? (hc : c ∉ m) (h : IsCut (c :: m) (p :: q :: parts) s) :
    Text.cut? (c :: m) s = some (p, (c :: m).intercalate (q :: parts)) := by
  rw [h.eq_append]
  exact cut?_append hc (h.avoids p List.mem_cons_self) _

/-- A text of one part does not hold the pattern. -/
theorem IsCut.cut?_singleton (h : IsCut (c :: m) [p] s) : Text.cut? (c :: m) s = none := by
  rw [cut?_eq_none_iff, h.eq_intercalate, List.intercalate_singleton]
  exact h.avoids p List.mem_cons_self

/-- **Every text can be cut at a pattern.** -/
theorem exists_isCut (c : Char) (m s : List Char) : ∃ parts, IsCut (c :: m) parts s := by
  induction hlen : s.length using Nat.strongRecOn generalizing s with
  | ind n ih =>
    have hpat : c :: m ≠ [] := List.cons_ne_nil c m
    cases hcut : Text.cut? (c :: m) s with
    | none =>
      refine ⟨[s], List.cons_ne_nil s [], ?_, List.intercalate_singleton.symm⟩
      rw [List.forall_mem_singleton]
      exact cut?_eq_none_iff.mp hcut
    | some cut =>
      obtain ⟨before, after⟩ := cut
      have hlt := length_lt_of_cut? hpat hcut
      obtain ⟨parts, hne, havoids, hafter⟩ := ih after.length (hlen ▸ hlt) after rfl
      refine ⟨before :: parts, List.cons_ne_nil before parts, ?_, ?_⟩
      · exact List.forall_mem_cons.mpr ⟨not_infix_of_cut?_eq_some hpat hcut, havoids⟩
      · cases parts with
        | nil => exact absurd rfl hne
        | cons q parts => rw [List.intercalate_cons_cons, ← hafter, cut?_eq_append hcut]

/-- **A text is cut in one way** at a pattern whose first character does not come again in it. -/
theorem IsCut.unique (hc : c ∉ m) (h : IsCut (c :: m) parts s) (h' : IsCut (c :: m) parts' s) :
    parts' = parts := by
  induction parts generalizing parts' s with
  | nil => exact absurd rfl h.ne_nil
  | cons p parts ih =>
    cases parts' with
    | nil => exact absurd rfl h'.ne_nil
    | cons p' parts' =>
      match parts, parts' with
      | [], [] =>
        have hs := h.eq_intercalate
        rw [h'.eq_intercalate, List.intercalate_singleton, List.intercalate_singleton] at hs
        rw [hs]
      | [], q' :: parts' =>
        have hcut := h'.cut? hc
        rw [h.cut?_singleton] at hcut
        contradiction
      | q :: parts, [] =>
        have hcut := h.cut? hc
        rw [h'.cut?_singleton] at hcut
        contradiction
      | q :: parts, q' :: parts' =>
        have hcut := h.cut? hc
        rw [h'.cut? hc, Option.some.injEq, Prod.mk.injEq] at hcut
        obtain ⟨rfl, hrest⟩ := hcut
        have htail := h'.tail
        rw [hrest] at htail
        rw [ih h.tail htail]

/-- **There is one part more than there are occurrences.** -/
theorem IsCut.countOf_eq (hc : c ∉ m) (h : IsCut (c :: m) parts s) :
    countOf (c :: m) s + 1 = parts.length := by
  induction parts generalizing s with
  | nil => exact absurd rfl h.ne_nil
  | cons p parts ih =>
    cases parts with
    | nil =>
      rw [countOf_of_cut?_eq_none h.cut?_singleton]
      rfl
    | cons q parts =>
      rw [countOf_of_cut?_eq_some (List.cons_ne_nil c m) (h.cut? hc), ih h.tail]
      rfl

/-! ### Filling -/

/-- **The first gap is filled**: the parts beside it are one part now. -/
theorem IsCut.replaceFirst (hc : c ∉ m) (hword : word ≠ []) (hout : ∀ e ∈ word, e ∉ c :: m)
    (h : IsCut (c :: m) (p :: q :: parts) s) :
    IsCut (c :: m) ((p ++ word ++ q) :: parts) (replaceFirst (c :: m) word s) where
  ne_nil := List.cons_ne_nil _ parts
  avoids := by
    obtain ⟨hp, hq, hparts⟩ := List.forall_mem_cons.mp h.avoids |>.imp_right List.forall_mem_cons.mp
    refine List.forall_mem_cons.mpr ⟨?_, hparts⟩
    exact not_infix_append_append (List.cons_ne_nil c m) hword hout hp hq
  eq_intercalate := by
    rw [Text.replaceFirst, h.cut? hc, intercalate_join]

/-- **One gap after the other is filled**, each with the next word, and no occurrence is left.  The
induction is on the words; each of them joins two parts. -/
theorem IsCut.foldl_replaceFirst (hc : c ∉ m) {words : List (List Char)}
    (hwords : ∀ word ∈ words, word ≠ [] ∧ ∀ e ∈ word, e ∉ c :: m) (h : IsCut (c :: m) parts s)
    (hlength : parts.length = words.length + 1) :
    words.foldl (fun t word => Text.replaceFirst (c :: m) word t) s = weave parts words
      ∧ ¬ c :: m <:+: weave parts words := by
  induction words generalizing parts s with
  | nil =>
    obtain ⟨p, rfl⟩ := List.length_eq_one_iff.mp hlength
    have hp : weave [p] [] = p := List.append_nil p
    rw [List.foldl_nil, h.eq_intercalate, List.intercalate_singleton, hp]
    exact ⟨rfl, h.avoids p List.mem_cons_self⟩
  | cons word words ih =>
    match parts, hlength with
    | p :: q :: parts, hlength =>
      obtain ⟨⟨hword, hout⟩, hwords⟩ := List.forall_mem_cons.mp hwords
      have hjoined := h.replaceFirst hc hword hout
      rw [List.foldl_cons, ← weave_join]
      exact ih hwords hjoined (Nat.succ.inj hlength)

end

end Kumihan.Text

namespace Kumihan.Book

/-! ### Pages -/

/-- The numbers of pages, as they are put into the gaps. -/
def pageNumerals (targets : List Nat) : List (List Char) := targets.map (Text.paddedDigits 3)

theorem fillPlaceholders_eq_foldl (s : List Char) (targets : List Nat) :
    fillPlaceholders s targets
      = (pageNumerals targets).foldl (fun t word => Text.replaceFirst placeholder word t) s := by
  rw [fillPlaceholders, pageNumerals, List.foldl_map]

/-- A numeral is not empty and has no character of the placeholder. -/
theorem numeral_of_mem_pageNumerals {targets : List Nat} {word : List Char}
    (h : word ∈ pageNumerals targets) : word ≠ [] ∧ ∀ e ∈ word, e ∉ placeholder := by
  obtain ⟨target, -, rfl⟩ := List.mem_map.mp h
  refine ⟨Text.paddedDigits_ne_nil 3 target, fun e he => ?_⟩
  exact notMem_placeholder_of_isDigit (Text.isDigit_of_mem_paddedDigits he)

section

variable {skeleton : Skeleton} {actions : List Action} {parts : List (List Char)}

theorem placeholderCount_add_one (h : Text.IsCut placeholder parts skeleton.markup.toList) :
    skeleton.placeholderCount + 1 = parts.length := by
  obtain ⟨m, hm, hc⟩ := exists_placeholder_cons
  rw [hm] at h
  rw [← h.countOf_eq hc, ← hm]
  rfl

/-- A page with a placeholder for each target is filled, and no placeholder is left on it. -/
theorem resolve_eq_weave (h : Text.IsCut placeholder parts skeleton.markup.toList)
    (hlength : skeleton.placeholderCount = (linkTargets actions).length) :
    skeleton.resolve actions
        = .ok (String.ofList (Text.weave parts (pageNumerals (linkTargets actions))))
      ∧ ¬ placeholder <:+: Text.weave parts (pageNumerals (linkTargets actions)) := by
  have hparts : parts.length = (pageNumerals (linkTargets actions)).length + 1 := by
    rw [← placeholderCount_add_one h, hlength, pageNumerals, List.length_map]
  obtain ⟨m, hm, hc⟩ := exists_placeholder_cons
  have hwords (word : List Char) (hword : word ∈ pageNumerals (linkTargets actions)) :
      word ≠ [] ∧ ∀ e ∈ word, e ∉ 'R' :: m := hm ▸ numeral_of_mem_pageNumerals hword
  rw [hm] at h
  obtain ⟨hfilled, havoids⟩ := h.foldl_replaceFirst hc hwords hparts
  rw [Skeleton.resolve, if_pos hlength, fillPlaceholders_eq_foldl, hm, hfilled]
  exact ⟨rfl, havoids⟩

end

/-- **When a page is resolved, and to what.**  Any markup is cut at its placeholders in one way,
and there is one part more than there are placeholders.  If there is not one placeholder for each
target, the fault tells both numbers.  Otherwise the page is the parts with the numbers of the
targets between them, in their order and with three digits at least, and no placeholder is on it. -/
theorem resolve_weave (skeleton : Skeleton) (actions : List Action) :
    ∃ parts, Text.IsCut placeholder parts skeleton.markup.toList
      ∧ (∀ parts', Text.IsCut placeholder parts' skeleton.markup.toList → parts' = parts)
      ∧ skeleton.placeholderCount + 1 = parts.length
      ∧ (∀ fault, skeleton.resolve actions = .error fault
        ↔ skeleton.placeholderCount ≠ (linkTargets actions).length
          ∧ fault = ⟨skeleton.placeholderCount, (linkTargets actions).length⟩)
      ∧ (∀ page, skeleton.resolve actions = .ok page
        ↔ skeleton.placeholderCount = (linkTargets actions).length
          ∧ page.toList = Text.weave parts (pageNumerals (linkTargets actions)))
      ∧ ∀ page, skeleton.resolve actions = .ok page → ¬ placeholder <:+: page.toList := by
  obtain ⟨m, hm, hc⟩ := exists_placeholder_cons
  obtain ⟨parts, hcut⟩ : ∃ parts, Text.IsCut placeholder parts skeleton.markup.toList :=
    hm ▸ Text.exists_isCut 'R' m skeleton.markup.toList
  have hunique (parts' : List (List Char))
      (hcut' : Text.IsCut placeholder parts' skeleton.markup.toList) : parts' = parts :=
    Text.IsCut.unique hc (hm ▸ hcut) (hm ▸ hcut')
  refine ⟨parts, hcut, hunique, placeholderCount_add_one hcut, ?_⟩
  by_cases hlength : skeleton.placeholderCount = (linkTargets actions).length
  · obtain ⟨hpage, havoids⟩ := resolve_eq_weave hcut hlength
    rw [hpage]
    refine ⟨by simp [hlength], fun page => ?_, ?_⟩
    · rw [Except.ok.injEq, ← String.toList_inj, String.toList_ofList, eq_comm]
      exact (and_iff_right hlength).symm
    · rintro page ⟨⟩
      rwa [String.toList_ofList]
  · have hfault : skeleton.resolve actions
        = .error ⟨skeleton.placeholderCount, (linkTargets actions).length⟩ := if_neg hlength
    rw [hfault]
    refine ⟨fun fault => ?_, by simp [hlength], fun _ hpage => absurd hpage (by simp)⟩
    rw [Except.error.injEq, eq_comm]
    exact (and_iff_right hlength).symm

end Kumihan.Book
