import Kumihan.Text.Occurrence

/-!
# Texts that avoid a pattern

Where a pattern occurs in a text that is put together from pieces is clear when no
occurrence can begin in one piece and end in another.  Two facts see to that here: a
pattern whose first character does not come again cannot overlap itself, and a
character that is not in the pattern keeps the text before it and the text behind it
apart.

## Main definitions

* `isFree pat s` — `s` has no character of `pat`.
* `Sealed pat s` — `s` avoids `pat`, whatever text stands before and behind it.
* `neverBegins pat s` — no occurrence of `pat` begins in `s`, whatever text stands behind it.

## Main results

* `cut?_append` — the first occurrence behind a text that avoids the pattern.
* `infix_append_cons_iff` — a character that is not in the pattern separates.
* `cons_infix_append_iff`, `concat_infix_append_iff` — a text without the first character of the
  pattern before an occurrence, or without the last one behind it.
* `not_infix_flatMap`, `not_infix_replaceAll` — rewriting makes no occurrence.
-/

namespace Kumihan.Text

variable {pat s x y : List Char} {c : Char}

/-! ### The first occurrence -/

theorem cut?_eq_none_iff : cut? pat s = none ↔ ¬ pat <:+: s := by
  induction s with
  | nil => simp [cut?]
  | cons d s ih =>
    rw [List.infix_cons_iff, cut?]
    by_cases hp : pat.isPrefixOf (d :: s) = true
    · simp [hp, List.isPrefixOf_iff_prefix.mp hp]
    · have hnot : ¬ pat <+: d :: s := fun h => hp (List.isPrefixOf_iff_prefix.mpr h)
      rw [if_neg hp, Option.map_eq_none_iff, ih]
      simp [hnot]

theorem hasInfix_iff : hasInfix pat s = true ↔ pat <:+: s := by
  have h : cut? pat s = none ↔ ¬ pat <:+: s := cut?_eq_none_iff
  unfold hasInfix
  cases hcut : cut? pat s with
  | none =>
    rw [hcut] at h
    simpa using h
  | some p =>
    rw [hcut] at h
    simpa using h

/-- An occurrence of a pattern whose first character does not come again cannot
begin in `x` and end behind it, if the pattern follows on `x`. -/
theorem not_prefix_append {m rest : List Char} (hc : c ∉ m) (hx : x ≠ [])
    (havoids : ¬ c :: m <+: x) : ¬ c :: m <+: x ++ (c :: m ++ rest) := by
  rintro ⟨t, ht⟩
  rcases List.append_eq_append_iff.mp ht with ⟨y, hm, -⟩ | ⟨y, hm, hy⟩
  · exact havoids (hm ▸ List.prefix_append _ y)
  · cases x with
    | nil => exact hx rfl
    | cons d x =>
      cases y with
      | nil =>
        rw [List.append_nil] at hm
        exact havoids (hm ▸ List.prefix_refl _)
      | cons e y =>
        -- the overlap would begin with the first character of the pattern
        rw [List.cons_append, List.cons.injEq] at hm
        rw [List.cons_append, List.cons_append, List.cons.injEq] at hy
        apply hc
        rw [hm.2, hy.1]
        simp

theorem cut?_append {m : List Char} (hc : c ∉ m) (havoids : ¬ c :: m <:+: x) (rest : List Char) :
    cut? (c :: m) (x ++ (c :: m ++ rest)) = some (x, rest) := by
  induction x with
  | nil =>
    have hp : (c :: m).isPrefixOf (c :: m ++ rest) = true :=
      List.isPrefixOf_iff_prefix.mpr (List.prefix_append _ _)
    rw [List.nil_append, List.cons_append, cut?, ← List.cons_append, if_pos hp,
      List.drop_left]
  | cons d x ih =>
    rw [List.infix_cons_iff, not_or] at havoids
    -- an occurrence at `d` would reach over the end of `x`
    have hp : ¬ (c :: m).isPrefixOf (d :: x ++ (c :: m ++ rest)) = true := fun h =>
      not_prefix_append hc (List.cons_ne_nil d x) havoids.1 (List.isPrefixOf_iff_prefix.mp h)
    rw [List.cons_append, cut?, ← List.cons_append, if_neg hp, ih havoids.2]
    rfl

theorem countOf_eq_zero (h : ¬ pat <:+: s) : countOf pat s = 0 := by
  rw [countOf]
  split
  · rfl
  · split
    · rfl
    · next hcut => simp [cut?_eq_none_iff.mpr h] at hcut

theorem countOf_append {m : List Char} (hc : c ∉ m) (havoids : ¬ c :: m <:+: x)
    (rest : List Char) :
    countOf (c :: m) (x ++ (c :: m ++ rest)) = countOf (c :: m) rest + 1 := by
  rw [countOf, dif_neg (List.cons_ne_nil c m)]
  split
  · next hcut =>
    rw [cut?_append hc havoids] at hcut
    contradiction
  · next hcut =>
    rw [cut?_append hc havoids, Option.some.injEq, Prod.mk.injEq] at hcut
    rw [hcut.2]

theorem replaceFirst_append {m : List Char} (hc : c ∉ m) (havoids : ¬ c :: m <:+: x)
    (rep rest : List Char) :
    replaceFirst (c :: m) rep (x ++ (c :: m ++ rest)) = x ++ rep ++ rest := by
  rw [replaceFirst, cut?_append hc havoids]

/-! ### Separating characters -/

theorem infix_append_cons_iff (hpat : pat ≠ []) (hc : c ∉ pat) :
    pat <:+: x ++ c :: y ↔ pat <:+: x ∨ pat <:+: y := by
  -- no part of the pattern begins with `c`
  have hstart : ∀ p, p ≠ [] → (∀ e ∈ p, e ∈ pat) → ¬ p <+: c :: y := by
    rintro (_ | ⟨e, p⟩) hp hsub h
    · exact hp rfl
    · obtain ⟨rfl, -⟩ := List.cons_prefix_cons.mp h
      exact hc (hsub e List.mem_cons_self)
  rw [List.infix_append_iff, List.infix_cons_iff]
  constructor
  · rintro (h | (h | h) | ⟨p, q, rfl, hp, hq⟩)
    · exact Or.inl h
    · exact absurd h (hstart pat hpat fun _ he => he)
    · exact Or.inr h
    · cases q with
      | nil =>
        rw [List.append_nil]
        exact Or.inl hp.isInfix
      | cons e q =>
        exact absurd hq (hstart _ (List.cons_ne_nil e q) fun _ he => List.mem_append_right p he)
  · rintro (h | h)
    · exact Or.inl h
    · exact Or.inr (Or.inl (Or.inr h))

/-- A text in which some character of the pattern is missing. -/
theorem not_infix_of_notMem (hc : c ∈ pat) (h : c ∉ s) : ¬ pat <:+: s :=
  fun hoccurs => h (hoccurs.subset hc)

/-- A pattern does not begin in a text without its first character. -/
theorem cons_infix_append_iff {m : List Char} (h : c ∉ x) :
    c :: m <:+: x ++ y ↔ c :: m <:+: y := by
  induction x with
  | nil => rfl
  | cons d x ih =>
    rw [List.mem_cons, not_or] at h
    rw [List.cons_append, List.infix_cons_iff, List.cons_prefix_cons, ih h.2]
    simp [h.1]

/-- A pattern does not end in a text without its last character. -/
theorem concat_infix_append_iff {m : List Char} (h : c ∉ y) :
    m ++ [c] <:+: x ++ y ↔ m ++ [c] <:+: x := by
  have hrev : c ∉ y.reverse := by simpa using h
  have hback : ∀ s, m ++ [c] <:+: s ↔ c :: m.reverse <:+: s.reverse := by
    intro s
    rw [← List.reverse_infix, List.reverse_append]
    rfl
  rw [hback, hback, List.reverse_append, cons_infix_append_iff hrev]

/-- Several characters that are not in the pattern separate like one. -/
theorem not_infix_append_append (hpat : pat ≠ []) {sep : List Char} (hsep : sep ≠ [])
    (hout : ∀ e ∈ sep, e ∉ pat) (hx : ¬ pat <:+: x) (hy : ¬ pat <:+: y) :
    ¬ pat <:+: x ++ sep ++ y := by
  induction sep generalizing x with
  | nil => exact absurd rfl hsep
  | cons e sep ih =>
    have he := hout e List.mem_cons_self
    rw [List.append_assoc, List.cons_append, infix_append_cons_iff hpat he, not_or]
    refine ⟨hx, ?_⟩
    cases sep with
    | nil => simpa using hy
    | cons e' sep =>
      have := ih (List.cons_ne_nil e' sep) (fun d hd => hout d (List.mem_cons_of_mem e hd))
        (x := []) (by simpa using hpat)
      simpa using this

/-! ### Rewriting makes no occurrence -/

/-- Where each character stays as it is or becomes a text without a character of the pattern,
a beginning that is made of such characters was there before. -/
theorem prefix_of_prefix_flatMap {f : Char → List Char}
    (hf : ∀ e, f e = [e] ∨ f e ≠ [] ∧ ∀ d ∈ f e, d ∉ pat) {p : List Char}
    (hsub : ∀ d ∈ p, d ∈ pat) (h : p <+: s.flatMap f) : p <+: s := by
  induction s generalizing p with
  | nil => simpa using h
  | cons e s ih =>
    cases p with
    | nil => exact List.nil_prefix
    | cons d p =>
      rw [List.flatMap_cons] at h
      rcases hf e with he | ⟨hne, hout⟩
      · rw [he, List.singleton_append, List.cons_prefix_cons] at h
        obtain ⟨rfl, h⟩ := h
        exact List.cons_prefix_cons.mpr
          ⟨rfl, ih (fun d hd => hsub d (List.mem_cons_of_mem _ hd)) h⟩
      · cases hfe : f e with
        | nil => exact absurd hfe hne
        | cons b t =>
          rw [hfe, List.cons_append, List.cons_prefix_cons] at h
          have hd := hsub d List.mem_cons_self
          rw [h.1] at hd
          exact absurd hd (hout b (by rw [hfe]; exact List.mem_cons_self))

theorem not_infix_flatMap (hpat : pat ≠ []) {f : Char → List Char}
    (hf : ∀ e, f e = [e] ∨ f e ≠ [] ∧ ∀ d ∈ f e, d ∉ pat) (h : ¬ pat <:+: s) :
    ¬ pat <:+: s.flatMap f := by
  induction s with
  | nil => simpa using h
  | cons e s ih =>
    rw [List.infix_cons_iff, not_or] at h
    rw [List.flatMap_cons]
    rcases hf e with he | ⟨hne, hout⟩
    · rw [he, List.singleton_append, List.infix_cons_iff, not_or]
      refine ⟨fun hp => h.1 (prefix_of_prefix_flatMap hf (fun _ hd => hd) ?_), ih h.2⟩
      rw [List.flatMap_cons, he]
      exact hp
    · exact not_infix_append_append hpat hne hout (x := []) (by simpa using hpat) (ih h.2)

/-- Where moreover each character of the pattern stays as it is, no occurrence is lost. -/
theorem infix_flatMap_iff (hpat : pat ≠ []) {f : Char → List Char}
    (hf : ∀ e, f e = [e] ∨ f e ≠ [] ∧ ∀ d ∈ f e, d ∉ pat) (hfix : ∀ e ∈ pat, f e = [e]) :
    pat <:+: s.flatMap f ↔ pat <:+: s := by
  constructor
  · intro h
    exact Classical.byContradiction fun hs => not_infix_flatMap hpat hf hs h
  · rintro ⟨before, after, rfl⟩
    have hkeep : pat.flatMap f = pat := by
      rw [List.flatMap_def, List.map_congr_left hfix, ← List.flatMap_def,
        List.flatMap_singleton']
    rw [List.flatMap_append, List.flatMap_append, hkeep]
    exact ⟨_, _, rfl⟩

theorem replaceAll_of_not_infix {rep : List Char} (h : ¬ pat <:+: s) :
    replaceAll pat rep s = s := by
  rw [replaceAll]
  split
  · rfl
  · split
    · rfl
    · next hcut =>
      rw [cut?_eq_none_iff.mpr h] at hcut
      contradiction

/-- A replacement without a character of `w` makes no occurrence of `w`. -/
theorem not_infix_replaceAll {w rep : List Char} (hw : w ≠ []) (hrep : rep ≠ [])
    (hout : ∀ e ∈ rep, e ∉ w) (h : ¬ w <:+: s) : ¬ w <:+: replaceAll pat rep s := by
  induction hlen : s.length using Nat.strongRecOn generalizing s with
  | ind n ih =>
    rw [replaceAll]
    split
    · exact h
    · next hpat =>
      split
      · exact h
      · next before after hcut =>
        have hs := cut?_eq_append hcut
        have hlt := length_lt_of_cut? hpat hcut
        -- neither side of an occurrence has `w` in it, and the replacement parts them
        have hbefore : ¬ w <:+: before := fun hi => h (hi.trans ⟨[], pat ++ after, by simp [hs]⟩)
        have hafter : ¬ w <:+: after := fun hi => h (hi.trans ⟨before ++ pat, [], by simp [hs]⟩)
        exact not_infix_append_append hw hrep hout hbefore
          (ih after.length (hlen ▸ hlt) hafter rfl)

/-! ### Sealed texts -/

/-- No character of the text is one of the pattern. -/
def isFree (pat s : List Char) : Bool := s.all fun e => !pat.contains e

theorem notMem_of_isFree (h : isFree pat s = true) : ∀ e ∈ s, e ∉ pat := by
  intro e he
  have hnot := List.all_eq_true.mp h e he
  simpa using hnot

/-- A text that avoids the pattern and whose ends are no part of one. -/
structure Sealed (pat s : List Char) : Prop where
  avoids : ¬ pat <:+: s
  first : ∀ e ∈ s.head?, e ∉ pat
  last : ∀ e ∈ s.getLast?, e ∉ pat

namespace Sealed

theorem append (hpat : pat ≠ []) (hx : Sealed pat x) (hy : Sealed pat y) : Sealed pat (x ++ y) := by
  cases y with
  | nil =>
    rw [List.append_nil]
    exact hx
  | cons e y =>
    have he : e ∉ pat := hy.first e rfl
    have hy' : ¬ pat <:+: y := fun h => hy.avoids (List.infix_cons_iff.mpr (Or.inr h))
    refine ⟨?_, ?_, ?_⟩
    · rw [infix_append_cons_iff hpat he, not_or]
      exact ⟨hx.avoids, hy'⟩
    · intro d hd
      cases x with
      | nil => exact hy.first d hd
      | cons b x => exact hx.first d hd
    · intro d hd
      rw [List.getLast?_append, List.getLast?_cons, Option.some_or, ← List.getLast?_cons] at hd
      exact hy.last d hd

/-- Between two sealed texts any text that avoids the pattern may stand. -/
theorem around (hpat : pat ≠ []) {a b : List Char} (ha : Sealed pat a) (hb : Sealed pat b)
    (hane : a ≠ []) (hbne : b ≠ []) (hx : ¬ pat <:+: x) : Sealed pat (a ++ x ++ b) := by
  obtain ⟨a, e, rfl⟩ : ∃ a' e, a = a' ++ [e] :=
    ⟨a.dropLast, a.getLast hane, (List.dropLast_concat_getLast hane).symm⟩
  cases b with
  | nil => exact absurd rfl hbne
  | cons d b =>
    have he : e ∉ pat := ha.last e (by simp)
    have hd : d ∉ pat := hb.first d rfl
    have ha' : ¬ pat <:+: a := fun h => ha.avoids (h.trans (List.prefix_append a [e]).isInfix)
    have hb' : ¬ pat <:+: b := fun h => hb.avoids (List.infix_cons_iff.mpr (Or.inr h))
    refine ⟨?_, ?_, ?_⟩
    · rw [infix_append_cons_iff hpat hd, List.append_assoc, List.singleton_append,
        infix_append_cons_iff hpat he]
      simp [ha', hx, hb']
    · intro f hf
      apply ha.first f
      cases a with
      | nil => simpa using hf
      | cons g a => simpa using hf
    · intro f hf
      rw [List.getLast?_append, List.getLast?_cons, Option.some_or, ← List.getLast?_cons] at hf
      exact hb.last f hf

/-- A text without a character that the pattern has, and with ends that it does not have. -/
theorem of_notMem (hc : c ∈ pat) (h : c ∉ s)
    (hends : isFree pat (s.head?.toList ++ s.getLast?.toList) = true) : Sealed pat s := by
  have hends := notMem_of_isFree hends
  refine ⟨not_infix_of_notMem hc h, fun e he => hends e ?_, fun e he => hends e ?_⟩
  · exact List.mem_append_left _ (Option.mem_toList.mpr he)
  · exact List.mem_append_right _ (Option.mem_toList.mpr he)

/-- A text without any character of the pattern. -/
theorem of_forall (hpat : pat ≠ []) (h : ∀ e ∈ s, e ∉ pat) : Sealed pat s := by
  refine ⟨?_, fun e he => h e (List.mem_of_mem_head? he), fun e he => h e (List.mem_of_getLast? he)⟩
  cases pat with
  | nil => exact absurd rfl hpat
  | cons c m => exact not_infix_of_notMem List.mem_cons_self fun hc => h c hc List.mem_cons_self

end Sealed

/-! ### Texts in which a pattern never begins -/

/-- No occurrence of the pattern begins in the text, whatever stands behind it: at every place one
of the two goes on otherwise than the other. -/
def neverBegins (pat : List Char) : List Char → Bool
  | [] => true
  | c :: s => !pat.isPrefixOf (c :: s) && !(c :: s).isPrefixOf pat && neverBegins pat s

theorem neverBegins_cons_iff : neverBegins pat (c :: s) = true
    ↔ ¬ pat <+: c :: s ∧ ¬ c :: s <+: pat ∧ neverBegins pat s = true := by
  simp only [neverBegins, Bool.and_eq_true, Bool.not_eq_true', ← Bool.not_eq_true,
    List.isPrefixOf_iff_prefix, and_assoc]

/-- At the beginning of such a text the pattern does not stand. -/
theorem not_prefix_append_of_neverBegins (h : neverBegins pat (c :: s) = true) (y : List Char) :
    ¬ pat <+: c :: s ++ y := by
  obtain ⟨hpat, hs, -⟩ := neverBegins_cons_iff.mp h
  exact fun hy => (List.prefix_or_prefix_of_prefix hy (List.prefix_append (c :: s) y)).elim hpat hs

theorem neverBegins_append (hx : neverBegins pat x = true) (hy : neverBegins pat y = true) :
    neverBegins pat (x ++ y) = true := by
  induction x with
  | nil => exact hy
  | cons d x ih =>
    obtain ⟨-, hx', hrest⟩ := neverBegins_cons_iff.mp hx
    exact neverBegins_cons_iff.mpr ⟨not_prefix_append_of_neverBegins hx y,
      fun h => hx' ((List.prefix_append (d :: x) y).trans h), ih hrest⟩

/-- A pattern never begins in a text without its first character. -/
theorem neverBegins_of_notMem {m : List Char} (h : c ∉ s) : neverBegins (c :: m) s = true := by
  induction s with
  | nil => rfl
  | cons d s ih =>
    rw [List.mem_cons, not_or] at h
    refine neverBegins_cons_iff.mpr ⟨?_, ?_, ih h.2⟩
    · exact fun hp => h.1 (List.cons_prefix_cons.mp hp).1
    · exact fun hp => h.1 (List.cons_prefix_cons.mp hp).1.symm

/-- Where the beginning of a pattern never begins, the pattern does not. -/
theorem neverBegins_of_prefix {p : List Char} (hp : p <+: pat) (h : neverBegins p s = true) :
    neverBegins pat s = true := by
  induction s with
  | nil => rfl
  | cons d s ih =>
    obtain ⟨hpat, hs, hrest⟩ := neverBegins_cons_iff.mp h
    refine neverBegins_cons_iff.mpr ⟨fun hd => hpat (hp.trans hd), fun hd => ?_, ih hrest⟩
    exact (List.prefix_or_prefix_of_prefix hp hd).elim hpat hs

/-- **The first occurrence** stands behind a text in which none begins. -/
theorem cut?_of_neverBegins (hpat : pat ≠ []) (h : neverBegins pat x = true) (rest : List Char) :
    cut? pat (x ++ (pat ++ rest)) = some (x, rest) := by
  induction x with
  | nil =>
    cases pat with
    | nil => exact absurd rfl hpat
    | cons d m =>
      have hp : (d :: m).isPrefixOf (d :: m ++ rest) = true :=
        List.isPrefixOf_iff_prefix.mpr (List.prefix_append _ _)
      rw [List.nil_append, List.cons_append, cut?, ← List.cons_append, if_pos hp, List.drop_left]
  | cons d x ih =>
    have hp : ¬ pat.isPrefixOf (d :: x ++ (pat ++ rest)) = true := fun hp =>
      not_prefix_append_of_neverBegins h _ (List.isPrefixOf_iff_prefix.mp hp)
    rw [List.cons_append, cut?, ← List.cons_append, if_neg hp, ih (neverBegins_cons_iff.mp h).2.2]
    rfl

end Kumihan.Text
