import Kumihan.Proofs.Yaml.Course
import Kumihan.Yaml.Cursor

/-!
# Readers are on course

A reader never leaves its text: it goes on in it and never back, and where the text is broken off it
never comes to the end, because it looks at the character behind what it passes.

## Main results

* `Read.ends_skip` — what is passed is there, and another character behind it if the text is
  broken off.
* `Advances.bind`, `Advances.behind` — readers that pass something.
-/

namespace Kumihan.Yaml

variable {σ α β : Type}

/-! ### Places -/

/-- A place may follow another one of the same text.  It is no end where the text is broken off. -/
structure Cursor.Behind (c c' : Cursor) : Prop where
  /-- The text is broken off with the same fault. -/
  fault_eq : c'.fault = c.fault
  /-- What is still to be read is the end of what was to be read. -/
  suffix : c'.rest <:+ c.rest
  /-- Something is still to be read where the text is broken off. -/
  rest_ne_nil : c.fault.isSome → c.rest ≠ [] → c'.rest ≠ []

/-- States with a place in a text. -/
class Placed (σ : Type) where
  /-- The place. -/
  place : σ → Cursor

open Placed (place)

instance : Placed Cursor := ⟨id⟩

/-- States lead to those whose place is further on. -/
instance [Placed σ] : Course σ where
  fault s := (place s).fault
  Leads s s' := (place s).Behind (place s')
  leads_refl _ := ⟨rfl, List.suffix_refl _, fun _ h => h⟩
  leads_trans h h' :=
    ⟨h'.fault_eq.trans h.fault_eq, h'.suffix.trans h.suffix, fun hbroken hrest =>
      h'.rest_ne_nil (h.fault_eq ▸ hbroken) (h.rest_ne_nil hbroken hrest)⟩
  fault_eq h := h.fault_eq

namespace Cursor

@[simp] theorem fault_next (c : Cursor) : c.next.fault = c.fault := by
  obtain ⟨_ | ⟨ch, rest⟩, _, _, _, _⟩ := c
  · rfl
  · simp only [next]
    split <;> rfl

@[simp] theorem fault_skip (n : Nat) (c : Cursor) : (c.skip n).fault = c.fault := by
  induction n generalizing c with
  | zero => rfl
  | succ n ih => rw [skip, ih, fault_next]

end Cursor

/-! ### Readers -/

namespace Read

theorem onCourse_fail (complaint : Complaint) : OnCourse (fail complaint : Read α) :=
  .throw (isDue_malformed complaint)

/-- Where the text is broken off, so many characters are there if they are needed. -/
theorem ends_need (c : Cursor) (n : Nat) :
    Ends c (need n) fun _ c' => c' = c ∧ (c.fault.isSome → n ≤ c.rest.length) := by
  cases hfault : c.fault with
  | none =>
    have hrun : (need n).run c = .ok ((), c) := by
      simp only [need, StateT.run_bind, StateT.run_get, pure_bind, hfault]
      rfl
    exact .of_ok hrun (Course.leads_refl c) ⟨rfl, nofun⟩
  | some fault =>
    have hrun : (need n).run c
        = if (c.rest.take n).length < n then .error fault else .ok ((), c) := by
      simp only [need, StateT.run_bind, StateT.run_get, pure_bind, hfault]
      split <;> rfl
    by_cases hshort : (c.rest.take n).length < n
    · rw [if_pos hshort] at hrun
      exact .of_error hrun fun _ _ => hfault
    · rw [if_neg hshort] at hrun
      refine .of_ok hrun (Course.leads_refl c) ⟨rfl, fun _ => ?_⟩
      rw [List.length_take] at hshort
      omega

/-- **Characters that are passed** are there, and another one behind them if the text is broken
off. -/
theorem ends_skip (c : Cursor) (n : Nat) :
    Ends c (skip n) fun _ c' => c'.rest = c.rest.drop n ∧ (c.fault.isSome → c'.rest ≠ []) := by
  refine (ends_need c (n + 1)).bind fun _ c' _ hneed => ?_
  obtain ⟨rfl, hlength⟩ := hneed
  have hrest : c'.fault.isSome → (c'.skip n).rest ≠ [] := fun hbroken => by
    have := hlength hbroken
    rw [Cursor.rest_skip]
    exact List.ne_nil_of_length_pos (by rw [List.length_drop]; omega)
  have hrun : (modify (Cursor.skip n) : Read Unit).run c' = .ok ((), c'.skip n) := rfl
  refine .of_ok hrun ⟨c'.fault_skip n, ?_, fun h _ => hrest h⟩
    ⟨c'.rest_skip n, hrest⟩
  show (c'.skip n).rest <:+ c'.rest
  rw [Cursor.rest_skip]
  exact List.drop_suffix n _

theorem onCourse_need (n : Nat) : OnCourse (need n) := fun c =>
  (ends_need c n).mono fun _ _ _ _ => trivial

/-- A look ahead leaves the place as it is. -/
theorem ends_peek (c : Cursor) (n : Nat) :
    Ends c (peek n) fun ch c' => c' = c ∧ ch = c.rest[n]? :=
  .bind (ends_need c _) fun _ _ _ h => .get_bind (.pure _ ⟨h.1, by rw [h.1]⟩)

theorem ends_nextIs (c : Cursor) (p : Char → Bool) (n : Nat) :
    Ends c (nextIs p n) fun b c' => c' = c ∧ b = c.rest[n]?.any p :=
  .bind (ends_peek c n) fun _ _ _ h => .pure _ ⟨h.1, by rw [h.2]⟩

/-- Nothing stands next where a text without characters is broken off. -/
theorem ends_nextIs_of_nil {c : Cursor} (hbroken : c.fault.isSome) (hrest : c.rest = [])
    (p : Char → Bool) : Ends c (nextIs p) fun _ _ => False := by
  have hpeek : Ends c (peek 0) fun _ _ => False :=
    .bind (ends_need c 1) fun _ _ _ h => by simpa [hrest] using h.2 hbroken
  exact .bind hpeek fun _ _ _ h => h.elim

theorem ends_endsWith (c : Cursor) (p : Char → Bool) (n : Nat) :
    Ends c (endsWith p n) fun b c' => c' = c ∧ b = c.rest[n]?.all p :=
  .bind (ends_peek c n) fun _ _ _ h => .pure _ ⟨h.1, by rw [h.2]⟩

theorem ends_atSeparator (c : Cursor) (marks : List Char) :
    Ends c (atSeparator marks) fun _ c' => c' = c := by
  refine .bind (ends_need c 3) fun _ c' _ h => ?_
  obtain ⟨rfl, -⟩ := h
  refine .get_bind ?_
  split
  · split
    · exact (ends_endsWith c' _ _).mono fun _ _ _ h => h.1
    · exact .pure _ rfl
  · exact .pure _ rfl

theorem onCourse_peek (n : Nat) : OnCourse (peek n) :=
  .bind (onCourse_need _) fun _ => .bind .get fun _ => .pure _

theorem onCourse_nextIs (p : Char → Bool) (n : Nat) : OnCourse (nextIs p n) :=
  .bind (onCourse_peek n) fun _ => .pure _

theorem onCourse_endsWith (p : Char → Bool) (n : Nat) : OnCourse (endsWith p n) :=
  .bind (onCourse_peek n) fun _ => .pure _

theorem onCourse_skip (n : Nat) : OnCourse (skip n) := fun c =>
  (ends_skip c n).mono fun _ _ _ _ => trivial

theorem onCourse_takeWhile (p : Char → Bool) : OnCourse (takeWhile p) :=
  .bind .get fun _ => .bind (onCourse_skip _) fun _ => .pure _

theorem onCourse_skipWhile (p : Char → Bool) : OnCourse (skipWhile p) :=
  .bind (onCourse_takeWhile p) fun _ => .pure _

theorem onCourse_hexNumber? (n : Nat) : OnCourse (hexNumber? n) :=
  .bind .get fun _ => .ite (.bind (onCourse_need _) fun _ => .pure _) (.pure _)

theorem onCourse_turns : OnCourse turns := .bind .get fun _ => .pure _

theorem onCourse_lineBreak : OnCourse lineBreak := by
  refine .bind (onCourse_peek _) fun
    | none => .pure _
    | some c => .ite (.bind (onCourse_skip _) fun _ => .pure _) (.pure _)

theorem onCourse_atSeparator (marks : List Char) : OnCourse (atSeparator marks) := fun c =>
  (ends_atSeparator c marks).mono fun _ _ _ _ => trivial

theorem onCourse_restOfLine (complaint : Complaint) : OnCourse (restOfLine complaint) := by
  refine .bind (onCourse_skipWhile _) fun _ => .bind (onCourse_nextIs _ _) fun comment => ?_
  refine .when (onCourse_skipWhile _) (fun _ => ?_) ()
  refine .bind (onCourse_endsWith _ _) fun closed => ?_
  refine .whenNot (onCourse_fail _) (fun _ => ?_) ()
  exact .bind onCourse_lineBreak fun _ => .pure _

end Read

/-! ### Programs that pass something -/

/-- The program is on course, and it passes a character at least where the text is broken off. -/
structure Advances [Placed σ] (m : StateT σ (Except Fault) α) : Prop where
  /-- It is on course. -/
  onCourse : OnCourse m
  /-- It passes a character. -/
  ends {s : σ} : (place s).fault.isSome → (place s).rest ≠ [] →
    Ends s m fun _ s' => (place s').rest.length < (place s).rest.length

theorem advances_skip (n : Nat) : Advances (Read.skip (n + 1)) := by
  refine ⟨Read.onCourse_skip _, fun {c} _ hrest => (Read.ends_skip c _).mono fun _ c' _ h => ?_⟩
  have hpos := List.length_pos_iff.mpr hrest
  show c'.rest.length < c.rest.length
  rw [h.1, List.length_drop]
  exact Nat.sub_lt hpos (Nat.succ_pos n)

namespace Advances

variable [Placed σ] {m m' : StateT σ (Except Fault) α} {f : α → StateT σ (Except Fault) β}

/-- What comes behind takes nothing back. -/
theorem bind (hm : Advances m) (hf : ∀ a, OnCourse (f a)) : Advances (m >>= f) := by
  refine ⟨.bind hm.onCourse hf, fun hbroken hrest => ?_⟩
  refine (hm.ends hbroken hrest).bind fun a s' _ hless => ?_
  exact (hf a s').mono fun _ _ hleads _ => Nat.lt_of_le_of_lt hleads.suffix.length_le hless

/-- What stands before leaves something to be passed. -/
theorem behind (hm : OnCourse m) (hf : ∀ a, Advances (f a)) : Advances (m >>= f) := by
  refine ⟨.bind hm fun a => (hf a).onCourse, fun {s} hbroken hrest => ?_⟩
  refine (hm s).bind fun a s' hleads _ => ?_
  have hmore := (hf a).ends (hleads.fault_eq ▸ hbroken) (hleads.rest_ne_nil hbroken hrest)
  exact hmore.mono fun _ _ _ hless => Nat.lt_of_lt_of_le hless hleads.suffix.length_le

theorem map (g : α → β) (hm : Advances m) : Advances (g <$> m) := by
  rw [map_eq_pure_bind]
  exact hm.bind fun _ => .pure _

theorem ite {p : Prop} [Decidable p] (hm : Advances m) (hm' : Advances m') :
    Advances (if p then m else m') := by
  split
  · exact hm
  · exact hm'

theorem whenNot {p : Prop} [Decidable p] (hm : OnCourse m) (hf : ∀ a, Advances (f a)) (a : α) :
    Advances (if p then f a else m >>= f) := ite (hf a) (behind hm hf)

end Advances

end Kumihan.Yaml
