import Mathlib.Data.List.Basic
import Kumihan.Proofs.Text.Cut
import Kumihan.Text.Escape
import Kumihan.Yaml.Cursor

/-!
# Values of attributes

What is written between the quotes of an attribute is not its value: an ampersand opens a reference
to a character.  A value is read as XML reads it, up to the next quote; there is none where an
ampersand opens no reference, and none with a `<` in it.

## Main definitions

* `referenced? name` — the character that a reference names.
* `decodeReferences s` — the text with every reference read.
* `attributeValue? s` — the value of the attribute that is open at the beginning of a text.

## Main results

* `attributeValue?_escapeAttribute` — **what is escaped is read back.**
* `attributeValue?_eq_self_iff` — **what is written as it is, is read back exactly if it has no
  quote, no ampersand and no `<`.**
-/

namespace Kumihan.Text

/-! ### References -/

/-- The character with a number that is written in a base of at most sixteen. -/
def numberedChar? (base : Nat) (digits : List Char) : Option Char := do
  let n ← digits.foldlM (fun n c => do
    let d ← Yaml.hexDigit? c
    if d < base then some (base * n + d) else none) 0
  if digits ≠ [] ∧ n.isValidChar then some (Char.ofNat n) else none

/-- The character that a reference names, by what stands between its ampersand and its
semicolon. -/
def referenced? : List Char → Option Char
  | ['a', 'm', 'p'] => some '&'
  | ['l', 't'] => some '<'
  | ['g', 't'] => some '>'
  | ['q', 'u', 'o', 't'] => some '"'
  | ['a', 'p', 'o', 's'] => some '\''
  | '#' :: 'x' :: digits => numberedChar? 16 digits
  | '#' :: digits => numberedChar? 10 digits
  | _ => none

/-- The text with every reference read. -/
def decodeReferences : List Char → Option (List Char)
  | [] => some []
  | c :: s =>
    if c = '<' then none
    else if c = '&' then
      match _h : cutAt? ';' s with
      | none => none
      | some (name, rest) => do
        let d ← referenced? name
        let more ← decodeReferences rest
        return d :: more
    else (decodeReferences s).map (c :: ·)
termination_by s => s.length
decreasing_by
  · rw [(cutAt?_eq_some_iff.mp _h).1]
    simp only [List.length_cons, List.length_append]
    omega
  · simp

/-- The value of an attribute, from behind the quote that opens it. -/
def attributeValue? (s : List Char) : Option (List Char) :=
  (cutAt? '"' s).bind fun (written, _) => decodeReferences written

theorem decodeReferences_nil : decodeReferences [] = some [] := by rw [decodeReferences]

theorem decodeReferences_cons {c : Char} (hlt : c ≠ '<') (hamp : c ≠ '&') (s : List Char) :
    decodeReferences (c :: s) = (decodeReferences s).map (c :: ·) := by
  rw [decodeReferences, if_neg hlt, if_neg hamp]

theorem decodeReferences_reference {name : List Char} (h : ';' ∉ name) (rest : List Char) :
    decodeReferences ('&' :: (name ++ ';' :: rest))
      = (referenced? name).bind fun d => (decodeReferences rest).map (d :: ·) := by
  rw [decodeReferences, if_neg (by decide), if_pos rfl]
  split
  · next hcut =>
    rw [cutAt?_append_cons h] at hcut
    contradiction
  · next hcut =>
    rw [cutAt?_append_cons h, Option.some.injEq, Prod.mk.injEq] at hcut
    obtain ⟨rfl, rfl⟩ := hcut
    cases referenced? name <;> cases decodeReferences rest <;> rfl

/-! ### What is written -/

/-- **A reference is longer than the character that it names**, so a value that is as long as what
is written has none. -/
theorem length_le_of_decodeReferences {s v : List Char} (h : decodeReferences s = some v) :
    v.length ≤ s.length ∧ (v.length = s.length → '&' ∉ s ∧ '<' ∉ s) := by
  induction hlen : s.length using Nat.strongRecOn generalizing s v with
  | ind len ih =>
    cases s with
    | nil =>
      rw [decodeReferences_nil] at h
      obtain rfl := Option.some.inj h
      exact ⟨Nat.zero_le _, fun _ => ⟨List.not_mem_nil, List.not_mem_nil⟩⟩
    | cons c s =>
      by_cases hlt : c = '<'
      · rw [decodeReferences, if_pos hlt] at h
        contradiction
      by_cases hamp : c = '&'
      · subst hamp
        cases hcut : cutAt? ';' s with
        | none =>
          rw [decodeReferences, if_neg hlt, if_pos rfl] at h
          split at h
          · contradiction
          · next hsome =>
            rw [hcut] at hsome
            contradiction
        | some p =>
          obtain ⟨name, rest⟩ := p
          obtain ⟨rfl, hname⟩ := cutAt?_eq_some_iff.mp hcut
          rw [decodeReferences_reference hname] at h
          obtain ⟨d, -, h⟩ := Option.bind_eq_some_iff.mp h
          obtain ⟨more, hmore, rfl⟩ := Option.map_eq_some_iff.mp h
          simp only [List.length_cons, List.length_append] at hlen ⊢
          obtain ⟨hle, -⟩ := ih rest.length (by omega) hmore rfl
          exact ⟨by omega, fun heq => by omega⟩
      · rw [decodeReferences_cons hlt hamp] at h
        obtain ⟨more, hmore, rfl⟩ := Option.map_eq_some_iff.mp h
        simp only [List.length_cons] at hlen ⊢
        obtain ⟨hle, hplain⟩ := ih s.length (by omega) hmore rfl
        refine ⟨by omega, fun heq => ?_⟩
        obtain ⟨hamps, hlts⟩ := hplain (by omega)
        simp [hamps, hlts, Ne.symm hlt, Ne.symm hamp]

theorem decodeReferences_append {x : List Char} (hamp : '&' ∉ x) (hlt : '<' ∉ x) (y : List Char) :
    decodeReferences (x ++ y) = (decodeReferences y).map (x ++ ·) := by
  induction x with
  | nil => simp
  | cons c x ih =>
    rw [List.mem_cons, not_or] at hamp hlt
    rw [List.cons_append, decodeReferences_cons (Ne.symm hlt.1) (Ne.symm hamp.1),
      ih hamp.2 hlt.2, Option.map_map]
    rfl

theorem decodeReferences_of_notMem {s : List Char} (hamp : '&' ∉ s) (hlt : '<' ∉ s) :
    decodeReferences s = some s := by
  have h := decodeReferences_append hamp hlt []
  rwa [decodeReferences_nil, Option.map_some, List.append_nil] at h

/-- A value ends at the first quote. -/
theorem attributeValue?_append {s : List Char} (h : '"' ∉ s) (behind : List Char) :
    attributeValue? (s ++ '"' :: behind) = decodeReferences s := by
  rw [attributeValue?, cutAt?_append_cons h, Option.bind_some]

/-- **What is written as it is, is read back** exactly if it has no quote, no ampersand and no
`<`. -/
theorem attributeValue?_eq_self_iff {s : List Char} (behind : List Char) :
    attributeValue? (s ++ '"' :: behind) = some s ↔ '"' ∉ s ∧ '&' ∉ s ∧ '<' ∉ s := by
  by_cases hquote : '"' ∈ s
  · -- the value ends before the quote, and is no longer than what is written there
    obtain ⟨x, y, rfl, hx⟩ := List.eq_append_cons_of_mem hquote
    refine iff_of_false (fun h => ?_) fun h => h.1 hquote
    rw [List.append_assoc, List.cons_append, attributeValue?_append hx] at h
    have hlength := (length_le_of_decodeReferences h).1
    simp only [List.length_append, List.length_cons] at hlength
    omega
  · rw [attributeValue?_append hquote, and_iff_right hquote]
    exact ⟨fun h => (length_le_of_decodeReferences h).2 rfl,
      fun ⟨hamp, hlt⟩ => decodeReferences_of_notMem hamp hlt⟩

/-! ### What is escaped -/

/-- What an attribute is escaped for is written as a reference, and all else as it is. -/
theorem escapeAttributeChar_cases (c : Char) :
    (∃ name, ';' ∉ name ∧ '"' ∉ name ∧ escapeAttributeChar c = '&' :: (name ++ [';'])
        ∧ referenced? name = some c)
      ∨ escapeAttributeChar c = [c] ∧ c ≠ '"' ∧ c ≠ '&' ∧ c ≠ '<' := by
  unfold escapeAttributeChar
  split
  · exact Or.inl ⟨['q', 'u', 'o', 't'], by decide, by decide, rfl, rfl⟩
  · next hquote =>
    unfold escapeChar
    split
    · exact Or.inl ⟨['a', 'm', 'p'], by decide, by decide, rfl, rfl⟩
    · exact Or.inl ⟨['l', 't'], by decide, by decide, rfl, rfl⟩
    · exact Or.inl ⟨['g', 't'], by decide, by decide, rfl, rfl⟩
    · next hamp hlt _ => exact Or.inr ⟨rfl, hquote, hamp, hlt⟩

theorem quote_notMem_escape (s : List Char) : '"' ∉ s.flatMap escapeAttributeChar := by
  intro h
  obtain ⟨c, -, hc⟩ := List.mem_flatMap.mp h
  rcases escapeAttributeChar_cases c with ⟨name, -, hquote, hwritten, -⟩ | ⟨hwritten, hquote, -⟩
  · rw [hwritten] at hc
    simp [hquote] at hc
  · rw [hwritten, List.mem_singleton] at hc
    exact hquote hc.symm

theorem decodeReferences_escape (s : List Char) :
    decodeReferences (s.flatMap escapeAttributeChar) = some s := by
  induction s with
  | nil => exact decodeReferences_nil
  | cons c s ih =>
    rw [List.flatMap_cons]
    rcases escapeAttributeChar_cases c with ⟨name, hname, -, hwritten, hread⟩ |
      ⟨hwritten, -, hamp, hlt⟩
    · rw [hwritten, List.cons_append, List.append_assoc, List.singleton_append,
        decodeReferences_reference hname, hread, ih]
      rfl
    · rw [hwritten, List.singleton_append, decodeReferences_cons hlt hamp, ih]
      rfl

theorem lt_notMem_escapeChar (c : Char) : '<' ∉ escapeChar c := by
  unfold escapeChar
  split
  · decide
  · decide
  · decide
  · next hlt _ => simpa using Ne.symm hlt

/-- What is escaped opens no tag, between two tags as well as in an attribute. -/
theorem lt_notMem_escapeText (s : String) : '<' ∉ (escapeText s).toList := by
  rw [escapeText, String.toList_ofList]
  intro h
  obtain ⟨c, -, hc⟩ := List.mem_flatMap.mp h
  exact lt_notMem_escapeChar c hc

theorem lt_notMem_escapeAttribute (s : String) : '<' ∉ (escapeAttribute s).toList := by
  rw [escapeAttribute, String.toList_ofList]
  intro h
  obtain ⟨c, -, hc⟩ := List.mem_flatMap.mp h
  unfold escapeAttributeChar at hc
  split at hc
  · exact absurd hc (by decide)
  · exact lt_notMem_escapeChar c hc

/-- **What is escaped is read back.** -/
theorem attributeValue?_escapeAttribute (s : String) (behind : List Char) :
    attributeValue? ((escapeAttribute s).toList ++ '"' :: behind) = some s.toList := by
  rw [escapeAttribute, String.toList_ofList,
    attributeValue?_append (quote_notMem_escape s.toList)]
  exact decodeReferences_escape s.toList

end Kumihan.Text
