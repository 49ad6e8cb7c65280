import Kumihan.Proofs.Yaml.Cursor
import Kumihan.Yaml.Lexeme

/-!
# Lexemes are on course

Each reader of a lexeme is made of readers that are on course, and the proof of it follows the
reader line by line.  A lexeme that a mark begins passes that mark; a scalar without quotes passes
its first word.

## Main results

* `advances_anchorName`, `advances_tagToken`, `advances_directive`, `advances_quotedScalar`,
  `advances_blockScalar` — the lexemes that a mark begins.
* `ends_plainScalar` — a scalar without quotes.
-/

namespace Kumihan.Yaml

open Read

/-! ### Names and tags -/

theorem advances_anchorName : Advances anchorName := by
  refine .bind (advances_skip 0) fun _ => .bind (onCourse_takeWhile _) fun _ => ?_
  exact .bind (onCourse_endsWith _ _) fun _ => .when (onCourse_fail _) (fun _ => .pure _) ()

theorem onCourse_escapedByte : OnCourse escapedByte :=
  .bind (onCourse_skip _) fun _ => .bind (onCourse_hexNumber? _) fun
    | some _ => .bind (onCourse_skip _) fun _ => .pure _
    | none => onCourse_fail _

theorem onCourse_escapedBytes (n : Nat) : OnCourse (escapedBytes n) := by
  induction n with
  | zero => exact .pure _
  | succ n ih =>
    refine .bind (onCourse_nextIs _ _) fun _ => .ite ?_ (.pure _)
    exact .bind onCourse_escapedByte fun _ => .bind ih fun _ => .pure _

theorem onCourse_uriChars (n : Nat) : OnCourse (uriChars n) := by
  induction n with
  | zero => exact .pure _
  | succ n ih =>
    refine .bind (onCourse_takeWhile _) fun _ => .bind (onCourse_nextIs _ _) fun _ =>
      .ite (.bind onCourse_turns fun _ => .bind (onCourse_escapedBytes _) fun _ => ?_) (.pure _)
    split
    · exact .bind ih fun _ => .pure _
    · exact onCourse_fail _

theorem onCourse_uri : OnCourse uri := by
  refine .bind .get fun _ => .bind onCourse_turns fun _ => .bind (onCourse_uriChars _) fun _ => ?_
  exact .bind .get fun _ => .when (onCourse_fail _) (fun _ => .pure _) ()

theorem advances_tagHandle : Advances tagHandle := by
  refine .behind (onCourse_nextIs _ _) fun _ => .whenNot (onCourse_fail _) (fun _ => ?_) ()
  refine .bind (advances_skip 0) fun _ => .bind (onCourse_nextIs _ _) fun _ => .ite (.pure _) ?_
  refine .bind (onCourse_takeWhile _) fun _ => .bind (onCourse_nextIs _ _) fun _ => ?_
  exact .whenNot (onCourse_fail _) (fun _ => .bind (onCourse_skip _) fun _ => .pure _) ()

theorem onCourse_hasHandle : OnCourse hasHandle := .bind .get fun _ => onCourse_nextIs _ _

theorem advances_tagToken : Advances tagToken := by
  -- whatever tag it is, what stands behind it is looked at
  have hend (token : Token) : OnCourse (do
      unless ← endsWith fun c => c == ' ' || isBreak c do fail .badTag
      return token) :=
    .bind (onCourse_endsWith _ _) fun _ => .whenNot (onCourse_fail _) (fun _ => .pure _) ()
  refine .behind (onCourse_nextIs _ _) fun _ => .ite ?verbatim <|
    .behind (onCourse_endsWith _ _) fun _ => .ite ?bare <|
    .behind onCourse_hasHandle fun _ => .ite ?handle ?single
  case verbatim =>
    refine .bind (advances_skip 1) fun _ => .bind onCourse_uri fun _ =>
      .bind (onCourse_nextIs _ _) fun _ => .whenNot (onCourse_fail _) (fun _ => ?_) ()
    exact .bind (onCourse_skip _) fun _ => .bind (.pure _) hend
  case bare => exact .bind (advances_skip 0) fun _ => .bind (.pure _) hend
  case handle =>
    exact .bind advances_tagHandle fun _ => .bind onCourse_uri fun _ => .bind (.pure _) hend
  case single =>
    exact .bind (advances_skip 0) fun _ => .bind onCourse_uri fun _ => .bind (.pure _) hend

/-! ### Directives -/

theorem onCourse_number : OnCourse number :=
  .bind (onCourse_takeWhile _) fun _ => .when (onCourse_fail _) (fun _ => .pure _) ()

theorem advances_directive : Advances directive := by
  have hclosed : OnCourse (endsWith fun c => c == ' ' || isBreak c) := onCourse_endsWith _ _
  have hend (result : Directive) : OnCourse (do
      restOfLine .badDirective
      return result) :=
    .bind (onCourse_restOfLine _) fun _ => .pure _
  refine .bind (advances_skip 0) fun _ => .bind (onCourse_takeWhile _) fun name =>
    .bind hclosed fun _ => .when (onCourse_fail _) (fun _ => ?_) ()
  dsimp only
  split
  · refine .bind (onCourse_skipWhile _) fun _ => .bind onCourse_number fun _ =>
      .bind (onCourse_nextIs _ _) fun _ => .whenNot (onCourse_fail _) (fun _ => ?_) ()
    refine .bind (onCourse_skip _) fun _ => .bind onCourse_number fun _ => .bind hclosed fun _ => ?_
    exact .whenNot (onCourse_fail _) (fun _ => .bind (.pure _) hend) ()
  · refine .bind (onCourse_skipWhile _) fun _ => .bind advances_tagHandle.onCourse fun _ =>
      .bind (onCourse_nextIs _ _) fun _ => .whenNot (onCourse_fail _) (fun _ => ?_) ()
    refine .bind (onCourse_skipWhile _) fun _ => .bind onCourse_uri fun _ =>
      .bind hclosed fun _ => ?_
    exact .whenNot (onCourse_fail _) (fun _ => .bind (.pure _) hend) ()
  · exact .bind (onCourse_skipWhile _) fun _ => .bind (.pure _) hend

/-! ### Scalars in quotes -/

theorem onCourse_coded (n : Nat) : OnCourse (coded n) :=
  .bind (onCourse_hexNumber? _) fun
    | none => onCourse_fail _
    | some _ =>
      .when (.throw (isDue_unreadable _)) (fun _ => .bind (onCourse_skip _) fun _ => .pure _) ()

theorem onCourse_quotedBreaks (n : Nat) : OnCourse (quotedBreaks n) := by
  induction n with
  | zero => exact .pure _
  | succ n ih =>
    refine .bind (onCourse_atSeparator _) fun _ => .when (onCourse_fail _) (fun _ => ?_) ()
    exact .bind (onCourse_skipWhile _) fun _ => .bind onCourse_lineBreak fun
      | some _ => .bind ih fun _ => .pure _
      | none => .pure _

theorem onCourse_escaped : OnCourse escaped := by
  refine .bind (onCourse_peek _) fun
    | none => onCourse_fail _
    | some c => ?_
  dsimp only
  split
  · exact .bind (onCourse_skip _) fun _ => .pure _
  · exact .bind (onCourse_skip _) fun _ => .bind (onCourse_coded _) fun _ => .pure _
  · exact .bind onCourse_lineBreak fun
      | some _ => .bind onCourse_turns fun _ => .bind (onCourse_quotedBreaks _) fun _ => .pure _
      | none => onCourse_fail _

theorem onCourse_quotedWord (double : Bool) (n : Nat) : OnCourse (quotedWord double n) := by
  induction n with
  | zero => exact .pure _
  | succ n ih =>
    -- a quote or a backslash that belongs to the word
    have hmore (word : List Text.Letter) (c : Char) (k : Nat) : OnCourse (do
        skip k
        return word ++ .char c :: (← quotedWord double n)) :=
      .bind (onCourse_skip _) fun _ => .bind ih fun _ => .pure _
    refine .bind (onCourse_takeWhile _) fun _ => .bind (onCourse_peek _) fun _ => ?_
    split
    · exact .ite (hmore _ _ _) <| .bind (onCourse_nextIs _ _) fun _ => .ite (hmore _ _ _) (.pure _)
    · exact .ite (.pure _) (hmore _ _ _)
    · exact .bind (onCourse_skip _) fun _ =>
        .ite (.bind onCourse_escaped fun _ => .bind ih fun _ => .pure _) (.bind ih fun _ => .pure _)
    · exact .pure _

theorem onCourse_quotedGap : OnCourse quotedGap := by
  refine .bind (onCourse_takeWhile _) fun _ => .bind (onCourse_peek _) fun _ =>
    .when (onCourse_fail _) (fun _ => ?_) ()
  exact .bind onCourse_lineBreak fun
    | some _ => .bind onCourse_turns fun _ => .bind (onCourse_quotedBreaks _) fun _ => .pure _
    | none => .pure _

theorem onCourse_quotedRest (double : Bool) (n : Nat) : OnCourse (quotedRest double n) := by
  induction n with
  | zero => exact onCourse_fail _
  | succ n ih =>
    refine .bind onCourse_turns fun _ => .bind (onCourse_quotedWord _ _) fun _ =>
      .bind (onCourse_nextIs _ _) fun _ => .ite ?_ ?_
    · exact .bind (onCourse_skip _) fun _ => .pure _
    · exact .bind onCourse_quotedGap fun _ => .bind ih fun _ => .pure _

theorem advances_quotedScalar (double : Bool) : Advances (quotedScalar double) :=
  .bind (advances_skip 0) fun _ => .bind onCourse_turns fun _ => onCourse_quotedRest _ _

/-! ### Scalars without quotes -/

theorem onCourse_plainBreaks (n : Nat) : OnCourse (plainBreaks n) := by
  induction n with
  | zero => exact .pure _
  | succ n ih =>
    exact .bind (onCourse_skipWhile _) fun _ => .bind onCourse_lineBreak fun
      | none => .pure _
      | some _ => .bind (onCourse_atSeparator _) fun _ => .ite (.pure _) (.bind ih fun _ => .pure _)

theorem onCourse_plainGap : OnCourse plainGap := by
  refine .bind (onCourse_takeWhile _) fun _ => .bind onCourse_lineBreak fun
    | none => .pure _
    | some _ => .bind (onCourse_atSeparator _) fun _ => .ite (.pure _) ?_
  exact .bind onCourse_turns fun _ => .bind (onCourse_plainBreaks _) fun
    | none => .pure _
    | some _ => .pure _

/-- What comes behind a word of a scalar without quotes. -/
theorem onCourse_behindWord {flow : Bool} {indent : Int} {n : Nat}
    (hmore : ∀ gap broke, OnCourse (plainRest flow indent gap broke n)) (before : List Char) :
    OnCourse (do
      let (gap, broke) ← plainGap
      let outdented := !flow && decide (((← get).column : Int) < indent)
      if gap.isEmpty || outdented || (← nextIs (· == '#')) then return (before, broke)
      let (more, broke) ← plainRest flow indent gap broke n
      return (before ++ more, broke)) :=
  .bind onCourse_plainGap fun _ => .bind .get fun _ => .bind (onCourse_nextIs _ _) fun _ =>
    .ite (.pure _) (.bind (hmore _ _) fun _ => .pure _)

theorem onCourse_plainRest (flow : Bool) (indent : Int) (gap : List Char) (broke : Bool) (n : Nat) :
    OnCourse (plainRest flow indent gap broke n) := by
  induction n generalizing gap broke with
  | zero => exact .pure _
  | succ n ih =>
    refine .bind (onCourse_nextIs _ _) fun _ => .bind .get fun _ =>
      .bind (onCourse_nextIs _ _) fun _ => .when (onCourse_need _) (fun _ => .ite (.pure _) ?_) ()
    exact .bind (onCourse_skip _) fun _ => onCourse_behindWord ih _

theorem onCourse_plainScalar (flow : Bool) (indent : Int) : OnCourse (plainScalar flow indent) :=
  .bind onCourse_turns fun _ => onCourse_plainRest _ _ _ _ _

/-- **A scalar without quotes passes its first word**, if it is not empty and no comment. -/
theorem ends_plainScalar {c : Cursor} {flow : Bool} (indent : Int) (hbroken : c.fault.isSome)
    (hword : plainWord flow c.rest ≠ []) (hcomment : c.rest.head? ≠ some '#') :
    Ends c (plainScalar flow indent) fun _ c' => c'.rest.length < c.rest.length := by
  have hrest : c.rest ≠ [] := by
    intro h
    rw [h] at hword
    exact hword rfl
  obtain ⟨k, hk⟩ : ∃ k, (plainWord flow c.rest).length = k + 1 :=
    Nat.exists_eq_succ_of_ne_zero fun h => hword (List.length_eq_zero_iff.mp h)
  refine .get_bind ?_
  show Ends c (plainRest flow indent [] false (c.rest.length + 1)) _
  -- what is looked at before the word leaves the place as it is
  refine (ends_nextIs c _ _).bind fun comment c' _ h => ?_
  obtain ⟨rfl, hnext⟩ := h
  refine .get_bind <| (ends_nextIs c' _ _).bind fun colon c'' _ h => ?_
  obtain ⟨rfl, -⟩ := h
  refine .when ((ends_need c'' _).mono fun _ _ _ h => h.1) (fun _ => ?_) ()
  rw [if_neg]
  · refine Advances.ends (.bind ?_ fun _ => onCourse_behindWord (onCourse_plainRest _ _ · · _) _)
      hbroken hrest
    rw [hk]
    exact advances_skip k
  · have hnone : comment = false := by
      rw [hnext, ← List.head?_eq_getElem?, Bool.eq_false_iff, Ne, Option.any_eq_true]
      rintro ⟨ch, hhead, hch⟩
      exact hcomment (by rw [hhead, beq_iff_eq.mp hch])
    simp [hnone, hword]

/-! ### Block scalars -/

theorem onCourse_chompingSign : OnCourse chompingSign := by
  refine .bind (onCourse_peek _) fun _ => ?_
  split
  · exact .bind (onCourse_skip _) fun _ => .pure _
  · exact .pure _

theorem onCourse_indentDigit : OnCourse indentDigit :=
  .bind (onCourse_peek _) fun
    | some _ => .when (onCourse_fail _)
        (fun _ => .ite (.pure _) (.bind (onCourse_skip _) fun _ => .pure _)) ()
    | none => .pure _

theorem onCourse_blockHeader : OnCourse blockHeader := by
  have hend (result : Chomping × Option Nat) : OnCourse (do
      unless ← endsWith fun c => c == ' ' || isBreak c do fail .badBlockHeader
      restOfLine .badBlockHeader
      return result) :=
    .bind (onCourse_endsWith _ _) fun _ =>
      .whenNot (onCourse_fail _) (fun _ => .bind (onCourse_restOfLine _) fun _ => .pure _) ()
  exact .bind onCourse_chompingSign fun
    | some _ => .bind onCourse_indentDigit fun _ => .bind (.pure _) hend
    | none => .bind onCourse_indentDigit fun
      | some _ => .bind onCourse_chompingSign fun _ => .bind (.pure _) hend
      | none => .bind (.pure _) hend

theorem onCourse_leadingBreaks (deepest n : Nat) : OnCourse (leadingBreaks deepest n) := by
  induction n generalizing deepest with
  | zero => exact .pure _
  | succ n ih =>
    exact .bind (onCourse_skipWhile _) fun _ => .bind .get fun _ => .bind onCourse_lineBreak fun
      | some _ => .bind (ih _) fun _ => .pure _
      | none => .pure _

theorem onCourse_indentTo (indent : Nat) : OnCourse (indentTo indent) :=
  .bind .get fun _ => onCourse_skip _

theorem onCourse_blockBreaks (indent n : Nat) : OnCourse (blockBreaks indent n) := by
  induction n with
  | zero => exact .pure _
  | succ n ih =>
    exact .bind (onCourse_indentTo _) fun _ => .bind onCourse_lineBreak fun
      | some _ => .bind ih fun _ => .pure _
      | none => .pure _

theorem onCourse_blockLines (fold : Bool) (how : Chomping) (indent : Nat) (breaks : List Char)
    (n : Nat) : OnCourse (blockLines fold how indent breaks n) := by
  induction n generalizing breaks with
  | zero => exact .pure _
  | succ n ih =>
    refine .bind (onCourse_nextIs _ _) fun _ => .bind (onCourse_takeWhile _) fun _ =>
      .bind onCourse_lineBreak fun _ => .bind onCourse_turns fun _ =>
      .bind (onCourse_blockBreaks _ _) fun _ => .bind .get fun _ =>
      .bind (onCourse_peek _) fun _ => .ite ?_ ?_
    · exact .bind (onCourse_nextIs _ _) fun _ => .bind (ih _) fun _ => .pure _
    · cases how with
      | strip => exact .pure _
      | clip => exact .pure _
      | keep => exact .pure _

/-- The lines of a block scalar behind its first breaks. -/
theorem onCourse_blockText (fold : Bool) (how : Chomping) (start : List Char × Nat) :
    OnCourse (do
      let (breaks, indent) := start
      if (← get).column = indent && (← peek).isSome then
        blockLines fold how indent breaks (← turns)
      else
        return if how = .keep then breaks else []) :=
  .bind .get fun _ => .bind (onCourse_peek _) fun _ =>
    .ite (.bind onCourse_turns fun _ => onCourse_blockLines _ _ _ _ _) (.pure _)

theorem advances_blockScalar (fold : Bool) (outer : Int) : Advances (blockScalar fold outer) := by
  refine .bind (advances_skip 0) fun _ => .bind onCourse_blockHeader fun (how, depth) => ?_
  cases depth with
  | none =>
    exact .bind onCourse_turns fun _ => .bind (onCourse_leadingBreaks _ _) fun _ =>
      .bind (.pure _) (onCourse_blockText fold how)
  | some depth =>
    exact .bind onCourse_turns fun _ => .bind (onCourse_blockBreaks _ _) fun _ =>
      .bind (.pure _) (onCourse_blockText fold how)

end Kumihan.Yaml
