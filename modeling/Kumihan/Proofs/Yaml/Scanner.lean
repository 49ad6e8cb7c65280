import Kumihan.Proofs.Yaml.Lexeme
import Kumihan.Yaml.Scanner

/-!
# The scanner is on course

A step of the scanner reads one token.  What it looks at before leaves the place as it is; then the
token passes its mark, or a scalar without quotes its first word, which is not empty, because the
scanner looks for what begins one before it reads one.  So every step passes something where the
text is broken off, and the last one comes to the character that is not there.

## Main definitions

* `Stays` — the program leaves the place in the text as it is.
* `Passes` — the program passes the character that stands next.

## Main results

* `Scan.passes_token` — a token passes the character that tells it.
* `Scan.ends_step` — a step goes on in the text.
* `fault_scan`, `isSome_fault_scan` — the tokens of a text that is broken off end with a fault, and
  if it is one about bytes it is the one that the text is broken off with.
-/

namespace Kumihan.Yaml

open Placed (place)

variable {α β : Type}

instance : Placed Scanner := ⟨Scanner.cursor⟩

/-- The program leaves the place in the text, and whether it is within brackets, as they are. -/
def Stays (m : Scan α) : Prop :=
  ∀ s : Scanner, Ends s m fun _ s' => s'.cursor = s.cursor ∧ s'.inFlow = s.inFlow

namespace Stays

variable {m : Scan α} {f : α → Scan β}

theorem onCourse (hm : Stays m) : OnCourse m := fun s => (hm s).mono fun _ _ _ _ => trivial

theorem bind (hm : Stays m) (hf : ∀ a, Stays (f a)) : Stays (m >>= f) := fun s =>
  (hm s).bind fun a s' _ h => (hf a s').mono fun _ _ _ h' => ⟨h'.1.trans h.1, h'.2.trans h.2⟩

theorem pure (a : α) : Stays (pure a : Scan α) := fun _ => .pure a ⟨rfl, rfl⟩

theorem get : Stays (get : Scan Scanner) := fun s =>
  .of_ok (rfl : _ = Except.ok (s, s)) (Course.leads_refl s) ⟨rfl, rfl⟩

theorem modify {g : Scanner → Scanner}
    (h : ∀ s, (g s).cursor = s.cursor ∧ (g s).inFlow = s.inFlow) :
    Stays (modify g : Scan Unit) := by
  intro s
  have hleads : s.cursor.Behind (g s).cursor := by
    rw [(h s).1]
    exact Course.leads_refl s
  exact .of_ok (rfl : _ = Except.ok ((), g s)) hleads (h s)

theorem ite {c : Prop} [Decidable c] {m m' : Scan α} (hm : Stays m) (hm' : Stays m') :
    Stays (if c then m else m') := by
  split
  · exact hm
  · exact hm'

theorem whenNot {c : Prop} [Decidable c] (hm : Stays m) (hf : ∀ a, Stays (f a)) (a : α) :
    Stays (if c then f a else m >>= f) := ite (hf a) (hm.bind hf)

theorem before (hm : Stays m) (hf : ∀ a, Advances (f a)) : Advances (m >>= f) :=
  .behind hm.onCourse hf

end Stays

namespace Scan

/-- Reading a lexeme moves the place and nothing else. -/
theorem ends_read {r : Read α} {s : Scanner} {after : α → Cursor → Prop}
    (h : Ends s.cursor r after) :
    Ends s (read r) fun a s' => after a s'.cursor ∧ s'.inFlow = s.inFlow := by
  have hread : (read r).run s
      = (r.run s.cursor).map fun result => (result.1, { s with cursor := result.2 }) := by
    simp only [read, StateT.run_bind, StateT.run_get, pure_bind]
    cases r.run s.cursor <;> rfl
  cases hrun : r.run s.cursor with
  | error fault =>
    rw [hrun] at hread
    exact .of_error hread (h.error hrun)
  | ok result =>
    obtain ⟨hleads, hafter⟩ := h.ok hrun
    rw [hrun] at hread
    exact .of_ok hread hleads ⟨hafter, rfl⟩

theorem onCourse_read {r : Read α} (hr : OnCourse r) : OnCourse (read r) := fun s =>
  (ends_read (hr s.cursor)).mono fun _ _ _ _ => trivial

theorem advances_read {r : Read α} (hr : Advances r) : Advances (read r) :=
  ⟨onCourse_read hr.onCourse, fun hbroken hrest =>
    (ends_read (hr.ends hbroken hrest)).mono fun _ _ _ h => h.1⟩

/-- Looking at what stands next leaves everything as it is. -/
theorem stays_read {r : Read α} (hr : ∀ c, Ends c r fun _ c' => c' = c) : Stays (read r) := fun s =>
  ends_read (hr s.cursor)

theorem ends_fail (s : Scanner) (complaint : Complaint) {after : α → Scanner → Prop} :
    Ends s (fail complaint) after := isDue_malformed complaint

theorem stays_fail (complaint : Complaint) : Stays (fail complaint : Scan α) := fun s =>
  ends_fail s complaint

theorem stays_emit (t : Token) : Stays (emit t) := .modify fun _ => ⟨rfl, rfl⟩
theorem stays_allowKey (allowed : Bool) : Stays (allowKey allowed) := .modify fun _ => ⟨rfl, rfl⟩

/-! ### Keys and indentation -/

theorem ownFaults_expired (now : Cursor) (key : Option PendingKey) :
    OwnFaults (expired now key) := by
  cases key with
  | none => exact .ok _
  | some key => exact .ite (.ok _) (.ite (.error (isDue_malformed _)) (.ok _))

theorem onCourse_dropStale : OnCourse dropStale := by
  intro s
  refine .get_bind <| .bind (.lift (ownFaults_expired _ _)) fun pending s' _ h => ?_
  obtain ⟨rfl, -⟩ := h
  refine .bind (.lift (.mapM (ownFaults_expired _) _)) fun outerPending s'' _ h => ?_
  obtain ⟨rfl, -⟩ := h
  exact .put (Course.leads_refl s'') trivial

theorem stays_dropPending : Stays dropPending := by
  intro s
  refine .get_bind <| .when (ends_fail s _) (fun _ => ?_) ()
  exact .put (Course.leads_refl s) ⟨rfl, rfl⟩

theorem stays_markPending : Stays markPending :=
  .bind .get fun _ => .ite (.bind stays_dropPending fun _ => .modify fun _ => ⟨rfl, rfl⟩) (.pure _)

theorem stays_unwind (column : Int) : Stays (unwind column) := .modify fun s => by
  split
  · exact ⟨rfl, rfl⟩
  · exact ⟨rfl, rfl⟩

theorem stays_openBlock (column : Nat) (mark : Token) (position : Nat) :
    Stays (openBlock column mark position) := .modify fun s => by
  split
  · exact ⟨rfl, rfl⟩
  · exact ⟨rfl, rfl⟩

theorem stays_blockMark (mark : Token) (complaint : Complaint) : Stays (blockMark mark complaint) :=
  .bind .get fun _ => .ite (.pure _) <| .whenNot (stays_fail _) (fun _ => stays_openBlock _ _ _) ()

theorem stays_atDocumentEnd : Stays atDocumentEnd :=
  .bind (stays_unwind _) fun _ => .bind stays_dropPending fun _ => stays_allowKey _

/-! ### Tokens -/

/-- A lexeme that is passed, and its token. -/
theorem advances_emit {r : Read α} (hr : Advances r) (t : α → Token) :
    Advances (do emit (t (← read r))) :=
  .bind (advances_read hr) fun _ => (stays_emit _).onCourse

/-- A mark of one character, and its token. -/
theorem advances_mark (t : Token) :
    Advances (do
      read Read.skip
      emit t) :=
  advances_emit (advances_skip 0) fun _ => t

theorem advances_documentMark (t : Token) : Advances (documentMark t) :=
  stays_atDocumentEnd.before fun _ => advances_emit (advances_skip 2) fun _ => t

theorem advances_openFlow (t : Token) : Advances (openFlow t) :=
  stays_markPending.before fun _ => .behind (.modify fun s => Course.leads_refl s.cursor) fun _ =>
    (stays_allowKey _).before fun _ => advances_mark t

theorem advances_closeFlow (t : Token) : Advances (closeFlow t) :=
  stays_dropPending.before fun _ => .behind (.modify fun s => Course.leads_refl s.cursor) fun _ =>
    (stays_allowKey _).before fun _ => advances_mark t

theorem advances_comma : Advances comma :=
  (stays_allowKey _).before fun _ => stays_dropPending.before fun _ => advances_mark _

theorem advances_blockEntry : Advances blockEntry :=
  (stays_blockMark _ _).before fun _ => (stays_allowKey _).before fun _ =>
    stays_dropPending.before fun _ => advances_mark _

theorem advances_explicitKey : Advances explicitKey :=
  (stays_blockMark _ _).before fun _ => .behind .get fun _ => (stays_allowKey _).before fun _ =>
    stays_dropPending.before fun _ => advances_mark _

theorem advances_mappingValue : Advances mappingValue := by
  refine .behind .get fun s => ?_
  cases s.pending with
  | some key =>
    refine .behind (.modify fun s => Course.leads_refl s.cursor) fun _ => .behind .get fun _ => ?_
    exact .whenNot (stays_openBlock _ _ _).onCourse
      (fun _ => (stays_allowKey _).before fun _ => advances_mark _) ()
  | none =>
    exact (stays_blockMark _ _).before fun _ => .behind .get fun _ =>
      (stays_allowKey _).before fun _ => stays_dropPending.before fun _ => advances_mark _

theorem advances_keyLexeme {r : Read Token} (hr : Advances r) : Advances (keyLexeme r) :=
  stays_markPending.before fun _ => (stays_allowKey _).before fun _ => advances_emit hr id

theorem advances_block (fold : Bool) : Advances (block fold) :=
  (stays_allowKey _).before fun _ => stays_dropPending.before fun _ => .behind .get fun _ =>
    advances_emit (advances_blockScalar fold _) _

/-! ### Characters that tell the token -/

theorem stays_gapBehind : Stays gapBehind :=
  stays_read fun c => (Read.ends_endsWith c _ _).mono fun _ _ _ h => h.1

theorem stays_dash (c : Char) : Stays (pure (c == '-') <&&> gapBehind) := by
  refine .bind (.pure _) fun dash => ?_
  cases dash with
  | false => exact .pure _
  | true => exact stays_gapBehind

theorem stays_atMark (mark c : Char) : Stays (atMark mark c) :=
  .bind .get fun _ => .ite (stays_read fun c => Read.ends_atSeparator c _) (.pure _)

theorem stays_atIndicator (mark c : Char) : Stays (atIndicator mark c) :=
  .ite (.pure _) (.bind .get fun _ => .ite (.pure _) stays_gapBehind)

/-- A character that a scalar without quotes may begin with, and the text behind it. -/
def BeginsPlain (flow : Bool) (c : Char) (rest : List Char) : Prop :=
  if isGap c || isOneOf indicators c then
    rest.head?.all isGap = false ∧ (c = '-' ∨ flow = false ∧ (c = '?' ∨ c = ':'))
  else True

/-- The characters that no word of a scalar without quotes begins with, whatever stands behind
them. -/
def wordEnds : List Char := ['#', ':', ',', '?', '[', ']', '\x7b', '\x7d']

theorem isOneOf_indicators {c : Char} (hc : c ∈ wordEnds) : isOneOf indicators c = true :=
  List.all_eq_true.mp (by decide : wordEnds.all (isOneOf indicators) = true) c hc

/-- **A scalar without quotes begins** with a word that is not empty. -/
theorem plainWord_ne_nil {flow : Bool} {c : Char} {rest : List Char} (h : BeginsPlain flow c rest) :
    plainWord flow (c :: rest) ≠ [] ∧ c ≠ '#' := by
  unfold BeginsPlain at h
  split at h
  · obtain ⟨hgap, rfl | ⟨rfl, rfl | rfl⟩⟩ := h
    · simp [plainWord, isGap, isBlank, isBreak, isOneOf]
    · simp [plainWord, isGap, isBlank, isBreak, isOneOf]
    · simp [plainWord, isGap, isBlank, isBreak, isOneOf]
      exact hgap
  · next hplain =>
    simp only [Bool.or_eq_true, not_or, Bool.not_eq_true] at hplain
    have hne (d : Char) (hd : d ∈ wordEnds) : c ≠ d := by
      rintro rfl
      rw [isOneOf_indicators hd] at hplain
      exact Bool.noConfusion hplain.2
    simp only [wordEnds, List.forall_mem_cons] at hne
    simp [plainWord, hplain.1, hne, isOneOf]

theorem ends_startsPlain (s : Scanner) (c : Char) :
    Ends s (startsPlain c) fun plain s' => s'.cursor = s.cursor ∧ s'.inFlow = s.inFlow
      ∧ (plain = true → BeginsPlain s.inFlow c s.cursor.rest.tail) := by
  unfold startsPlain
  split
  · next h =>
    refine (ends_read (Read.ends_endsWith s.cursor isGap 1)).bind fun alone s' _ hgap => ?_
    obtain ⟨⟨hcursor, halone⟩, hflow⟩ := hgap
    refine .get_bind (.pure _ ⟨hcursor, hflow, fun hplain => ?_⟩)
    rw [BeginsPlain, if_pos h]
    rw [hflow] at hplain
    simpa [halone, List.head?_tail] using hplain
  · next h =>
    refine .pure _ ⟨rfl, rfl, fun _ => ?_⟩
    rw [BeginsPlain, if_neg h]
    trivial

theorem stays_startsPlain (c : Char) : Stays (startsPlain c) := fun s =>
  (ends_startsPlain s c).mono fun _ _ _ h => ⟨h.1, h.2.1⟩

/-- What comes behind a scalar without quotes. -/
theorem onCourse_behindPlain (text : List Char) (broke : Bool) :
    OnCourse (do
      if broke then allowKey true
      emit (.scalar (Text.letters text) true)) :=
  .when (stays_allowKey _).onCourse (fun _ => (stays_emit _).onCourse) ()

theorem onCourse_plain : OnCourse plain :=
  stays_markPending.onCourse.bind fun _ => (stays_allowKey _).onCourse.bind fun _ =>
    .bind .get fun _ => .bind (onCourse_read (onCourse_plainScalar _ _)) fun _ =>
    onCourse_behindPlain _ _

theorem ends_plain {s : Scanner} (hbroken : s.cursor.fault.isSome)
    (hword : plainWord s.inFlow s.cursor.rest ≠ []) (hcomment : s.cursor.rest.head? ≠ some '#') :
    Ends s plain fun _ s' => s'.cursor.rest.length < s.cursor.rest.length := by
  refine (stays_markPending s).bind fun _ s₁ _ h₁ => ?_
  refine (stays_allowKey false s₁).bind fun _ s₂ _ h₂ => .get_bind ?_
  have hcursor : s₂.cursor = s.cursor := h₂.1.trans h₁.1
  have hflow : s₂.inFlow = s.inFlow := h₂.2.trans h₁.2
  rw [← hcursor, ← hflow] at hword
  rw [← hcursor] at hbroken hcomment ⊢
  refine (ends_read (ends_plainScalar _ hbroken hword hcomment)).bind
    fun (text, broke) s₃ _ h₃ => ?_
  refine (onCourse_behindPlain text broke s₃).mono fun _ s₄ hleads _ => ?_
  have hle : s₄.cursor.rest.length ≤ s₃.cursor.rest.length := hleads.suffix.length_le
  exact Nat.lt_of_le_of_lt hle h₃.1

/-! ### The next token -/

/-- The program is on course, and it passes the character if it stands next where the text is broken
off. -/
structure Passes (c : Char) (m : Scan Unit) : Prop where
  /-- It is on course. -/
  onCourse : OnCourse m
  /-- It passes the character. -/
  ends {s : Scanner} : s.cursor.fault.isSome → s.cursor.rest.head? = some c →
    Ends s m fun _ s' => s'.cursor.rest.length < s.cursor.rest.length

namespace Passes

variable {c : Char}

theorem of_advances {m : Scan Unit} (hm : Advances m) : Passes c m :=
  ⟨hm.onCourse, fun {s} hbroken hrest => hm.ends hbroken fun h => by
    have hnil : s.cursor.rest = [] := h
    simp [hnil] at hrest⟩

theorem ite {p : Prop} [Decidable p] {m m' : Scan Unit} (hm : Passes c m) (hm' : Passes c m') :
    Passes c (if p then m else m') := by
  split
  · exact hm
  · exact hm'

/-- What is looked at before makes no difference. -/
theorem behind {m : Scan α} {f : α → Scan Unit} (hm : Stays m) (hf : ∀ a, Passes c (f a)) :
    Passes c (m >>= f) := by
  refine ⟨.bind hm.onCourse fun a => (hf a).onCourse, fun {s} hbroken hrest => ?_⟩
  refine (hm s).bind fun a s' _ h => ?_
  rw [← h.1] at hbroken hrest ⊢
  exact (hf a).ends hbroken hrest

theorem plain : Passes c (do if ← startsPlain c then plain else fail (.strayCharacter c)) := by
  refine ⟨.bind (stays_startsPlain c).onCourse fun _ =>
    .ite onCourse_plain (stays_fail _).onCourse, fun {s} hbroken hrest => ?_⟩
  refine (ends_startsPlain s c).bind fun starts s' _ h => ?_
  obtain ⟨hcursor, hflow, hbegins⟩ := h
  rw [← hcursor] at hbroken hrest ⊢
  split
  · next hstarts =>
    obtain ⟨hword, hcomment⟩ := plainWord_ne_nil (hbegins hstarts)
    obtain ⟨rest, hcons⟩ := List.head?_eq_some_iff.mp hrest
    rw [← hcursor, ← hflow, hcons, List.tail_cons, ← hcons] at hword
    exact ends_plain hbroken hword (by simpa [hrest] using hcomment)
  · exact ends_fail s' _

end Passes

/-- **A token passes the character that tells it.** -/
theorem passes_token (c : Char) : Passes c (token c) := by
  refine .behind .get fun _ => .behind .get fun _ => .ite (.of_advances ?directive) <|
    .behind (stays_atMark _ _) fun _ => .ite (.of_advances (advances_documentMark _)) <|
    .behind (stays_atMark _ _) fun _ => .ite (.of_advances (advances_documentMark _)) <|
    .ite (.of_advances (advances_openFlow _)) <| .ite (.of_advances (advances_openFlow _)) <|
    .ite (.of_advances (advances_closeFlow _)) <| .ite (.of_advances (advances_closeFlow _)) <|
    .ite (.of_advances advances_comma) <|
    .behind ?dash fun _ => .ite (.of_advances advances_blockEntry) <|
    .behind (stays_atIndicator _ _) fun _ => .ite (.of_advances advances_explicitKey) <|
    .behind (stays_atIndicator _ _) fun _ => .ite (.of_advances advances_mappingValue) <|
    .ite (.of_advances (advances_keyLexeme (.map _ advances_anchorName))) <|
    .ite (.of_advances (advances_keyLexeme (.map _ advances_anchorName))) <|
    .ite (.of_advances (advances_keyLexeme advances_tagToken)) <|
    .ite (.of_advances (advances_block _)) <| .ite (.of_advances (advances_block _)) <|
    .ite (.of_advances (advances_keyLexeme (.map _ (advances_quotedScalar _)))) <|
    .ite (.of_advances (advances_keyLexeme (.map _ (advances_quotedScalar _)))) .plain
  case directive =>
    exact stays_atDocumentEnd.before fun _ => advances_emit advances_directive _
  case dash => exact stays_dash c

/-! ### Steps -/

theorem onCourse_skipGap (n : Nat) : OnCourse (skipGap n) := by
  induction n with
  | zero => exact .pure _
  | succ n ih =>
    refine .bind (onCourse_read (Read.onCourse_skipWhile _)) fun _ =>
      .bind (onCourse_read (Read.onCourse_nextIs _ _)) fun _ =>
      .when (onCourse_read (Read.onCourse_skipWhile _)) (fun _ => ?_) ()
    refine .bind (onCourse_read Read.onCourse_lineBreak) fun _ =>
      .ite (.bind .get fun _ => ?_) (.pure _)
    exact .whenNot (stays_allowKey _).onCourse (fun _ => ih) ()

/-- Where the text is broken off, it does not end, and something of it is passed. -/
def GoesOn (s : Scanner) (more : Bool) (s' : Scanner) : Prop :=
  s.cursor.fault.isSome → s.cursor.rest ≠ [] →
    more = true ∧ s'.cursor.rest.length < s.cursor.rest.length

theorem onCourse_toToken : OnCourse toToken := by
  have hgap : OnCourse (do
      skipGap (← read Read.turns)
      dropStale
      unwind (← get).cursor.column) :=
    .bind (onCourse_read Read.onCourse_turns) fun _ => .bind (onCourse_skipGap _) fun _ =>
      .bind onCourse_dropStale fun _ => .bind .get fun _ => (stays_unwind _).onCourse
  refine .bind .get fun _ =>
    .ite (.bind (onCourse_read (Read.onCourse_nextIs _ _)) fun _ => ?_) hgap
  exact .when (onCourse_read (Read.onCourse_skip _)) (fun _ => hgap) ()

theorem ends_tokenOrEnd (s : Scanner) : Ends s tokenOrEnd (GoesOn s) := by
  refine .get_bind ?_
  cases hrest : s.cursor.rest with
  | nil =>
    refine (stays_atDocumentEnd.onCourse s).bind fun _ _ _ _ => .pure _ fun _ h => ?_
    exact absurd hrest h
  | cons c rest =>
    by_cases hbroken : s.cursor.fault.isSome
    · refine ((passes_token c).ends hbroken (by simp [hrest])).bind fun _ _ _ hless => ?_
      exact .pure _ fun _ _ => ⟨rfl, hless⟩
    · refine ((passes_token c).onCourse s).bind fun _ _ _ _ => .pure _ fun h => ?_
      exact absurd h hbroken

/-- **A step** of the scanner goes on in the text. -/
theorem ends_step (s : Scanner) : Ends s step (GoesOn s) := by
  refine (onCourse_toToken s).bind fun _ s' hleads _ => ?_
  refine (ends_tokenOrEnd s').mono fun more s'' _ hgoes hbroken hrest => ?_
  have hmore := hgoes (hleads.fault_eq ▸ hbroken) (hleads.rest_ne_nil hbroken hrest)
  exact ⟨hmore.1, Nat.lt_of_lt_of_le hmore.2 hleads.suffix.length_le⟩

/-- Where nothing is left of a text that is broken off, the first step fails. -/
theorem ends_step_of_nil {s : Scanner} (hbroken : s.cursor.fault.isSome)
    (hrest : s.cursor.rest = []) (hindex : s.cursor.index = 0) : Ends s step fun _ _ => False := by
  have hto : Ends s toToken fun _ _ => False := by
    refine .get_bind ?_
    rw [if_pos hindex]
    exact (ends_read (Read.ends_nextIs_of_nil hbroken hrest _)).bind fun _ _ _ h => h.1.elim
  exact .bind hto fun _ _ _ h => h.elim

/-- A text that is broken off is never read to its end. -/
theorem steps_spec (n reached : Nat) (s : Scanner) :
    (∀ fault, (steps n reached s).2 = some fault → IsDue s.cursor.fault fault)
      ∧ (s.cursor.fault.isSome → s.cursor.rest ≠ [] → s.cursor.rest.length < n →
        (steps n reached s).2.isSome) := by
  induction n generalizing reached s with
  | zero => exact ⟨nofun, fun _ _ h => absurd h (Nat.not_lt_zero _)⟩
  | succ n ih =>
    have hstep := ends_step s
    rw [steps]
    cases hrun : step.run s with
    | error fault =>
      refine ⟨fun _ h => ?_, fun _ _ _ => rfl⟩
      obtain rfl := Option.some.inj h
      exact hstep.error hrun
    | ok result =>
      obtain ⟨more, s'⟩ := result
      obtain ⟨hleads, hgoes⟩ := hstep.ok hrun
      cases more with
      | false =>
        exact ⟨nofun, fun hbroken hrest _ => absurd (hgoes hbroken hrest).1 (by decide)⟩
      | true =>
        obtain ⟨hdue, hends⟩ := ih (max reached (settled s)) s'
        have hfault : s'.cursor.fault = s.cursor.fault := hleads.fault_eq
        refine ⟨fun fault h => hfault ▸ hdue fault h, fun hbroken hrest hlength => ?_⟩
        have hless := (hgoes hbroken hrest).2
        exact hends (hfault ▸ hbroken) (hleads.rest_ne_nil hbroken hrest) (by omega)

end Scan

/-- The tokens end with a fault of their own or with the one that the text is broken off with. -/
theorem fault_scan {source : Source} {fault : Fault} (h : (scan source).2 = some fault) :
    IsDue source.fault fault :=
  (Scan.steps_spec _ _ _).1 fault h

/-- **The tokens of a text that is broken off** end with a fault. -/
theorem isSome_fault_scan {source : Source} (h : source.fault.isSome) :
    (scan source).2.isSome := by
  by_cases htext : source.text = []
  · have hstep := Scan.ends_step_of_nil (s := { cursor := .start source }) h htext rfl
    rw [scan, Scan.steps]
    cases hrun : Scan.step.run { cursor := .start source } with
    | error fault => rfl
    | ok result => exact (hstep.ok hrun).2.elim
  · exact (Scan.steps_spec _ _ _).2 h htext (Nat.lt_succ_self _)

end Kumihan.Yaml
