import Kumihan.Text.File
import Kumihan.Proofs.Failing
import Kumihan.Proofs.Text.Utf8

/-!
# Texts in pieces

Whether bytes are those of a text can be told part by part: what a part leaves open is read again
together with the next one.  So a file that is read piece by piece ends with a fault exactly if it
is no text as a whole.

## Main definitions

* `IsText` — the bytes are those of a text.
* `PartRead` — how bytes are read as the first part of more.
* `TextFile.left` — the bytes that are still to be read.

## Main results

* `readChars_append` — how a part ends says what is left to be read before the next.
* `TextFile.pieces_eq_none_iff` — **a file is read to its end exactly if it is a text.**
-/

namespace Kumihan.Text

/-- The bytes are those of a text: they end with a character. -/
def IsText (bs : Bytes) : Prop := (readChars 0 bs).2 = .clean

instance (bs : Bytes) : Decidable (IsText bs) :=
  inferInstanceAs (Decidable ((readChars 0 bs).2 = .clean))

theorem isText_iff_decode {bs : Bytes} : IsText bs ↔ ∃ cs, decode bs = .ok cs := by
  unfold IsText decode
  cases hread : readChars 0 bs with
  | mk cs ending =>
    cases ending with
    | clean => exact ⟨fun _ => ⟨cs, rfl⟩, fun _ => rfl⟩
    | within start tail => exact ⟨nofun, fun ⟨_, h⟩ => by simp [Ending.atEnd] at h⟩
    | fault fault => exact ⟨nofun, fun ⟨_, h⟩ => by simp [Ending.atEnd] at h⟩

theorem isText_nil : IsText [] := by
  rw [IsText, readChars]

/-! ### The first character -/

/-- What stands behind the bytes of a character makes no difference to it. -/
theorem readTail_append {low high : UInt8} {code fit more : Nat} {bs : Bytes} (behind : Bytes) :
    (∀ {code' rest}, readTail low high code fit more bs = .char code' rest →
        rest.length + more = bs.length
          ∧ readTail low high code fit more (bs ++ behind) = .char code' (rest ++ behind))
      ∧ ∀ {fit'}, readTail low high code fit more bs = .broken fit' →
        readTail low high code fit more (bs ++ behind) = .broken fit' := by
  induction more generalizing low high code fit bs with
  | zero =>
    refine ⟨fun h => ?_, fun h => by simp [readTail] at h⟩
    obtain ⟨rfl, rfl⟩ := Tail.char.inj h
    exact ⟨rfl, rfl⟩
  | succ more ih =>
    cases bs with
    | nil => exact ⟨fun h => by simp [readTail] at h, fun h => by simp [readTail] at h⟩
    | cons b bs =>
      simp only [List.cons_append, readTail]
      split
      · refine ⟨fun h => ?_, ih.2⟩
        obtain ⟨hlength, hread⟩ := ih.1 h
        refine ⟨?_, hread⟩
        rw [List.length_cons]
        omega
      · exact ⟨fun h => by simp at h, fun h => h⟩

theorem readChars_of_none {pos : Nat} {b : UInt8} {more : Bytes} (hlead : lead? b = none) :
    readChars pos (b :: more) = ([], .fault ⟨pos, 1, b, .invalidStart⟩) := by
  rw [readChars]
  simp only [hlead]

theorem readChars_of_broken {pos fit : Nat} {b : UInt8} {more : Bytes} {l : Lead}
    (hlead : lead? b = some l) (htail : readTail l.low l.high l.bits 1 l.more more = .broken fit) :
    readChars pos (b :: more) = ([], .fault ⟨pos, fit, b, .invalidContinuation⟩) := by
  rw [readChars]
  simp only [hlead]
  split
  · next h => simp [htail] at h
  · next h =>
    rw [htail] at h
    rw [Tail.broken.inj h]
  · next h => simp [htail] at h

theorem readChars_of_short {pos : Nat} {b : UInt8} {more : Bytes} {l : Lead}
    (hlead : lead? b = some l) (htail : readTail l.low l.high l.bits 1 l.more more = .short) :
    readChars pos (b :: more) = ([], .within pos (b :: more)) := by
  rw [readChars]
  simp only [hlead]
  split
  · rfl
  · next h => simp [htail] at h
  · next h => simp [htail] at h

/-- **The first character** of bytes: there is none, whatever stands behind them; or it is not
there as a whole; or it is there, and the same whatever stands behind. -/
theorem readChars_first (b : UInt8) (more : Bytes) :
    (∃ fit reason, ∀ pos behind,
        readChars pos (b :: more ++ behind) = ([], .fault ⟨pos, fit, b, reason⟩))
      ∨ (∀ pos, readChars pos (b :: more) = ([], .within pos (b :: more)))
      ∨ ∃ c size rest, 0 < size ∧ rest.length + size = (b :: more).length
        ∧ ∀ pos behind, readChars pos (b :: more ++ behind)
          = (c :: (readChars (pos + size) (rest ++ behind)).1,
              (readChars (pos + size) (rest ++ behind)).2) := by
  cases hlead : lead? b with
  | none => exact .inl ⟨1, .invalidStart, fun _ _ => readChars_of_none hlead⟩
  | some l =>
    cases htail : readTail l.low l.high l.bits 1 l.more more with
    | short => exact .inr (.inl fun _ => readChars_of_short hlead htail)
    | broken fit =>
      exact .inl ⟨fit, .invalidContinuation, fun _ behind =>
        readChars_of_broken hlead ((readTail_append behind).2 htail)⟩
    | char code rest =>
      refine .inr (.inr ⟨Char.ofNat code, 1 + l.more, rest, by omega, ?_, fun pos behind => ?_⟩)
      · have hlength := ((readTail_append []).1 htail).1
        rw [List.length_cons]
        omega
      · rw [← Nat.add_assoc]
        exact readChars_of_readTail hlead ((readTail_append behind).1 htail).2

/-- Whether bytes are those of a text does not depend on where they stand. -/
theorem isText_iff (pos : Nat) (bs : Bytes) : (readChars pos bs).2 = .clean ↔ IsText bs := by
  unfold IsText
  generalize hq : 0 = pos'
  clear hq
  induction hn : bs.length using Nat.strongRecOn generalizing bs pos pos' with
  | ind n ih =>
    cases bs with
    | nil => simp [readChars]
    | cons b more =>
      rcases readChars_first b more with ⟨fit, reason, h⟩ | h | ⟨c, size, rest, hsize, hlength, h⟩
      · have h' := fun pos => h pos []
        rw [List.append_nil] at h'
        simp [h']
      · simp [h]
      · have h' := fun pos => h pos []
        rw [List.append_nil, List.append_nil] at h'
        rw [h', h']
        exact ih rest.length (by omega) _ _ _ rfl

/-- How bytes from position `pos` on are read as the first part of more: what they leave open is to
be read again with what stands behind them. -/
inductive PartRead (pos : Nat) (bs : Bytes) : List Char × Ending → Prop
  /-- They are characters. -/
  | clean {cs : List Char} (hcount : cs.length ≤ bs.length)
      (hmore : ∀ behind, IsText (bs ++ behind) ↔ IsText behind) : PartRead pos bs (cs, .clean)
  /-- They are characters, and the beginning of one. -/
  | within {cs : List Char} {start : Nat} {opened : Bytes}
      (hcount : cs.length + opened.length ≤ bs.length)
      (hmore : ∀ behind, IsText (bs ++ behind) ↔ IsText (opened ++ behind)) :
      PartRead pos bs (cs, .within start opened)
  /-- They are not those of a text, whatever stands behind them. -/
  | fault {cs : List Char} {fault : DecodeFault} (hcount : pos + cs.length ≤ fault.start)
      (hmore : ∀ behind, ¬ IsText (bs ++ behind)) : PartRead pos bs (cs, .fault fault)

/-- One more character before a part. -/
theorem PartRead.cons {pos size : Nat} {bs rest : Bytes} {c : Char} {cs : List Char}
    {ending : Ending} (h : PartRead (pos + size) rest (cs, ending)) (hsize : 0 < size)
    (hlength : rest.length + size = bs.length)
    (hbehind : ∀ behind, IsText (bs ++ behind) ↔ IsText (rest ++ behind)) :
    PartRead pos bs (c :: cs, ending) := by
  cases h with
  | clean hcount hmore =>
    refine .clean ?_ fun behind => (hbehind behind).trans (hmore behind)
    rw [List.length_cons]
    omega
  | within hcount hmore =>
    refine .within ?_ fun behind => (hbehind behind).trans (hmore behind)
    rw [List.length_cons]
    omega
  | fault hcount hmore =>
    refine .fault ?_ fun behind h => hmore behind ((hbehind behind).mp h)
    rw [List.length_cons]
    omega

/-- **Bytes in two parts.**  How the first part ends says what is left to be read before the
second. -/
theorem readChars_append (pos : Nat) (bs : Bytes) : PartRead pos bs (readChars pos bs) := by
  induction hn : bs.length using Nat.strongRecOn generalizing bs pos with
  | ind n ih =>
    cases bs with
    | nil =>
      rw [readChars]
      exact .clean (Nat.le_refl _) fun _ => Iff.rfl
    | cons b more =>
      rcases readChars_first b more with ⟨fit, reason, h⟩ | h | ⟨c, size, rest, hsize, hlength, h⟩
      · have hfault := h pos []
        rw [List.append_nil] at hfault
        rw [hfault]
        refine .fault (Nat.le_refl _) fun behind => ?_
        rw [IsText, h]
        simp
      · rw [h]
        exact .within (Nat.le_of_eq (Nat.zero_add _)) fun _ => Iff.rfl
      · have hchar := h pos []
        rw [List.append_nil, List.append_nil] at hchar
        rw [hchar]
        refine (ih rest.length (by omega) (pos + size) rest rfl).cons hsize hlength fun behind => ?_
        rw [← isText_iff 0 (b :: more ++ behind), h, isText_iff]

/-! ### Blocks -/

theorem length_unifyNewlines_le (s : List Char) : (unifyNewlines s).length ≤ s.length := by
  fun_induction unifyNewlines s with
  | case1 s ih =>
    simp only [List.length_cons]
    omega
  | case2 s hs ih =>
    simp only [List.length_cons]
    omega
  | case3 c s hc hs ih =>
    simp only [List.length_cons]
    omega
  | case4 => exact Nat.le_refl _

namespace TextFile

/-- The bytes that are still to be read. -/
def left (f : TextFile) : Bytes := f.opened ++ f.bytes

/-- No fewer than the characters that are still to be handed out. -/
def weight (f : TextFile) : Nat := f.ready.length + f.returned.toNat + f.left.length

/-- Line endings make no more characters, one that is held back counted with them. -/
theorem length_withNewlines_le (returned last : Bool) (cs : List Char) :
    (withNewlines returned last cs).1.length + (withNewlines returned last cs).2.toNat
      ≤ cs.length + returned.toNat := by
  unfold withNewlines
  extract_lets cs'
  have hlength : cs'.length ≤ cs.length + returned.toNat := by
    show (if returned && (last || !cs.isEmpty) then '\r' :: cs else cs).length ≤ _
    cases returned <;> cases last <;> cases cs <;> simp
  split
  · cases returned <;> cases last <;> simp
  split
  · next hne _ =>
    have hpos : 0 < cs'.length := List.length_pos_iff.mpr (by simpa using hne)
    have hunify := length_unifyNewlines_le cs'.dropLast
    rw [List.length_dropLast] at hunify
    simp only [Bool.toNat_true]
    omega
  · have hunify := length_unifyNewlines_le cs'
    simp only [Bool.toNat_false]
    omega

theorem length_of_opensHalf {bs : Bytes} (h : opensHalf bs) : bs.length = 2 := by
  unfold opensHalf at h
  split at h
  · rfl
  · simp at h

/-- The bytes that half of a surrogate pair begins with are not those of a text. -/
theorem not_isText_of_opensHalf {bs : Bytes} (h : opensHalf bs) (behind : Bytes) :
    ¬ IsText (bs ++ behind) := by
  unfold opensHalf at h
  split at h
  · next lead next =>
    simp only [Bool.and_eq_true, beq_iff_eq, decide_eq_true_eq] at h
    obtain ⟨⟨rfl, hlow⟩, -⟩ := h
    have hlead : lead? 0xED = some ⟨2, 0xD, 0x80, 0x9F⟩ := by decide
    have htail : readTail 0x80 0x9F 0xD 1 2 ([next] ++ behind) = .broken 1 := by
      simp only [List.cons_append, readTail]
      rw [if_neg]
      intro hfit
      have := hfit.2
      rw [UInt8.le_iff_toNat_le] at hlow this
      exact absurd (Nat.le_trans hlow this) (by decide)
    rw [IsText, List.cons_append, readChars_of_broken hlead htail]
    simp
  · simp at h

/-- A block has been read, the characters before it having been handed out. -/
structure BlockRead (f f' : TextFile) : Prop where
  /-- What is left is a text if it was one before. -/
  isText_iff : IsText f'.left ↔ IsText f.left
  /-- No more characters are to come. -/
  weight_le : f'.weight + f.ready.length ≤ f.weight
  /-- The characters of the block are those that are ready. -/
  blockChars_eq : f'.blockChars = f'.ready.length
  /-- The bytes of the block are no longer to come. -/
  bytes_add : f'.bytes.length + f'.blockBytes = f.bytes.length
  /-- A block without bytes is the end of a text. -/
  isText_of_last : f'.blockBytes = 0 → f.bytes = [] ∧ IsText f.left

theorem nextSize_pos (f : TextFile) (n : Nat) : 0 < f.nextSize n :=
  Nat.lt_of_lt_of_le (by decide : 0 < blockSize) (Nat.le_max_left _ _)

/-- The file behind a block that gives the characters `cs` and leaves the bytes `opened` open. -/
theorem blockRead_of {f : TextFile} {block rest : Bytes} (opened : Bytes) {cs : List Char}
    (hbytes : f.bytes = block ++ rest)
    (hcount : cs.length + opened.length ≤ (f.opened ++ block).length)
    (hmore : IsText (f.opened ++ block ++ rest) ↔ IsText (opened ++ rest))
    (hlast : block = [] → rest = [] ∧ IsText f.left) {last : Bool} :
    BlockRead f
      { bytes := rest, opened, returned := (withNewlines f.returned last cs).2
        ready := (withNewlines f.returned last cs).1, blockBytes := block.length
        blockChars := (withNewlines f.returned last cs).1.length } where
  isText_iff := by
    rw [left, left, hbytes, ← List.append_assoc]
    exact hmore.symm
  weight_le := by
    have := length_withNewlines_le f.returned last cs
    simp only [weight, left, hbytes, List.length_append] at hcount ⊢
    omega
  blockChars_eq := rfl
  bytes_add := by
    rw [hbytes, List.length_append, Nat.add_comm]
  isText_of_last h := by
    obtain rfl := List.length_eq_zero_iff.mp h
    exact ⟨hbytes.trans (hlast rfl).1, (hlast rfl).2⟩

/-- **A block** is read as what it adds to the bytes that are left open, or it shows that the file
is no text. -/
theorem readBlock_spec (f : TextFile) (n : Nat) :
    match f.readBlock n with
    | .ok f' => BlockRead f f'
    | .error _ => ¬ IsText f.left := by
  have hpos := f.nextSize_pos n
  obtain ⟨block, hblock⟩ : ∃ block, f.bytes.take (f.nextSize n) = block := ⟨_, rfl⟩
  obtain ⟨rest, hrest⟩ : ∃ rest, f.bytes.drop block.length = rest := ⟨_, rfl⟩
  have hbytes : f.bytes = block ++ rest := by
    rw [← hrest, ← hblock, List.length_take, ← List.drop_eq_drop_min]
    exact (List.take_append_drop _ _).symm
  have hlast (h : block = []) : rest = [] := by
    rw [h, List.take_eq_nil_iff] at hblock
    rw [← hrest, hblock.resolve_left (by omega), List.drop_nil]
  have hleft : f.left = f.opened ++ block ++ rest := by
    rw [List.append_assoc, ← hbytes, left]
  have hpart := readChars_append 0 (f.opened ++ block)
  unfold readBlock
  simp only [hblock, hrest]
  generalize hread : readChars 0 (f.opened ++ block) = result at hpart
  cases hpart with
  | clean hcount hmore =>
    refine blockRead_of [] hbytes hcount (hmore rest) fun h => ⟨hlast h, ?_⟩
    rw [hleft, hmore, hlast h]
    exact isText_nil
  | within hcount hmore =>
    cases hempty : block.isEmpty with
    | true =>
      obtain rfl := List.isEmpty_iff.mp hempty
      rw [hlast rfl, List.append_nil] at hleft
      simp only [Ending.atEnd, if_true]
      rw [hleft, IsText, hread]
      nofun
    | false =>
      simp only [Bool.false_eq_true, if_false]
      exact blockRead_of _ hbytes hcount (hmore rest) fun h => by simp [h] at hempty
  | fault hcount hmore =>
    dsimp only
    split
    · next f' hok =>
      split at hok
      · next h =>
        obtain rfl := Except.ok.inj hok
        simp only [Bool.and_eq_true, Bool.not_eq_true'] at h
        refine blockRead_of _ hbytes ?_ ?_ fun hnil => by simp [hnil] at h
        · have := length_of_opensHalf h.1
          rw [List.length_drop] at this ⊢
          omega
        · exact iff_of_false (hmore rest) (not_isText_of_opensHalf h.1 rest)
      · simp at hok
    · rw [hleft]
      exact hmore rest

/-! ### Pieces -/

/-- Characters that are ready are handed out. -/
theorem weight_handOut (f : TextFile) (n : Nat) :
    weight { f with ready := f.ready.drop n } + (f.ready.take n).length = f.weight := by
  simp only [weight, left, List.length_take, List.length_drop]
  omega

theorem take_eq_nil_iff {cs : List Char} {n : Nat} (hn : 0 < n) : cs.take n = [] ↔ cs = [] := by
  rw [List.take_eq_nil_iff]
  exact or_iff_right (by omega)

/-- **Some characters** are handed out and what is left is a text as before, or the file is shown to
be no text.  If none are handed out though some are wanted, there are no more, given enough
turns. -/
theorem readIn_spec (turns : Nat) (f : TextFile) {n : Nat} (hn : 0 < n) :
    match readIn turns f n with
    | .ok (cs, f') => (IsText f'.left ↔ IsText f.left) ∧ f'.weight + cs.length ≤ f.weight
        ∧ (cs = [] → f.ready = [] ∧ (f.bytes.length < turns → IsText f.left))
    | .error _ => ¬ IsText f.left := by
  induction turns generalizing f n with
  | zero =>
    refine ⟨Iff.rfl, Nat.le_of_eq (f.weight_handOut n), fun h => ⟨(take_eq_nil_iff hn).mp h, nofun⟩⟩
  | succ turns ih =>
    have hcount : (f.ready.take n).length ≤ f.ready.length := List.length_take_le' _ _
    have hready (h : f.ready.take n = []) : f.ready = [] := (take_eq_nil_iff hn).mp h
    have hblock := f.readBlock_spec (n - (f.ready.take n).length)
    simp only [readIn]
    by_cases hrest : n - (f.ready.take n).length = 0
    · simp only [hrest, if_true, pure_eq_ok]
      refine ⟨Iff.rfl, Nat.le_of_eq (f.weight_handOut n), fun h => ?_⟩
      rw [h, List.length_nil] at hrest
      omega
    simp only [hrest, if_false]
    cases hread : f.readBlock (n - (f.ready.take n).length) with
    | error fault =>
      rw [hread] at hblock
      exact hblock
    | ok f' =>
      rw [hread] at hblock
      have hweight := hblock.weight_le
      simp only [bind_ok]
      by_cases hend : f'.blockBytes = 0 ∧ f'.blockChars = 0
      · simp only [hend, decide_true, Bool.and_self, if_true, pure_eq_ok]
        refine ⟨hblock.isText_iff, by omega, fun h => ⟨hready h, fun _ => ?_⟩⟩
        exact (hblock.isText_of_last hend.1).2
      rw [if_neg (by simpa using hend)]
      have hmore := ih f' (n := n - (f.ready.take n).length) (by omega)
      cases hrun : readIn turns f' (n - (f.ready.take n).length) with
      | error fault =>
        rw [hrun] at hmore
        exact fun h => hmore (hblock.isText_iff.mpr h)
      | ok result =>
        obtain ⟨more, f''⟩ := result
        rw [hrun] at hmore
        obtain ⟨hleft, hweight', hends⟩ := hmore
        simp only [bind_ok, pure_eq_ok, List.length_append]
        refine ⟨hleft.trans hblock.isText_iff, by omega, fun h => ?_⟩
        obtain ⟨hnone, hnomore⟩ := List.append_eq_nil_iff.mp h
        obtain ⟨hempty, htext⟩ := hends hnomore
        refine ⟨hready hnone, fun hturns => hblock.isText_iff.mp (htext ?_)⟩
        -- a block that gives no character has bytes
        have hchars := hblock.blockChars_eq
        have hbytes := hblock.bytes_add
        rw [hempty, List.length_nil] at hchars
        omega

/-- At most so many pieces of at least one character each. -/
theorem piecesIn_eq_none_iff {n : Nat} (hn : 0 < n) {turns : Nat} {f : TextFile}
    (hturns : f.weight < turns) : (piecesIn n turns f).2 = none ↔ IsText f.left := by
  induction turns generalizing f with
  | zero => exact absurd hturns (Nat.not_lt_zero _)
  | succ turns ih =>
    have hread := readIn_spec (f.bytes.length + 2) f hn
    rw [piecesIn]
    split
    · next hrun =>
      rw [← read, hrun] at hread
      exact iff_of_false nofun hread
    · next hrun =>
      rw [← read, hrun] at hread
      exact iff_of_true rfl ((hread.2.2 rfl).2 (by omega))
    · next piece f' hpiece hrun =>
      rw [← read, hrun] at hread
      obtain ⟨hleft, hweight, -⟩ := hread
      have hpos : 0 < piece.length := List.length_pos_iff.mpr hpiece
      exact (ih (by omega)).trans hleft

/-- **A file is read to its end exactly if it is a text.** -/
theorem pieces_eq_none_iff {n : Nat} (hn : 0 < n) (bs : Bytes) :
    (pieces n bs).2 = none ↔ IsText bs := by
  refine piecesIn_eq_none_iff hn ?_
  simp only [weight, left, List.length_nil, Bool.toNat_false, List.nil_append]
  omega

end TextFile

end Kumihan.Text
