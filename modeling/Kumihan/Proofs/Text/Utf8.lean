import Kumihan.Text.Utf8

/-!
# Texts written and read as UTF-8

## Main results

* `readChars_utf8EncodeChar` — the bytes of a character are read as that character.
* `cons_eq_of_readTail` — a character is read from its own bytes.
* `decode_encode`, `decode_eq_ok_iff` — **a text that is written as UTF-8 is read back as it was**,
  and from no other bytes.
-/

namespace Kumihan.Text

/-! ### First bytes -/

theorem toNat_ofNat_of_lt {n : Nat} (h : n < 256) : (UInt8.ofNat n).toNat = n := by
  rw [UInt8.toNat_ofNat']
  exact Nat.mod_eq_of_lt h

theorem ofNat_of_eq_toNat {n : Nat} {b : UInt8} (h : n = b.toNat) : UInt8.ofNat n = b := by
  rw [h, UInt8.ofNat_toNat]

/-- The characters that begin with a byte, in numbers. -/
theorem lead?_ofNat {n : Nat} (hn : n < 256) :
    lead? (UInt8.ofNat n)
      = if n < 0x80 then some ⟨0, n, 0x80, 0xBF⟩
        else if n < 0xC2 then none
        else if n < 0xE0 then some ⟨1, n - 0xC0, 0x80, 0xBF⟩
        else if n = 0xE0 then some ⟨2, 0, 0xA0, 0xBF⟩
        else if n = 0xED then some ⟨2, 0xD, 0x80, 0x9F⟩
        else if n < 0xF0 then some ⟨2, n - 0xE0, 0x80, 0xBF⟩
        else if n = 0xF0 then some ⟨3, 0, 0x90, 0xBF⟩
        else if n = 0xF4 then some ⟨3, 4, 0x80, 0x8F⟩
        else if n < 0xF4 then some ⟨3, n - 0xF0, 0x80, 0xBF⟩
        else none := by
  unfold lead?
  simp only [UInt8.lt_iff_toNat_lt, ← UInt8.toNat_inj, toNat_ofNat_of_lt hn]
  rfl

/-- A byte that continues a character stands within the bounds that most first bytes set. -/
theorem bounds_of_continuation (v : Nat) :
    (0x80 : UInt8).toNat ≤ v % 64 + 128 ∧ v % 64 + 128 ≤ (0xBF : UInt8).toNat := by
  refine ⟨?_, ?_⟩
  · show 128 ≤ _
    omega
  · show _ ≤ 191
    omega

/-- One byte makes a character. -/
theorem lead?_one {v : Nat} (h : v ≤ 0x7F) :
    lead? (UInt8.ofNat v) = some ⟨0, v, 0x80, 0xBF⟩ := by
  rw [lead?_ofNat (by omega), if_pos (by omega)]

/-- The first of two bytes. -/
theorem lead?_two {v : Nat} (hlow : 0x7F < v) (hhigh : v ≤ 0x7FF) :
    lead? (UInt8.ofNat (v / 64 % 32 + 192)) = some ⟨1, v / 64, 0x80, 0xBF⟩ := by
  rw [lead?_ofNat (by omega), if_neg (by omega), if_neg (by omega), if_pos (by omega)]
  simp only [Option.some.injEq, Lead.mk.injEq, and_self, and_true, true_and]
  omega

/-- The first of three bytes, and what it says of the second one. -/
theorem lead?_three {v : Nat} (hlow : 0x7FF < v) (hhigh : v ≤ 0xFFFF)
    (hvalid : v < 0xD800 ∨ 0xDFFF < v) :
    ∃ low high : UInt8,
      lead? (UInt8.ofNat (v / 4096 % 16 + 224)) = some ⟨2, v / 4096, low, high⟩
        ∧ low.toNat ≤ v / 64 % 64 + 128 ∧ v / 64 % 64 + 128 ≤ high.toNat := by
  rw [lead?_ofNat (by omega), if_neg (by omega), if_neg (by omega), if_neg (by omega)]
  by_cases hfirst : v / 4096 % 16 + 224 = 0xE0
  · -- shorter forms are left out
    refine ⟨0xA0, 0xBF, ?_, ?_, (bounds_of_continuation _).2⟩
    · rw [if_pos hfirst, show v / 4096 = 0 by omega]
    · show 160 ≤ _
      omega
  rw [if_neg hfirst]
  by_cases hhalf : v / 4096 % 16 + 224 = 0xED
  · -- the surrogates are left out
    refine ⟨0x80, 0x9F, ?_, (bounds_of_continuation _).1, ?_⟩
    · rw [if_pos hhalf, show v / 4096 = 0xD by omega]
    · show _ ≤ 159
      omega
  refine ⟨0x80, 0xBF, ?_, bounds_of_continuation _⟩
  rw [if_neg hhalf, if_pos (by omega), show v / 4096 % 16 + 224 - 0xE0 = v / 4096 by omega]

/-- The first of four bytes, and what it says of the second one. -/
theorem lead?_four {v : Nat} (hlow : 0xFFFF < v) (hvalid : v < 0x110000) :
    ∃ low high : UInt8,
      lead? (UInt8.ofNat (v / 262144 % 8 + 240)) = some ⟨3, v / 262144, low, high⟩
        ∧ low.toNat ≤ v / 4096 % 64 + 128 ∧ v / 4096 % 64 + 128 ≤ high.toNat := by
  rw [lead?_ofNat (by omega), if_neg (by omega), if_neg (by omega), if_neg (by omega),
    if_neg (by omega), if_neg (by omega), if_neg (by omega)]
  by_cases hfirst : v / 262144 % 8 + 240 = 0xF0
  · refine ⟨0x90, 0xBF, ?_, ?_, (bounds_of_continuation _).2⟩
    · rw [if_pos hfirst, show v / 262144 = 0 by omega]
    · show 144 ≤ _
      omega
  rw [if_neg hfirst]
  by_cases hlast : v / 262144 % 8 + 240 = 0xF4
  · -- what lies above the last character is left out
    refine ⟨0x80, 0x8F, ?_, (bounds_of_continuation _).1, ?_⟩
    · rw [if_pos hlast, show v / 262144 = 4 by omega]
    · show _ ≤ 143
      omega
  refine ⟨0x80, 0xBF, ?_, bounds_of_continuation _⟩
  rw [if_neg hlast, if_pos (by omega), show v / 262144 % 8 + 240 - 0xF0 = v / 262144 by omega]

/-- What the first byte of a character says about it, in numbers.  The second byte is bounded so
that shorter forms, the surrogates and what lies above the last character are left out. -/
theorem lead?_eq_some {b : UInt8} {l : Lead} (h : lead? b = some l) :
    (l.more = 0 ∧ l.bits = b.toNat ∧ b.toNat < 0x80)
      ∨ (0x80 ≤ l.low.toNat ∧ l.high.toNat ≤ 0xBF
        ∧ ((l.more = 1 ∧ l.bits + 0xC0 = b.toNat ∧ 2 ≤ l.bits ∧ l.bits < 32)
          ∨ (l.more = 2 ∧ l.bits + 0xE0 = b.toNat ∧ l.bits < 16
            ∧ (l.bits = 0 → 0xA0 ≤ l.low.toNat) ∧ (l.bits = 0xD → l.high.toNat ≤ 0x9F))
          ∨ (l.more = 3 ∧ l.bits + 0xF0 = b.toNat ∧ l.bits < 5
            ∧ (l.bits = 0 → 0x90 ≤ l.low.toNat) ∧ (l.bits = 4 → l.high.toNat ≤ 0x8F)))) := by
  obtain ⟨n, hn, rfl⟩ : ∃ n, n < 256 ∧ b = UInt8.ofNat n := ⟨b.toNat, b.toNat_lt, by simp⟩
  rw [lead?_ofNat hn] at h
  rw [toNat_ofNat_of_lt hn]
  split at h
  · obtain rfl := Option.some.inj h
    exact .inl ⟨rfl, rfl, by omega⟩
  refine .inr ?_
  repeat' split at h
  all_goals first
    | contradiction
    | obtain rfl := Option.some.inj h
      simp
      omega

/-! ### Characters -/

/-- The bytes of the character with a number. -/
theorem utf8EncodeChar_ofNat {v : Nat} (hvalid : v < 0xD800 ∨ 0xDFFF < v ∧ v < 0x110000) :
    String.utf8EncodeChar (Char.ofNat v)
      = if v ≤ 0x7F then [UInt8.ofNat v]
        else if v ≤ 0x7FF then [UInt8.ofNat (v / 64 % 32 + 192), UInt8.ofNat (v % 64 + 128)]
        else if v ≤ 0xFFFF then
          [UInt8.ofNat (v / 4096 % 16 + 224), UInt8.ofNat (v / 64 % 64 + 128),
            UInt8.ofNat (v % 64 + 128)]
        else
          [UInt8.ofNat (v / 262144 % 8 + 240), UInt8.ofNat (v / 4096 % 64 + 128),
            UInt8.ofNat (v / 64 % 64 + 128), UInt8.ofNat (v % 64 + 128)] := by
  have hv : (Char.ofNat v).val.toNat = v := by
    rw [Char.ofNat, dif_pos hvalid]
    rfl
  unfold String.utf8EncodeChar
  simp only [hv]

/-- One more byte of a character. -/
theorem readTail_ofNat {low high : UInt8} {v : Nat}
    (h : low.toNat ≤ v % 64 + 128 ∧ v % 64 + 128 ≤ high.toNat) (code fit more : Nat)
    (rest : Bytes) :
    readTail low high code fit (more + 1) (UInt8.ofNat (v % 64 + 128) :: rest)
      = readTail 0x80 0xBF (code * 64 + v % 64) (fit + 1) more rest := by
  have hbyte : (UInt8.ofNat (v % 64 + 128)).toNat = v % 64 + 128 :=
    toNat_ofNat_of_lt (by omega)
  rw [← hbyte, ← UInt8.le_iff_toNat_le, ← UInt8.le_iff_toNat_le] at h
  rw [readTail, if_pos h, hbyte, show (v % 64 + 128) % 64 = v % 64 by omega]

theorem readChars_of_readTail {pos : Nat} {b : UInt8} {more rest : Bytes} {l : Lead} {code : Nat}
    (hlead : lead? b = some l)
    (htail : readTail l.low l.high l.bits 1 l.more more = .char code rest) :
    readChars pos (b :: more)
      = (Char.ofNat code :: (readChars (pos + 1 + l.more) rest).1,
          (readChars (pos + 1 + l.more) rest).2) := by
  rw [readChars]
  simp only [hlead]
  split
  · next h => simp [htail] at h
  · next h => simp [htail] at h
  · next code' rest' h =>
    rw [htail, Tail.char.injEq] at h
    rw [h.1, h.2]

/-- **The bytes of a character are read as that character.** -/
theorem readChars_utf8EncodeChar (pos : Nat) (c : Char) (rest : Bytes) :
    ∃ pos', readChars pos (String.utf8EncodeChar c ++ rest)
      = (c :: (readChars pos' rest).1, (readChars pos' rest).2) := by
  obtain ⟨v, hv⟩ : ∃ v, v = c.val.toNat := ⟨_, rfl⟩
  have hchar : c = Char.ofNat v := by
    rw [hv]
    exact (Char.ofNat_toNat c).symm
  have hvalid : v < 0xD800 ∨ 0xDFFF < v ∧ v < 0x110000 := by
    rw [hv]
    exact c.valid
  rw [hchar, utf8EncodeChar_ofNat hvalid]
  -- a case for each number of bytes; the bits of the bytes make up the character again
  by_cases h₁ : v ≤ 0x7F
  · rw [if_pos h₁]
    exact ⟨_, readChars_of_readTail (lead?_one h₁) rfl⟩
  rw [if_neg h₁]
  by_cases h₂ : v ≤ 0x7FF
  · rw [if_pos h₂]
    simp only [List.cons_append, List.nil_append]
    refine ⟨_, readChars_of_readTail (lead?_two (by omega) h₂) ?_⟩
    rw [readTail_ofNat (bounds_of_continuation v), readTail, show v / 64 * 64 + v % 64 = v by omega]
  rw [if_neg h₂]
  by_cases h₃ : v ≤ 0xFFFF
  · rw [if_pos h₃]
    simp only [List.cons_append, List.nil_append]
    obtain ⟨low, high, hlead, hbounds⟩ := lead?_three (by omega) h₃ (by omega)
    refine ⟨_, readChars_of_readTail hlead ?_⟩
    rw [readTail_ofNat hbounds, readTail_ofNat (bounds_of_continuation v), readTail,
      show (v / 4096 * 64 + v / 64 % 64) * 64 + v % 64 = v by omega]
  · rw [if_neg h₃]
    simp only [List.cons_append, List.nil_append]
    obtain ⟨low, high, hlead, hbounds⟩ := lead?_four (v := v) (by omega) (by omega)
    refine ⟨_, readChars_of_readTail hlead ?_⟩
    rw [readTail_ofNat hbounds, readTail_ofNat (bounds_of_continuation (v / 64)),
      readTail_ofNat (bounds_of_continuation v), readTail,
      show ((v / 262144 * 64 + v / 4096 % 64) * 64 + v / 64 % 64) * 64 + v % 64 = v by omega]

/-- The next byte of a character that is read. -/
theorem readTail_succ_eq_char {low high : UInt8} {code fit more code' : Nat} {bs rest : Bytes}
    (h : readTail low high code fit (more + 1) bs = .char code' rest) :
    ∃ b bs', bs = b :: bs' ∧ low.toNat ≤ b.toNat ∧ b.toNat ≤ high.toNat
      ∧ readTail 0x80 0xBF (code * 64 + b.toNat % 64) (fit + 1) more bs' = .char code' rest := by
  cases bs with
  | nil => simp [readTail] at h
  | cons b bs' =>
    rw [readTail] at h
    split at h
    · next hbounds => exact ⟨b, bs', rfl, hbounds.1, hbounds.2, h⟩
    · contradiction

/-- **A character is read from its own bytes.** -/
theorem cons_eq_of_readTail {b : UInt8} {more rest : Bytes} {l : Lead} {code : Nat}
    (hlead : lead? b = some l)
    (htail : readTail l.low l.high l.bits 1 l.more more = .char code rest) :
    b :: more = String.utf8EncodeChar (Char.ofNat code) ++ rest := by
  rcases lead?_eq_some hlead with ⟨hmore, hbits, hlow⟩ | ⟨hlow, hhigh, htwo | hthree | hfour⟩
  · rw [hmore] at htail
    obtain ⟨rfl, rfl⟩ := Tail.char.inj htail
    rw [utf8EncodeChar_ofNat (by omega), if_pos (by omega), ofNat_of_eq_toNat hbits,
      List.singleton_append]
  · obtain ⟨hmore, hbits, hleast, hmost⟩ := htwo
    rw [hmore] at htail
    obtain ⟨b₁, bs₁, rfl, hlow₁, hhigh₁, h₁⟩ := readTail_succ_eq_char htail
    obtain ⟨rfl, rfl⟩ := Tail.char.inj h₁
    rw [utf8EncodeChar_ofNat (by omega), if_neg (by omega), if_pos (by omega)]
    rw [ofNat_of_eq_toNat (b := b) (by omega), ofNat_of_eq_toNat (b := b₁) (by omega)]
    rfl
  · obtain ⟨hmore, hbits, hmost, hlong, hhalf⟩ := hthree
    rw [hmore] at htail
    obtain ⟨b₁, bs₁, rfl, hlow₁, hhigh₁, h₁⟩ := readTail_succ_eq_char htail
    obtain ⟨b₂, bs₂, rfl, hlow₂, hhigh₂, h₂⟩ := readTail_succ_eq_char h₁
    obtain ⟨rfl, rfl⟩ := Tail.char.inj h₂
    simp only [UInt8.reduceToNat] at hlow₂ hhigh₂
    rw [utf8EncodeChar_ofNat (by omega), if_neg (by omega), if_neg (by omega), if_pos (by omega)]
    rw [ofNat_of_eq_toNat (b := b) (by omega), ofNat_of_eq_toNat (b := b₁) (by omega),
      ofNat_of_eq_toNat (b := b₂) (by omega)]
    rfl
  · obtain ⟨hmore, hbits, hmost, hlong, hlast⟩ := hfour
    rw [hmore] at htail
    obtain ⟨b₁, bs₁, rfl, hlow₁, hhigh₁, h₁⟩ := readTail_succ_eq_char htail
    obtain ⟨b₂, bs₂, rfl, hlow₂, hhigh₂, h₂⟩ := readTail_succ_eq_char h₁
    obtain ⟨b₃, bs₃, rfl, hlow₃, hhigh₃, h₃⟩ := readTail_succ_eq_char h₂
    obtain ⟨rfl, rfl⟩ := Tail.char.inj h₃
    simp only [UInt8.reduceToNat] at hlow₂ hhigh₂ hlow₃ hhigh₃
    rw [utf8EncodeChar_ofNat (by omega), if_neg (by omega), if_neg (by omega), if_neg (by omega)]
    rw [ofNat_of_eq_toNat (b := b) (by omega), ofNat_of_eq_toNat (b := b₁) (by omega),
      ofNat_of_eq_toNat (b := b₂) (by omega), ofNat_of_eq_toNat (b := b₃) (by omega)]
    rfl

/-- Only one character has a byte that is zero. -/
theorem zero_mem_utf8EncodeChar_iff {c : Char} : 0 ∈ String.utf8EncodeChar c ↔ '\x00' = c := by
  have hzero {n : Nat} (hn : n < 256) : (0 : UInt8) = UInt8.ofNat n ↔ n = 0 := by
    rw [← UInt8.toNat_inj, toNat_ofNat_of_lt hn]
    exact eq_comm
  have hc : '\x00' = c ↔ c.val.toNat = 0 := by
    rw [eq_comm, ← Char.toNat_inj]
    rfl
  rw [hc]
  unfold String.utf8EncodeChar
  generalize c.val.toNat = v
  dsimp only
  split
  · rw [List.mem_singleton, hzero (by omega)]
  -- every byte of a longer form has its highest bit set
  repeat' split
  all_goals
    simp (disch := omega) only [List.mem_cons, List.not_mem_nil, or_false, hzero]
    omega

/-! ### Texts -/

theorem readChars_encode (pos : Nat) (s : List Char) : readChars pos (encode s) = (s, .clean) := by
  induction s generalizing pos with
  | nil =>
    rw [encode, List.flatMap_nil, readChars]
  | cons c s ih =>
    obtain ⟨pos', h⟩ := readChars_utf8EncodeChar pos c (encode s)
    rw [ih] at h
    rwa [encode, List.flatMap_cons]

/-- **A text that is written as UTF-8 is read back as it was.** -/
theorem decode_encode (s : List Char) : decode (encode s) = .ok s := by
  rw [decode, readChars_encode]
  rfl

/-- What is read up to the end are the characters whose bytes are there. -/
theorem encode_of_readChars {pos : Nat} {bs : Bytes} {cs : List Char}
    (h : readChars pos bs = (cs, .clean)) : encode cs = bs := by
  fun_induction readChars pos bs generalizing cs with
  | case1 =>
    obtain rfl := (Prod.mk.inj h).1
    rfl
  | case5 pos b more l hlead code rest htail cs' ending hread ih =>
    obtain ⟨rfl, rfl⟩ := Prod.mk.inj h
    rw [encode, List.flatMap_cons, cons_eq_of_readTail hlead htail]
    exact congrArg _ (ih hread)
  | _ => simp at h

/-- **A text is read from its own bytes**, and from no others. -/
theorem decode_eq_ok_iff {bs : Bytes} {cs : List Char} : decode bs = .ok cs ↔ encode cs = bs := by
  constructor
  · intro h
    unfold decode at h
    cases hread : readChars 0 bs with
    | mk cs' ending =>
      rw [hread] at h
      cases ending with
      | clean =>
        obtain rfl := Except.ok.inj h
        exact encode_of_readChars hread
      | within start tail => cases h
      | fault fault => cases h
  · rintro rfl
    exact decode_encode cs

end Kumihan.Text
