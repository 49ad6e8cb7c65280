import Kumihan.Text.Quoted

/-!
# UTF-8

A text file is read as UTF-8.  The first bytes that cannot be part of a text are a
fault, which names them and says what is wrong with them.

## Main definitions

* `decode bs` — the characters of a file, or its first fault.
* `encode s` — the bytes of a text.
-/

namespace Kumihan.Text

/-- Bytes of a file. -/
abbrev Bytes := List UInt8

/-- What is wrong with bytes. -/
inductive DecodeReason
  /-- No character begins with the byte. -/
  | invalidStart
  /-- The character is broken off by a byte that cannot belong to it. -/
  | invalidContinuation
  /-- The file ends within the character. -/
  | unexpectedEnd
  deriving DecidableEq, Repr

/-- Bytes that cannot be part of a text. -/
structure DecodeFault where
  /-- Where the first of them stands. -/
  start : Nat
  /-- How many there are. -/
  length : Nat
  /-- The first of them. -/
  byte : UInt8
  /-- What is wrong. -/
  reason : DecodeReason
  deriving DecidableEq, Repr

/-- What is said of the reason. -/
def DecodeReason.message : DecodeReason → String
  | invalidStart => "invalid start byte"
  | invalidContinuation => "invalid continuation byte"
  | unexpectedEnd => "unexpected end of data"

/-- What is said of the fault. -/
def DecodeFault.message (fault : DecodeFault) : String :=
  let place := if fault.length = 1
    then s!"byte 0x{String.ofList (hexDigits 2 fault.byte.toNat)} in position {fault.start}"
    else s!"bytes in position {fault.start}-{fault.start + fault.length - 1}"
  "'utf-8' codec can't decode " ++ place ++ ": " ++ fault.reason.message

/-! ### One character -/

/-- What the first byte of a character says about it. -/
structure Lead where
  /-- The number of bytes that follow. -/
  more : Nat
  /-- The bits of the character in the first byte. -/
  bits : Nat
  /-- The least value of the second byte. -/
  low : UInt8 := 0x80
  /-- The greatest value of the second byte. -/
  high : UInt8 := 0xBF
  deriving DecidableEq, Repr

/-- The characters that begin with a byte, if there are any.  The bounds of the second
byte leave out longer forms of shorter characters, the surrogates, and what
lies above the last character. -/
def lead? (b : UInt8) : Option Lead :=
  if b < 0x80 then some ⟨0, b.toNat, 0x80, 0xBF⟩
  else if b < 0xC2 then none
  else if b < 0xE0 then some ⟨1, b.toNat - 0xC0, 0x80, 0xBF⟩
  else if b = 0xE0 then some ⟨2, 0, 0xA0, 0xBF⟩
  else if b = 0xED then some ⟨2, 0xD, 0x80, 0x9F⟩
  else if b < 0xF0 then some ⟨2, b.toNat - 0xE0, 0x80, 0xBF⟩
  else if b = 0xF0 then some ⟨3, 0, 0x90, 0xBF⟩
  else if b = 0xF4 then some ⟨3, 4, 0x80, 0x8F⟩
  else if b < 0xF4 then some ⟨3, b.toNat - 0xF0, 0x80, 0xBF⟩
  else none

/-- What the bytes behind a first byte turn out to be. -/
inductive Tail
  /-- They complete a character; so many bytes are left behind it. -/
  | char (code : Nat) (rest : Bytes)
  /-- They are fit for a character, but the file ends. -/
  | short
  /-- After so many fit bytes one does not belong to the character. -/
  | broken (fit : Nat)
  deriving DecidableEq, Repr

/-- The `more` bytes that complete a character with the bits `code`. -/
def readTail (low high : UInt8) (code fit : Nat) : Nat → Bytes → Tail
  | 0, rest => .char code rest
  | _ + 1, [] => .short
  | more + 1, b :: rest =>
    if low ≤ b ∧ b ≤ high then
      readTail 0x80 0xBF (code * 64 + b.toNat % 64) (fit + 1) more rest
    else .broken fit

theorem length_le_of_readTail {low high : UInt8} {code fit more : Nat} {bs rest : Bytes}
    {code' : Nat} (h : readTail low high code fit more bs = .char code' rest) :
    rest.length ≤ bs.length := by
  induction more generalizing low high code fit bs with
  | zero =>
    obtain ⟨-, rfl⟩ : code = code' ∧ bs = rest := by simpa [readTail] using h
    exact Nat.le_refl _
  | succ more ih =>
    cases bs with
    | nil => simp [readTail] at h
    | cons b bs =>
      simp only [readTail] at h
      split at h
      · have := ih h
        simp only [List.length_cons]
        omega
      · simp at h

/-! ### Files -/

/-- How the reading of bytes ends. -/
inductive Ending
  /-- At the end of a character. -/
  | clean
  /-- Within a character: the bytes of it that are there, and their place. -/
  | within (start : Nat) (bs : Bytes)
  /-- At a fault. -/
  | fault (f : DecodeFault)
  deriving DecidableEq, Repr

/-- The characters of bytes, the first of them at position `pos`, and how they
end. -/
def readChars (pos : Nat) (bs : Bytes) : List Char × Ending :=
  match bs with
  | [] => ([], .clean)
  | b :: more =>
    match lead? b with
    | none => ([], .fault ⟨pos, 1, b, .invalidStart⟩)
    | some l =>
      match _h : readTail l.low l.high l.bits 1 l.more more with
      | .short => ([], .within pos (b :: more))
      | .broken fit => ([], .fault ⟨pos, fit, b, .invalidContinuation⟩)
      | .char code rest =>
        let (cs, ending) := readChars (pos + 1 + l.more) rest
        (Char.ofNat code :: cs, ending)
termination_by bs.length
decreasing_by
  have := length_le_of_readTail _h
  simp only [List.length_cons]
  omega

/-- The fault that the end of a file makes of an ending. -/
def Ending.atEnd : Ending → Option DecodeFault
  | clean => none
  | within start bs => some ⟨start, bs.length, bs.headD 0, .unexpectedEnd⟩
  | fault f => some f

/-- The text of a file. -/
def decode (bs : Bytes) : Except DecodeFault (List Char) :=
  let (cs, ending) := readChars 0 bs
  match ending.atEnd with
  | none => .ok cs
  | some fault => .error fault

/-- The bytes of a text. -/
def encode (s : List Char) : Bytes := s.flatMap String.utf8EncodeChar

/-- The text with every line ending written as a line feed: a carriage return alone and
one before a line feed are line endings. -/
def unifyNewlines : List Char → List Char
  | '\r' :: '\n' :: s => '\n' :: unifyNewlines s
  | '\r' :: s => '\n' :: unifyNewlines s
  | c :: s => c :: unifyNewlines s
  | [] => []

end Kumihan.Text
