import Kumihan.Text.Utf8

/-!
# Letters

An escape can name half of a surrogate pair, which is no character and cannot be written
to a file.  A text that may hold such halves is a list of letters.

## Main definitions

* `Letter` — a character or a half of a pair.
* `whole? s` — the characters of a text without halves.
* `spelled s` — a text with its halves spelled out.
* `quotedLetters s` — a text between quotes.
* `encodeLetters s` — the bytes of a text, or the fault that its first halves are.
* `pathBytes s`, `pathFault? s` — the bytes of a path, for which some halves stand, and the fault
  that its other halves are.
-/

namespace Kumihan.Text

/-- A letter of a text. -/
inductive Letter
  /-- A character. -/
  | char (c : Char)
  /-- Half of a surrogate pair, by its number. -/
  | half (code : Nat)
  deriving DecidableEq, Repr, Inhabited

namespace Letter

/-- The number of a letter. -/
def code : Letter → Nat
  | char c => c.toNat
  | half code => code

/-- The character that a letter is. -/
def char? : Letter → Option Char
  | char c => some c
  | half _ => none

/-- The character by which a letter is shown. -/
def shown : Letter → Char
  | char c => c
  | half _ => '\uFFFD'

/-- A letter that is written with characters: a half is spelled out by its number. -/
def spelled : Letter → List Char
  | char c => [c]
  | half code => '\\' :: 'u' :: hexDigits 4 code

/-- The letter with a number: a half where there is no character. -/
def ofCode (code : Nat) : Letter :=
  if Nat.isValidChar code then char (Char.ofNat code) else half code

/-- The byte that a letter stands for in a path.  The names of files are bytes, and one that is no
text is given with a half for each byte that is not part of a character. -/
def byte? : Letter → Option UInt8
  | char _ => none
  | half code => if 0xDC80 ≤ code ∧ code ≤ 0xDCFF then some (UInt8.ofNat (code - 0xDC00)) else none

/-- The bytes of a letter in a path. -/
def pathBytes : Letter → Bytes
  | char c => String.utf8EncodeChar c
  | half code => (half code).byte?.toList

end Letter

/-- The letters of a text. -/
def letters (s : List Char) : List Letter := s.map .char

/-- The characters of a text without halves. -/
def whole? (s : List Letter) : Option (List Char) := s.mapM Letter.char?

@[simp] theorem whole?_letters (s : List Char) : whole? (letters s) = some s := by
  induction s with
  | nil => rfl
  | cons c s ih =>
    have ih : List.mapM Letter.char? (s.map .char) = some s := ih
    simp [whole?, letters, Letter.char?, ih]

/-- A text as it is shown. -/
def shown (s : List Letter) : List Char := s.map Letter.shown

/-- A text with its halves spelled out. -/
def spelled (s : List Letter) : String := String.ofList (s.flatMap Letter.spelled)

@[simp] theorem spelled_letters (s : List Char) : spelled (letters s) = String.ofList s := by
  simp [spelled, letters, List.flatMap_map, Letter.spelled]

/-- A letter between quotes `q`. -/
def quoteLetter (q : Char) : Letter → List Char
  | .char c => quoteChar q c
  | .half code => '\\' :: 'u' :: hexDigits 4 code

/-- A text between quotes. -/
def quotedLetters (s : List Letter) : List Char :=
  let q := chooseQuote (shown s)
  q :: s.flatMap (quoteLetter q) ++ [q]

/-- A text without halves is quoted letter by letter. -/
theorem quotedLetters_letters (s : List Char) : quotedLetters (letters s) = quotedChars s := by
  have hs : shown (letters s) = s := by
    simp [shown, letters, Function.comp_def, Letter.shown]
  simp only [quotedLetters, quotedChars, hs]
  simp [letters, List.flatMap_map, quoteLetter]

/-! ### Bytes -/

/-- Halves of pairs in a text that is to be written. -/
structure EncodeFault where
  /-- Where the first of them stands. -/
  start : Nat
  /-- How many stand in a row. -/
  length : Nat
  /-- The number of the first one. -/
  code : Nat
  deriving DecidableEq, Repr

/-- What is said of the fault. -/
def EncodeFault.message (fault : EncodeFault) : String :=
  let place := if fault.length = 1
    then "character '\\u" ++ String.ofList (hexDigits 4 fault.code)
      ++ s!"' in position {fault.start}"
    else s!"characters in position {fault.start}-{fault.start + fault.length - 1}"
  "'utf-8' codec can't encode " ++ place ++ ": surrogates not allowed"

/-- The first letters of a text that are not fit to be written, up to the next character. -/
def firstFault? (fit : Letter → Bool) (s : List Letter) : Option EncodeFault :=
  let before := s.takeWhile fit
  match (s.drop before.length).takeWhile (·.char?.isNone) with
  | [] => none
  | half :: more => some ⟨before.length, more.length + 1, half.code⟩

/-- A text is fit to be written if all its letters are. -/
theorem firstFault?_eq_none_iff {fit : Letter → Bool} (hfit : ∀ l, fit l = false → l.char? = none)
    {s : List Letter} : firstFault? fit s = none ↔ ∀ l ∈ s, fit l = true := by
  have hnone (s : List Letter) : firstFault? fit s = none
      ↔ (s.drop (s.takeWhile fit).length).takeWhile (·.char?.isNone) = [] := by
    unfold firstFault?
    dsimp only
    split
    · next hnil => simp [hnil]
    · next hcons => simp [hcons]
  rw [hnone]
  clear hnone
  induction s with
  | nil => simp
  | cons l s ih =>
    rw [List.forall_mem_cons]
    cases hl : fit l with
    | true =>
      rw [List.takeWhile_cons_of_pos hl, List.length_cons, List.drop_succ_cons, and_iff_right rfl]
      exact ih
    | false =>
      rw [List.takeWhile_cons_of_neg (by simp [hl]), List.length_nil, List.drop_zero,
        List.takeWhile_cons_of_pos (by simp [hfit l hl])]
      simp

/-- The first halves of a text. -/
def encodeFault? (s : List Letter) : Option EncodeFault := firstFault? (·.char?.isSome) s

/-- A text without halves can be written. -/
@[simp] theorem encodeFault?_letters (s : List Char) : encodeFault? (letters s) = none := by
  refine (firstFault?_eq_none_iff fun l hl => by simpa using hl).mpr fun l hl => ?_
  obtain ⟨c, -, rfl⟩ := List.mem_map.mp hl
  rfl

/-- The bytes of a text. -/
def encodeLetters (s : List Letter) : Except EncodeFault Bytes :=
  match encodeFault? s with
  | some fault => .error fault
  | none => .ok (encode (shown s))

/-- The first halves of a path that stand for no byte, and those behind them. -/
def pathFault? (s : List Letter) : Option EncodeFault :=
  firstFault? (fun l => l.char?.isSome || l.byte?.isSome) s

/-- The bytes of a path without such halves. -/
def pathBytes (s : List Letter) : Bytes := s.flatMap Letter.pathBytes

end Kumihan.Text
