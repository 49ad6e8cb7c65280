import Kumihan.Text.Digit
import Kumihan.Text.LowerCase
import Kumihan.Text.Occurrence
import Kumihan.Yaml.Cursor

/-!
# The values of scalars

How a text is read as a number, as bytes, or as a day with or without a time.  A
number may hold underscores, and one that is written in parts between colons counts by
sixties.

## Main definitions

* `truthValue`, `integer`, `float`, `binary?`.
* `Timestamp.read?`, `Timestamp.value`, `Timestamp.ofText`.
-/

namespace Kumihan.Yaml

open Data (Value Date TimeOfDay)
open Text (Letter cutAt? digitValue? letters lowerCase splitOn)

/-- What reads a scalar. -/
abbrev Scalar := Except ScalarFault

/-! ### True and false -/

/-- The words for true. -/
def trueWords : List String := ["yes", "true", "on"]

/-- The words for false. -/
def falseWords : List String := ["no", "false", "off"]

/-- The letters are those of the word. -/
def spells (text : List Letter) (word : String) : Bool := text == letters word.toList

/-- The text as true or false, in whatever case it is written. -/
def truthValue (text : List Letter) : Scalar Bool :=
  let word := lowerCase text
  if trueWords.any (spells word) then .ok true
  else if falseWords.any (spells word) then .ok false
  else .error (.noTruthValue word)

/-! ### Numbers -/

/-- The text without its underscores. -/
def withoutUnderscores (text : List Letter) : List Letter := text.filter (· != .char '_')

/-- A sign and what stands behind it. -/
def signed {α : Type} [BEq α] (minus plus : α) (text : List α) : Bool × List α :=
  match text with
  | [] => (false, [])
  | c :: rest =>
    if c == minus then (true, rest) else if c == plus then (false, rest) else (false, text)

/-- The sign of a number and what stands behind it. -/
def signedChars : List Char → Bool × List Char := signed '-' '+'

/-- The sign before the letters of a number and what stands behind it. -/
def signedLetters : List Letter → Bool × List Letter := signed (.char '-') (.char '+')

/-- The spaces beyond ASCII. -/
def wideSpaces : List Nat :=
  [ 0x85, 0xA0, 0x1680, 0x2000, 0x2001, 0x2002, 0x2003, 0x2004, 0x2005, 0x2006, 0x2007, 0x2008,
    0x2009, 0x200A, 0x2028, 0x2029, 0x202F, 0x205F, 0x3000 ]

/-- A number in ASCII: digits of any script are written as those of ASCII, and spaces as
blanks.  Any other letter ends the number with a question mark, which makes it none. -/
def inAscii : List Letter → List Char
  | [] => []
  | l :: rest =>
    if l.code < 127 then l.shown :: inAscii rest
    else if wideSpaces.elem l.code then ' ' :: inAscii rest
    else match l.char?.bind digitValue? with
      | some d => Char.ofNat (48 + d) :: inAscii rest
      | none => ['?']

/-- The text without blanks around it. -/
def trimmed (text : List Char) : List Char :=
  let space (c : Char) : Bool := c == ' ' || ('\t' ≤ c && c ≤ '\r')
  (((text.dropWhile space).reverse).dropWhile space).reverse

/-- The character is a digit of a base. -/
def isDigitOf (base : Nat) (c : Char) : Bool := (hexDigit? c).any (· < base)

/-- The number that digits give in a base, if they are digits of it. -/
def natOf? (base : Nat) : List Char → Option Nat
  | [] => none
  | cs => cs.foldl
      (fun n c => do
        let n ← n
        let d ← hexDigit? c
        if d < base then some (base * n + d) else none)
      (some 0)

/-- What may stand before the digits of a number in a base. -/
def baseMark : Nat → List Char
  | 2 => ['0', 'b']
  | 8 => ['0', 'o']
  | 16 => ['0', 'x']
  | _ => []

/-- A whole number in a base.  The number of its digits is limited unless the base is a power of
two. -/
def wholeNumber (base : Nat) (text : List Letter) : Scalar Int :=
  let (negative, digits) := signedChars (trimmed (inAscii text))
  let mark := baseMark base
  let digits :=
    if mark ≠ [] ∧ (digits.take 2).map Char.toLower = mark then digits.drop 2 else digits
  let count := (digits.takeWhile (isDigitOf base)).length
  if mark = [] ∧ count > Data.digitLimit then .error (.tooManyDigits count)
  else match natOf? base digits with
    | some n => .ok (if negative then -(n : Int) else n)
    | none => .error (.noInteger base text)

/-- Numbers in places that count by sixties, the last one counting ones. -/
def bySixties (parts : List Int) : Int := parts.foldl (60 * · + ·) 0

/-- The whole number that a text gives. -/
def integer (text : List Letter) : Scalar Int := do
  let text := withoutUnderscores text
  if text.isEmpty then throw .noDigits
  let (negative, text) := signedLetters text
  let size ← match text with
    | [] => throw .noDigits
    | [.char '0'] => pure 0
    | .char '0' :: .char 'b' :: digits => wholeNumber 2 digits
    | .char '0' :: .char 'x' :: digits => wholeNumber 16 digits
    | .char '0' :: _ => wholeNumber 8 text
    | _ =>
      if text.elem (.char ':') then
        bySixties <$> (splitOn (.char ':') text).mapM (wholeNumber 10)
      else wholeNumber 10 text
  return if negative then -size else size

/-- The digits of a decimal fraction, as a whole number and the power of ten it is
multiplied with. -/
def fraction? (text : List Char) : Option (Nat × Int) :=
  let (whole, part) := (cutAt? '.' text).getD (text, [])
  (natOf? 10 (whole ++ part)).map fun n => (n, -(part.length : Int))

/-- A floating-point number in decimal notation. -/
def decimal? (text : List Char) : Option Float := do
  let (mantissa, exponent) := (cutAt? 'e' text).getD (text, ['0'])
  let (n, e) ← fraction? mantissa
  let (negative, digits) := signedChars exponent
  let e' ← natOf? 10 digits
  some (Value.decimalFloat n (if negative then e - e' else e + e'))

/-- A floating-point number without its sign. -/
def size? (text : List Char) : Option Float :=
  let word := String.ofList text
  if word = "inf" ∨ word = "infinity" then some (1.0 / 0.0)
  else if word = "nan" then some (0.0 / 0.0)
  else decimal? text

/-- A floating-point number. -/
def floatNumber (text : List Letter) : Scalar Float :=
  let (negative, size) := signedChars (trimmed (inAscii text))
  match size? size with
  | some x => .ok (if negative then -x else x)
  | none => .error (.noFloat text)

/-- The worth of a place that counts by sixties, the first one counting ones. -/
def placeWorth (place : Nat) : Scalar Float :=
  let worth := Value.decimalFloat (Nat.pow 60 place) 0
  if worth.isInf then .error .hugePlace else .ok worth

/-- Floating-point numbers in places that count by sixties, the first one counting ones. -/
def floatBySixties (parts : List Float) : Scalar Float :=
  parts.zipIdx.foldlM
    (fun total (x, place) => do return total + x * (← placeWorth place))
    (0 : Float)

/-- The letters of a floating-point number, with its sign apart. -/
def floatLetters (text : List Letter) : Bool × List Letter :=
  signedLetters (lowerCase (withoutUnderscores text))

/-- The text is the word for what is no number.  All nodes with this word have one and the same
value. -/
def isNanWord (text : List Letter) : Bool := spells (floatLetters text).2 ".nan"

/-- The floating-point number that a text gives. -/
def float (text : List Letter) : Scalar Float := do
  if (withoutUnderscores text).isEmpty then throw .noDigits
  let (negative, word) := floatLetters text
  if isNanWord text then return 0.0 / 0.0
  let size ←
    if spells word ".inf" then pure (1.0 / 0.0)
    else if word.elem (.char ':') then
      floatBySixties (← (splitOn (.char ':') word).mapM floatNumber).reverse
    else floatNumber word
  return if negative then -size else size

/-! ### Bytes -/

/-- The value of a letter that stands for six bits. -/
def sixBits? (c : Char) : Option Nat :=
  if c.isUpper then some (c.toNat - 65)
  else if c.isLower then some (c.toNat - 71)
  else if c.isDigit then some (c.toNat + 4)
  else if c = '+' then some 62
  else if c = '/' then some 63
  else none

/-- Bytes of six bits each, four letters to a group.  `left` are the bits that no byte has taken,
`place` the number of letters of the group, and `pads` the number of padding signs in a row. -/
def sixBitBytes (left place pads : Nat) : List Char → Option Text.Bytes
  | [] => if place = 0 then some [] else none
  | c :: rest =>
    if c = '=' then
      if place ≥ 2 ∧ place + pads + 1 ≥ 4 then some []
      else sixBitBytes left place (if place ≥ 2 then pads + 1 else pads) rest
    else match sixBits? c with
      | none => sixBitBytes left place pads rest
      | some bits =>
        match place with
        | 0 => sixBitBytes bits 1 0 rest
        | 1 => (UInt8.ofNat (left * 4 + bits / 16) :: ·) <$> sixBitBytes (bits % 16) 2 0 rest
        | 2 => (UInt8.ofNat (left * 16 + bits / 4) :: ·) <$> sixBitBytes (bits % 4) 3 0 rest
        | _ => (UInt8.ofNat (left * 64 + bits) :: ·) <$> sixBitBytes 0 0 0 rest

/-- The bytes that a text gives. -/
def binary? (text : List Letter) : Option Text.Bytes :=
  if text.all (·.code < 128) then sixBitBytes 0 0 0 (Text.shown text) else none

/-! ### Days and times -/

/-- The text without a line feed at its end. -/
def withoutFinalBreak (text : List Char) : List Char :=
  if text.getLast? = some '\n' then text.dropLast else text

/-- A day and a time as they are written: nothing is known of their ranges. -/
structure Timestamp where
  /-- The year. -/
  year : List Char
  /-- The month. -/
  month : List Char
  /-- The day. -/
  day : List Char
  /-- The hour, the minute, the second and its fraction. -/
  time : Option (List Char × List Char × List Char × List Char) := none
  /-- The distance from universal time: whether it is to the west, hours, minutes. -/
  zone : Option (Bool × List Char × List Char) := none
  deriving DecidableEq, Repr

namespace Timestamp

/-- Between `least` and `most` digits, as many as there are. -/
def digits (least most : Nat) (text : List Char) : Option (List Char × List Char) :=
  let ds := (text.take most).takeWhile Char.isDigit
  if ds.length < least then none else some (ds, text.drop ds.length)

/-- The text behind a character. -/
def behind (c : Char) : List Char → Option (List Char)
  | [] => none
  | d :: rest => if d = c then some rest else none

/-- The distance from universal time at the end of a timestamp. -/
def readZone : List Char → Option (Option (Bool × List Char × List Char))
  | [] => some none
  | text => do
    match text.dropWhile isBlank with
    | [] => none
    | ['Z'] => some (some (false, [], []))
    | sign :: rest =>
      if sign ≠ '-' ∧ sign ≠ '+' then none
      let (hours, rest) ← digits 1 2 rest
      if rest.isEmpty then some (some (sign = '-', hours, []))
      else
        let (minutes, rest) ← digits 2 2 (← behind ':' rest)
        if rest.isEmpty then some (some (sign = '-', hours, minutes)) else none

/-- The fraction of a second and what stands behind it. -/
def readFraction (text : List Char) : List Char × List Char :=
  match behind '.' text with
  | some rest => (rest.takeWhile Char.isDigit, rest.dropWhile Char.isDigit)
  | none => ([], text)

/-- The text behind what stands between the day and the time. -/
def behindDay : List Char → Option (List Char)
  | [] => none
  | c :: rest =>
    if c = 'T' ∨ c = 't' then some rest
    else if isBlank c then some (rest.dropWhile isBlank)
    else none

/-- A day, with or without a time. -/
def read? (text : List Char) : Option Timestamp := do
  let (year, rest) ← digits 4 4 text
  let (month, rest) ← digits 1 2 (← behind '-' rest)
  let (day, rest) ← digits 1 2 (← behind '-' rest)
  if rest.isEmpty then some { year, month, day }
  else
    let (hour, rest) ← digits 1 2 (← behindDay rest)
    let (minute, rest) ← digits 2 2 (← behind ':' rest)
    let (second, rest) ← digits 2 2 (← behind ':' rest)
    let (fraction, rest) := readFraction rest
    let zone ← readZone rest
    some { year, month, day, time := some (hour, minute, second, fraction), zone }

/-- A day without a time has two digits for the month and for the day where its tag is
not given. -/
def isFull (t : Timestamp) : Bool :=
  t.time.isSome || (t.month.length == 2 && t.day.length == 2)

/-- The number that digits give, zero for none. -/
def nat (ds : List Char) : Nat := (natOf? 10 ds).getD 0

/-- The number of days of a month. -/
def daysOf (year month : Nat) : Nat :=
  if month = 2 then
    if year % 4 = 0 ∧ (year % 100 ≠ 0 ∨ year % 400 = 0) then 29 else 28
  else if [4, 6, 9, 11].elem month then 30
  else 31

/-- The day that three numbers give. -/
def date (year month day : Nat) : Scalar Date := do
  if year = 0 then throw (.yearRange year)
  if month = 0 ∨ month > 12 then throw .monthRange
  if day = 0 ∨ day > daysOf year month then throw .dayRange
  return { year, month, day }

/-- The distance from universal time in minutes. -/
def offset (west : Bool) (hours minutes : List Char) : Scalar Int := do
  let size : Int := 60 * nat hours + nat minutes
  let size := if west then -size else size
  if size.natAbs ≥ 24 * 60 then throw (.offsetRange size)
  return size

/-- The value of a timestamp. -/
def value (t : Timestamp) : Scalar Value := do
  match t.time with
  | none => return .date (← date (nat t.year) (nat t.month) (nat t.day))
  | some (hour, minute, second, fraction) =>
    let offset ← t.zone.mapM fun (west, hours, minutes) => offset west hours minutes
    let day ← date (nat t.year) (nat t.month) (nat t.day)
    let hour := nat hour
    let minute := nat minute
    let second := nat second
    if hour > 23 then throw .hourRange
    if minute > 59 then throw .minuteRange
    if second > 59 then throw .secondRange
    let micro := nat ((fraction ++ List.replicate 6 '0').take 6)
    return .moment day { hour, minute, second, micro, offset }

/-- The day, with or without a time, that a text gives.  A line feed at its end does not count. -/
def ofText (text : List Letter) : Scalar Value :=
  match (Text.whole? text).bind fun cs => read? (withoutFinalBreak cs) with
  | some t => t.value
  | none => .error .noDate

end Timestamp

end Kumihan.Yaml
