import Kumihan.Text.Quoted
import Kumihan.Data.Value
import Kumihan.Data.Shortest

/-!
# Values as text

A field that wants a text takes any value: a text as it is, anything else as it is
printed.  Inside a list or a mapping a text is printed between quotes.

## Main definitions

* `Value.printed` — a value inside another one.
* `Value.asLetters`, `Value.spelled` — a value on its own.
* `Value.hasLongNumeral` — a value with a number that is too long to be printed.
-/

namespace Kumihan.Data

open Text (digits paddedDigits numeral)

/-- Texts with a separator between any two. -/
def separated (sep : List Char) : List (List Char) → List Char
  | [] => []
  | [s] => s
  | s :: rest => s ++ sep ++ separated sep rest

/-- The comma between two printed values. -/
def comma : List Char := [',', ' ']

/-! ### Numbers -/

/-- The greatest number of digits of a numeral. -/
def digitLimit : Nat := 4300

/-- What is said of a number whose numeral is too long, with the number of its digits if it
was to be read. -/
def numeralTooLong (count : Option Nat) : String :=
  s!"Exceeds the limit ({digitLimit} digits) for integer string conversion"
    ++ (count.map fun n => s!": value has {n} digits").getD ""
    ++ "; use sys.set_int_max_str_digits() to increase the limit"

/-- The numeral of the number is too long. -/
def isLongNumeral (n : Int) : Bool := Nat.pow 10 digitLimit ≤ n.natAbs

/-! ### Days and times -/

/-- A day as it is written: year, month, day. -/
def Date.written (d : Date) : List Char :=
  paddedDigits 4 d.year ++ '-' :: paddedDigits 2 d.month ++ '-' :: paddedDigits 2 d.day

/-- A distance from universal time. -/
def offsetText (minutes : Int) : List Char :=
  let m := minutes.natAbs
  (if minutes < 0 then '-' else '+') :: paddedDigits 2 (m / 60) ++ ':' :: paddedDigits 2 (m % 60)

/-- A time of day as it is written. -/
def TimeOfDay.written (t : TimeOfDay) : List Char :=
  paddedDigits 2 t.hour ++ ':' :: paddedDigits 2 t.minute ++ ':' :: paddedDigits 2 t.second
    ++ (if t.micro = 0 then [] else '.' :: paddedDigits 6 t.micro)
    ++ (t.offset.map offsetText).getD []

/-- The name of a distance from universal time: days and seconds, the seconds
counted forward. -/
def offsetName (minutes : Int) : List Char :=
  let seconds := minutes * 60
  let days := seconds.fdiv 86400
  let rest := seconds.fmod 86400
  let fields :=
    (if days = 0 then [] else ["days=".toList ++ numeral days])
      ++ (if rest = 0 then [] else ["seconds=".toList ++ numeral rest])
  "datetime.timedelta(".toList ++ separated comma fields ++ [')']

/-- The name of a time zone. -/
def zoneName (minutes : Int) : List Char :=
  if minutes = 0 then "datetime.timezone.utc".toList
  else "datetime.timezone(".toList ++ offsetName minutes ++ [')']

/-- The fields of a day. -/
def Date.fields (d : Date) : List (List Char) := [digits d.year, digits d.month, digits d.day]

/-- The fields of a time of day.  Seconds and what is smaller are left out where
nothing but zeros would follow. -/
def TimeOfDay.fields (t : TimeOfDay) : List (List Char) :=
  [digits t.hour, digits t.minute]
    ++ (if t.micro ≠ 0 then [digits t.second, digits t.micro]
        else if t.second ≠ 0 then [digits t.second] else [])
    ++ (t.offset.map fun m => "tzinfo=".toList ++ zoneName m).toList

namespace Value

mutual

/-- A value as it is printed inside another one. -/
def printed : Value → List Char
  | null => "None".toList
  | bool true => "True".toList
  | bool false => "False".toList
  | int n => numeral n
  | float x => floatText x
  | text s => Text.quotedChars s.toList
  | unpaired s => Text.quotedLetters s
  | bytes bs => Text.quotedBytes bs
  | date d => "datetime.date(".toList ++ separated comma d.fields ++ [')']
  | moment d t => "datetime.datetime(".toList ++ separated comma (d.fields ++ t.fields) ++ [')']
  | list items => '[' :: separated comma (printedAll items) ++ [']']
  | pair a b => '(' :: printed a ++ comma ++ printed b ++ [')']
  | set [] => "set()".toList
  | set items => '\x7b' :: separated comma (printedAll items) ++ ['\x7d']
  | mapping entries => '\x7b' :: separated comma (printedEntries entries) ++ ['\x7d']
  | listLoop => "[...]".toList
  | mappingLoop => '\x7b' :: "...".toList ++ ['\x7d']

/-- The values of a list as they are printed. -/
def printedAll : List Value → List (List Char)
  | [] => []
  | v :: vs => printed v :: printedAll vs

/-- The entries of a mapping as they are printed. -/
def printedEntries : List (Value × Value) → List (List Char)
  | [] => []
  | (k, v) :: es => (printed k ++ ':' :: ' ' :: printed v) :: printedEntries es

end

/-- A value as the text of a field, with the halves of surrogate pairs that it may hold. -/
def asLetters : Value → List Text.Letter
  | text s => Text.letters s.toList
  | unpaired s => s
  | date d => Text.letters d.written
  | moment d t => Text.letters (d.written ++ ' ' :: t.written)
  | v => Text.letters v.printed

/-- A value as the text of a field, with the halves of surrogate pairs spelled out. -/
def spelled (v : Value) : String := Text.spelled v.asLetters

mutual

/-- A number in the value is too long to be printed. -/
def hasLongNumeral : Value → Bool
  | int n => isLongNumeral n
  | list items | set items => anyLongNumeral items
  | pair a b => hasLongNumeral a || hasLongNumeral b
  | mapping entries => anyLongEntry entries
  | _ => false

/-- A number in one of the values is too long to be printed. -/
def anyLongNumeral : List Value → Bool
  | [] => false
  | v :: vs => hasLongNumeral v || anyLongNumeral vs

/-- A number in one of the keys or values is too long to be printed. -/
def anyLongEntry : List (Value × Value) → Bool
  | [] => false
  | (k, v) :: es => hasLongNumeral k || hasLongNumeral v || anyLongEntry es

end

/-! ### Equality of keys -/

/-- A key that is a number: true and false count as one and zero. -/
def number? : Value → Option (Int ⊕ Float)
  | bool b => some (.inl (if b then 1 else 0))
  | int n => some (.inl n)
  | float x => some (.inr x)
  | _ => none

/-- A whole number and a floating-point number are equal. -/
def intEqFloat (n : Int) (x : Float) : Bool :=
  if n = 0 then x == 0
  else match Double.ofFloat? x with
    | none => false
    | some parts =>
      decide ((x < 0) = (n < 0)) &&
        n.natAbs * twos (-parts.exponent) = parts.mantissa * twos parts.exponent

/-- Two numbers are equal, whatever their kinds. -/
def sameNumber : Int ⊕ Float → Int ⊕ Float → Bool
  | .inl m, .inl n => m == n
  | .inl m, .inr x | .inr x, .inl m => intEqFloat m x
  | .inr x, .inr y => x == y

/-- The universal time of a moment, in millionths of a second from a fixed day, if its
distance from universal time is known; `daysBefore` counts the days up to a day. -/
def instant? (daysBefore : Date → Int) (d : Date) (t : TimeOfDay) : Option Int :=
  t.offset.map fun o =>
    (((daysBefore d * 24 + t.hour) * 60 + t.minute - o) * 60 + t.second) * 1000000 + t.micro

/-- The days from a fixed day of the distant past up to a day. -/
def daysBefore (d : Date) : Int :=
  -- years begin in March, so that the leap day is the last of its year
  let y : Int := if d.month ≤ 2 then d.year - 1 else d.year
  let m : Int := (d.month + 9) % 12
  365 * y + y.fdiv 4 - y.fdiv 100 + y.fdiv 400 + (153 * m + 2) / 5 + d.day - 1

/-- Two keys are the same one. -/
def sameKey : Value → Value → Bool
  | null, null => true
  | text s, text t => s == t
  | unpaired s, unpaired t => s == t
  | bytes a, bytes b => a == b
  | date d, date e => d == e
  | moment d t, moment e u =>
    match instant? daysBefore d t, instant? daysBefore e u with
    | some a, some b => a == b
    | none, none => d == e && t == u
    | _, _ => false
  | pair a b, pair c d => sameKey a c && sameKey b d
  | v, w =>
    match v.number?, w.number? with
    | some a, some b => sameNumber a b
    | _, _ => false

/-- The entries with `k` set to `v`.  A key that is there already, by the relation `same`, keeps its
place and its own spelling. -/
def setEntryBy {κ α : Type} (same : κ → κ → Bool) (k : κ) (v : α) : List (κ × α) → List (κ × α)
  | [] => [(k, v)]
  | (k', v') :: es =>
    if same k' k then (k', v) :: es else (k', v') :: setEntryBy same k v es

/-- The entries with `k` set to `v`. -/
def setEntry {α : Type} (k : Value) (v : α) (entries : List (Value × α)) : List (Value × α) :=
  setEntryBy sameKey k v entries

/-- The value of a textual key. -/
def field? (entries : List (Value × Value)) (name : String) : Option Value :=
  (entries.find? fun (k, _) => sameKey k (text name)).map (·.2)

end Value

end Kumihan.Data
