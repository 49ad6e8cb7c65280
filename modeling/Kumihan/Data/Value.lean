import Kumihan.Text.Letter

/-!
# Data values

What a plan file can hold in a field: the scalars, lists and mappings of a data
format.

## Main definitions

* `Value` — a value.
* `Value.isBlank` — the value counts as left out.
* `Value.kind` — the name of a value's kind.
* `Value.setOf` — a set from its members.
-/

namespace Kumihan.Data

/-- The time of a day, with the distance from universal time in minutes if it is
known. -/
structure TimeOfDay where
  /-- The hour. -/
  hour : Nat
  /-- The minute. -/
  minute : Nat
  /-- The second. -/
  second : Nat
  /-- The millionths of a second. -/
  micro : Nat := 0
  /-- The distance from universal time. -/
  offset : Option Int := none
  deriving DecidableEq, Repr, Inhabited

/-- A day of the calendar. -/
structure Date where
  /-- The year. -/
  year : Nat
  /-- The month, from one. -/
  month : Nat
  /-- The day, from one. -/
  day : Nat
  deriving DecidableEq, Repr, Inhabited

/-- A value of a data file. -/
inductive Value
  /-- Nothing. -/
  | null
  /-- True or false. -/
  | bool (b : Bool)
  /-- A whole number. -/
  | int (n : Int)
  /-- A floating-point number. -/
  | float (x : Float)
  /-- A text. -/
  | text (s : String)
  /-- A text with halves of surrogate pairs. -/
  | unpaired (s : List Text.Letter)
  /-- Bytes. -/
  | bytes (bs : List UInt8)
  /-- A day. -/
  | date (d : Date)
  /-- A day and a time. -/
  | moment (d : Date) (t : TimeOfDay)
  /-- A list. -/
  | list (items : List Value)
  /-- Two values that belong together. -/
  | pair (fst snd : Value)
  /-- A set, in the order in which its members are listed. -/
  | set (items : List Value)
  /-- Keys and values, in the order in which the keys were first given. -/
  | mapping (entries : List (Value × Value))
  /-- A list around the place where it stands. -/
  | listLoop
  /-- A mapping around the place where it stands. -/
  | mappingLoop
  deriving Repr, Inhabited

namespace Value

/-- The value counts as left out: it is nothing, false, zero or empty. -/
def isBlank : Value → Bool
  | null => true
  | bool b => !b
  | int n => n == 0
  | float x => x == 0
  | text s => s.isEmpty
  | unpaired s => s.isEmpty
  | bytes bs => bs.isEmpty
  | list items | set items => items.isEmpty
  | mapping entries => entries.isEmpty
  | date _ | moment _ _ | pair _ _ | listLoop | mappingLoop => false

/-- The name of a value's kind, as messages write it. -/
def kind : Value → String
  | null => "NoneType"
  | bool _ => "bool"
  | int _ => "int"
  | float _ => "float"
  | text _ | unpaired _ => "str"
  | bytes _ => "bytes"
  | date _ => "date"
  | moment _ _ => "datetime"
  | list _ | listLoop => "list"
  | pair _ _ => "tuple"
  | set _ => "set"
  | mapping _ | mappingLoop => "dict"

/-- The value of a text. -/
def ofLetters (s : List Text.Letter) : Value :=
  match Text.whole? s with
  | some cs => text (String.ofList cs)
  | none => unpaired s

/-! ### Sets -/

/-- The room of a set with `n` members: a power of two above twice their number, but eight for
four of them. -/
def room (n : Nat) : Nat := if n < 5 then 8 else Nat.pow 2 (Nat.log2 (2 * n) + 1)

/-- The place of a whole number in a set with a given room, counted by the prime `2 ^ 61 - 1`.
Minus one has that of minus two. -/
def placeIn (room : Nat) (n : Int) : Int :=
  let rest := n.tmod 0x1FFFFFFFFFFFFFFF
  (if rest = -1 then -2 else rest) % room

/-- The whole number that a member of a set is. -/
def whole? : Value → Option Int
  | int n => some n
  | bool b => some (if b then 1 else 0)
  | _ => none

/-- The set that is filled with the given members.  Whole numbers are listed by their places, all
else as it comes. -/
def setOf (items : List Value) : Value :=
  match items.mapM whole? with
  | none => set items
  | some ns =>
    let place := placeIn (room items.length)
    set (((ns.zip items).mergeSort fun a b => place a.1 ≤ place b.1).map (·.2))

/-! ### Numbers -/

/-- The floating-point number nearest to `m · 10 ^ e`.  Far out of range, only the
digits' count is looked at. -/
def decimalFloat (m : Nat) (e : Int) : Float :=
  let size : Int := (Nat.toDigits 10 m).length
  if m = 0 ∨ e + size < -400 then 0
  else if e + size > 400 then 1.0 / 0.0
  else Float.ofScientific m (e < 0) e.natAbs

end Value

end Kumihan.Data
