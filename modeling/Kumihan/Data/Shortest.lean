import Kumihan.Text.Decimal

/-!
# The shortest decimal numeral of a floating-point number

A finite double is `m · 2 ^ q`.  It is written with the fewest digits that are read
back as the same double: of all decimals that lie between its two neighbours'
midpoints, one with the fewest digits, and of those the nearest.

## Main definitions

* `Double`, `Double.ofFloat?` — the parts of a double.
* `Double.shortest` — its digits and the place of the point.
* `floatText` — the numeral.
-/

namespace Kumihan.Data

/-- A positive finite double, `mantissa · 2 ^ exponent`. -/
structure Double where
  /-- The whole-numbered mantissa. -/
  mantissa : Nat
  /-- The exponent of two. -/
  exponent : Int
  /-- The gap to the next smaller double is half as wide as the one to the next greater. -/
  narrowBelow : Bool
  deriving DecidableEq, Repr

/-- The parts of a double's absolute value, if it is finite and not zero. -/
def Double.ofFloat? (x : Float) : Option Double :=
  let bits : Nat := x.toBits.toNat
  let fraction : Nat := bits % 0x10000000000000
  let biased : Nat := bits / 0x10000000000000 % 0x800
  if biased = 2047 then none
  else if biased = 0 then
    if fraction = 0 then none else some ⟨fraction, -1074, false⟩
  else some ⟨fraction + 0x10000000000000, (biased : Int) - 1075, fraction = 0 && biased ≠ 1⟩

/-- A power of two; one for a negative exponent. -/
def twos (p : Int) : Nat := Nat.pow 2 p.toNat

/-- A power of ten; one for a negative exponent. -/
def tens (e : Int) : Nat := Nat.pow 10 e.toNat

/-- `a · 2 ^ p ≤ b · 10 ^ e`, in whole numbers. -/
def scaledLe (a : Nat) (p : Int) (b : Nat) (e : Int) : Bool :=
  a * twos p * tens (-e) ≤ b * tens e * twos (-p)

/-- `b · 10 ^ e ≤ a · 2 ^ p`, in whole numbers. -/
def scaledGe (a : Nat) (p : Int) (b : Nat) (e : Int) : Bool :=
  b * tens e * twos (-p) ≤ a * twos p * tens (-e)

namespace Double

/-- The decimal `d · 10 ^ e` is read back as this double. -/
def reads (x : Double) (d : Nat) (e : Int) : Bool :=
  -- the two midpoints, in quarters of the last place
  let low := 4 * x.mantissa - if x.narrowBelow then 1 else 2
  let high := 4 * x.mantissa + 2
  let p := x.exponent - 2
  if x.mantissa % 2 = 0 then scaledLe low p d e && scaledGe high p d e
  else !scaledGe low p d e && !scaledLe high p d e

/-- The whole number of steps `10 ^ e` in the double. -/
def floorAt (x : Double) (e : Int) : Nat :=
  x.mantissa * twos x.exponent * tens (-e) / (twos (-x.exponent) * tens e)

/-- The place of the point: the least `n` with the double below `10 ^ n`, or a
neighbour of it that is put right by looking at the digits. -/
def magnitude (x : Double) : Int :=
  let guess := (x.exponent + Nat.log2 x.mantissa) * 30103 / 100000 - 1
  let above (n : Int) : Bool := !scaledGe x.mantissa x.exponent 1 n
  if above guess then guess
  else if above (guess + 1) then guess + 1
  else if above (guess + 2) then guess + 2
  else guess + 3

/-- The decimals of the grid `10 ^ e` on either side of the double that are read
back as it, the nearer one first. -/
def candidate? (x : Double) (e : Int) : Option Nat :=
  let d := x.floorAt e
  match x.reads d e, x.reads (d + 1) e with
  | true, false => some d
  | false, true => some (d + 1)
  | false, false => none
  | true, true =>
    -- twice the double against the sum of the two
    let below := scaledLe (2 * x.mantissa) x.exponent (2 * d + 1) e
    let above := scaledGe (2 * x.mantissa) x.exponent (2 * d + 1) e
    if below && (!above || d % 2 = 0) then some d else some (d + 1)

/-- The digits and the place of the point, tried with `17 - fuel` digits and more. -/
def search (x : Double) (n : Int) : Nat → Nat × Int
  | 0 => (x.floorAt (n - 17), n - 17)
  | fuel + 1 =>
    let e := n - (17 - fuel : Nat)
    match x.candidate? e with
    | some d => (d, e)
    | none => search x n fuel

/-- The shortest decimal `d · 10 ^ e` that is read back as the double. -/
def shortest (x : Double) : Nat × Int := x.search x.magnitude 17

end Double

/-- The digits without the zeros at their end. -/
def dropZeros (ds : List Char) : List Char := (ds.reverse.dropWhile (· = '0')).reverse

/-- The numeral of digits whose point stands before or behind them: up to sixteen
places before the point and four zeros behind it are written out. -/
def pointed (ds : List Char) (point : Int) : List Char :=
  if point > 16 ∨ point < -3 then
    let power := point - 1
    let head := match ds with
      | [] => []
      | [d] => [d]
      | d :: rest => d :: '.' :: rest
    head ++ 'e' :: (if power < 0 then '-' else '+') :: Text.paddedDigits 2 power.natAbs
  else if point ≤ 0 then
    '0' :: '.' :: List.replicate (-point).toNat '0' ++ ds
  else if ds.length ≤ point.toNat then
    ds ++ List.replicate (point.toNat - ds.length) '0' ++ ['.', '0']
  else ds.take point.toNat ++ '.' :: ds.drop point.toNat

/-- The numeral of a floating-point number. -/
def floatText (x : Float) : List Char :=
  if x.isNaN then ['n', 'a', 'n']
  else
    let sign := if x.toBits.toNat / 0x8000000000000000 = 1 then ['-'] else []
    sign ++
      if x.isInf then ['i', 'n', 'f']
      else match Double.ofFloat? x with
        | none => ['0', '.', '0']
        | some parts =>
          let (d, e) := parts.shortest
          let ds := Text.digits d
          pointed (dropZeros ds) (e + ds.length)

end Kumihan.Data
