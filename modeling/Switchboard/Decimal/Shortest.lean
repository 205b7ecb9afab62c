import Switchboard.Decimal.Binary64

/-!
# The fewest digits that read back

A double stands for every real number that rounds to it: an interval whose ends lie half way to its
neighbours, and belong to it when its mantissa is even. `shortest` walks the decimal grids from one
digit upwards. On each it tries the two grid points around the value; the first grid with a point in
the interval wins, the nearer point is taken, and of two equally near ones the even one.

Everything is scaled by one natural number, so that the value, the ends and the grid points are
natural numbers over one denominator.
-/

namespace Switchboard.Decimal

/-- The digits of a number below `10 ^ n`, most significant first. -/
def digits (n : Nat) : List Nat :=
  (Nat.toDigits 10 n).map fun c => c.toNat - '0'.toNat

/-- A value with the interval that rounds to it, over one denominator. -/
structure Interval where
  low : Nat
  value : Nat
  high : Nat
  denominator : Nat
  closed : Bool

/-- The interval of a magnitude other than zero: four times the mantissa is the value, and the ends
lie two away, or one where the lower neighbour is nearer. -/
def interval (k : Nat) : Interval :=
  let m := mantissa k
  let low := if k % fullMantissa = 0 && fullMantissa < k then 4 * m - 1 else 4 * m - 2
  let (factor, denominator) := scaleDown 1 1 (2 - exponent k)
  ⟨low * factor, 4 * m * factor, (4 * m + 2) * factor, denominator, m % 2 == 0⟩

/-- Whether a grid point, over the same denominator, lies in the interval. -/
def Interval.contains (i : Interval) (point : Nat) : Bool :=
  if i.closed then i.low ≤ point && point ≤ i.high else i.low < point && point < i.high

/-- The point of the grid with spacing `10 ^ p` that stands for the interval: how often the spacing
goes into it. -/
def Interval.gridPoint? (i : Interval) (p : Int) : Option Nat :=
  let up := Nat.pow 10 (-p).toNat
  let spacing := i.denominator * Nat.pow 10 p.toNat
  let scaled : Interval := ⟨i.low * up, i.value * up, i.high * up, i.denominator, i.closed⟩
  let below := scaled.value / spacing
  let rest := scaled.value % spacing
  match scaled.contains (below * spacing), scaled.contains ((below + 1) * spacing) with
  | true, true =>
    some (if 2 * rest < spacing || (2 * rest == spacing && below % 2 == 0) then below
      else below + 1)
  | true, false => some below
  | false, true => some (below + 1)
  | false, false => none

/-- The power of ten of the first digit of a ratio. -/
def leadingPower (n d : Nat) : Int :=
  if d ≤ n then ((Nat.toDigits 10 (n / d)).length : Int) - 1
  else
    let k := (Nat.toDigits 10 (d / n)).length
    if d ≤ n * Nat.pow 10 (k - 1) then 1 - (k : Int) else -(k : Int)

/-- The first grid with a point, from the one with spacing `10 ^ p` down to finer ones. -/
def Interval.firstPoint (i : Interval) : Nat → Int → Nat × Int
  | 0, p => (i.value * Nat.pow 10 (-p).toNat / (i.denominator * Nat.pow 10 p.toNat), p)
  | n + 1, p =>
    match i.gridPoint? p with
    | some point => (point, p)
    | none => i.firstPoint n (p - 1)

/-- A decimal: its digits, first and last not zero, and the power of ten of the first one. -/
structure Digits where
  digits : List Nat
  power : Int
deriving DecidableEq, Repr

/-- The shortest decimal of a magnitude other than zero. -/
def shortest (k : Nat) : Digits :=
  let i := interval k
  let (point, p) := i.firstPoint 17 (leadingPower i.value i.denominator)
  let ds := digits point
  ⟨(ds.reverse.dropWhile (· == 0)).reverse, p + ds.length - 1⟩

end Switchboard.Decimal
