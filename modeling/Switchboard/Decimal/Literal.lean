import Switchboard.Decimal.Binary64

/-!
# Decimal literals

A literal is a sign, the digits before and after the point, and a power of ten. One without point
and power is an integer, as long as 64 bits hold it; every other one is a double.

The double is reached in two roundings. The leading digits that fit into an unsigned 64-bit integer
are the significand, which is rounded to a double; that is multiplied or divided by a power of ten,
itself rounded to a double. A power beyond the largest double is taken off in two divisions.
`nearest?` is for formats that ask for the double closest to the literal.

* `number?_eq_none_iff`: a literal has no number exactly when its double is not finite.
-/

namespace Switchboard.Decimal

/-- A number: an integer of 64 bits, signed or unsigned, or a double. -/
inductive Number where
  | int (value : Int)
  | double (value : Binary64)
deriving DecidableEq

/-- A literal as it is written; digits are numbers below ten. -/
structure Literal where
  negative : Bool
  whole : List Nat
  fraction : List Nat
  exponent : Option Int
deriving DecidableEq, Repr

namespace Literal

/-- The largest significand. -/
def limit : Nat := 0xFFFFFFFFFFFFFFFF

/-- Appends digits to a significand while it stays within the limit, and tells the digits left. -/
def append (value : Nat) : List Nat → Nat × List Nat
  | [] => (value, [])
  | d :: ds => if value * 10 + d ≤ limit then append (value * 10 + d) ds else (value, d :: ds)

/-- The significand of a literal and the power of ten that goes with it. -/
def significand (l : Literal) : Nat × Int :=
  let (whole, beyond) := append 0 l.whole
  let (value, left) := append whole l.fraction
  let used := l.fraction.length - left.length
  (value, l.exponent.getD 0 + Int.ofNat beyond.length - Int.ofNat used)

/-- The largest power of ten that is a finite double. -/
def maxPower : Nat := 308

/-- The double nearest to a power of ten, as a ratio. -/
def powerOfTen (k : Nat) : Nat × Nat :=
  match Binary64.ofRatio? false (Nat.pow 10 k) 1 with
  | some x => x.ratio
  | none => (Nat.pow 10 k, 1)

/-- A double times the power of ten `10 ^ k`. -/
def raise? (x : Binary64) (k : Nat) : Option Binary64 :=
  x.scale? (powerOfTen k).1 (powerOfTen k).2

/-- A double divided by the power of ten `10 ^ k`. -/
def lower? (x : Binary64) (k : Nat) : Option Binary64 :=
  x.scale? (powerOfTen k).2 (powerOfTen k).1

/-- The double of a literal, if it is finite. -/
def double? (l : Literal) : Option Binary64 := do
  let (value, power) := l.significand
  let x ← Binary64.ofRatio? l.negative value 1
  if value = 0 then return x
  else if 0 ≤ power then
    if power ≤ maxPower then raise? x power.toNat else none
  else if -(maxPower : Int) ≤ power then lower? x (-power).toNat
  else if -(2 * maxPower : Int) ≤ power then
    let y ← lower? x maxPower
    lower? y ((-power).toNat - maxPower)
  else return .zero l.negative

/-- The number that digits write. -/
def ofDigits (ds : List Nat) : Nat :=
  ds.foldl (fun n d => n * 10 + d) 0

/-- The double nearest to a literal, if it is finite. Where the first digit is far beyond those of
the doubles nothing is computed: the literal is too large, or as good as zero. -/
def nearest? (l : Literal) : Option Binary64 :=
  let digits := (l.whole ++ l.fraction).dropWhile (· = 0)
  let power := l.exponent.getD 0 - Int.ofNat l.fraction.length
  let top := Int.ofNat digits.length + power
  if digits.isEmpty || top < -330 then some (.zero l.negative)
  else if 310 < top then none
  else if 0 ≤ power then
    Binary64.ofRatio? l.negative (ofDigits digits * Nat.pow 10 power.toNat) 1
  else Binary64.ofRatio? l.negative (ofDigits digits) (Nat.pow 10 (-power).toNat)

/-- The integer of a literal without point and power, unless it is a negative zero or out of the
range of 64 bits. -/
def int? (l : Literal) : Option Int :=
  if l.fraction.isEmpty && l.exponent.isNone then
    let value := ofDigits l.whole
    if l.negative then
      if 0 < value && value ≤ 0x8000000000000000 then some (-(value : Int)) else none
    else if value ≤ limit then some value else none
  else none

/-- The number that a literal stands for. -/
def number? (l : Literal) : Option Number :=
  match l.int? with
  | some i => some (.int i)
  | none => l.double?.map .double

theorem number?_eq_none_iff {l : Literal} :
    l.number? = none ↔ l.int? = none ∧ l.double? = none := by
  unfold number?
  cases l.int? <;> simp

end Literal

end Switchboard.Decimal
