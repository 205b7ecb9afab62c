/-!
# Finite doubles

A finite double is a sign and a magnitude. Magnitudes are numbered in order from zero upwards, so
that neighbouring numbers are neighbouring doubles; number `k` stands for `mantissa k * 2 ^ exponent
k`. `nearest?` rounds a ratio of two natural numbers to the nearest magnitude, a tie going to the
even one, and fails above the largest.

* `mantissa_lt`: a mantissa has at most 53 bits.
* `nearest?_lt`: what `nearest?` yields is the magnitude of a finite double.
-/

namespace Switchboard.Decimal

/-- The least mantissa of 53 bits. -/
def fullMantissa : Nat := 0x10000000000000

/-- The number of finite magnitudes. -/
def magnitudes : Nat := 2047 * fullMantissa

/-- The mantissa of a magnitude. -/
def mantissa (k : Nat) : Nat :=
  if k < fullMantissa then k else k % fullMantissa + fullMantissa

/-- The power of two that scales the mantissa of a magnitude. -/
def exponent (k : Nat) : Int :=
  if k < fullMantissa then -1074 else (k / fullMantissa : Nat) - 1075

theorem mantissa_lt (k : Nat) : mantissa k < 2 * fullMantissa := by
  unfold mantissa fullMantissa
  split <;> omega

/-- A ratio scaled by two to the power `-q`. -/
def scaleDown (n d : Nat) (q : Int) : Nat × Nat :=
  if 0 ≤ q then (n, d * Nat.pow 2 q.toNat) else (n * Nat.pow 2 (-q).toNat, d)

/-- The natural number nearest to `n / d`, a tie going to the even one. -/
def roundDiv (n d : Nat) : Nat :=
  let quotient := n / d
  let rest := 2 * (n % d)
  if rest < d then quotient
  else if d < rest then quotient + 1
  else quotient + quotient % 2

/-- The power of two at which `n / d` has a mantissa of 53 bits, or as many as there are. -/
def scaleOf (n d : Nat) : Int :=
  let low : Int := (n.log2 : Int) - d.log2 - 53
  let (a, b) := scaleDown n d low
  max (if a / b < 2 * fullMantissa then low else low + 1) (-1074)

/-- The magnitude nearest to `n / d`, if it is finite. -/
def nearest? (n d : Nat) : Option Nat :=
  if n = 0 then some 0
  else
    let q := scaleOf n d
    let (a, b) := scaleDown n d q
    let k := (q + 1074).toNat * fullMantissa + roundDiv a b
    if k < magnitudes then some k else none

theorem nearest?_lt {n d k : Nat} (h : nearest? n d = some k) : k < magnitudes := by
  unfold nearest? at h
  split at h
  · cases h
    decide
  · dsimp only at h
    split at h
    · cases h
      assumption
    · cases h

/-- A finite double. -/
structure Binary64 where
  negative : Bool
  magnitude : Nat
  finite : magnitude < magnitudes
deriving DecidableEq

namespace Binary64

/-- The double zero of a sign. -/
def zero (negative : Bool) : Binary64 := ⟨negative, 0, by decide⟩

/-- The double nearest to a ratio, if it is finite. -/
def ofRatio? (negative : Bool) (n d : Nat) : Option Binary64 :=
  match h : nearest? n d with
  | none => none
  | some k => some ⟨negative, k, nearest?_lt h⟩

/-- The magnitude of a double as a ratio. -/
def ratio (x : Binary64) : Nat × Nat :=
  scaleDown (mantissa x.magnitude) 1 (-exponent x.magnitude)

/-- The double nearest to the product with a ratio. -/
def scale? (x : Binary64) (n d : Nat) : Option Binary64 :=
  ofRatio? x.negative (x.ratio.1 * n) (x.ratio.2 * d)

end Binary64

end Switchboard.Decimal
