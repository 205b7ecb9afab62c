/-!
# Ranges of characters

A property of characters is given as the ranges of the code points that have it, in ascending order.

* `Ranges.contains_iff`: what it means for a character to be in a table.
-/

namespace Switchboard.Text

/-- Ranges of code points, each by its first and its last. -/
abbrev Ranges : Type := List (Nat × Nat)

namespace Ranges

/-- Whether a character is in one of the ranges. -/
def contains (ranges : Ranges) (c : Char) : Bool :=
  ranges.any fun r => r.1 ≤ c.toNat && c.toNat ≤ r.2

theorem contains_iff {ranges : Ranges} {c : Char} :
    ranges.contains c = true ↔ ∃ r ∈ ranges, r.1 ≤ c.toNat ∧ c.toNat ≤ r.2 := by
  simp [contains]

/-- Whether the ranges behind a code point are in ascending order, with gaps between them. -/
def isAscendingFrom (least : Nat) : Ranges → Bool
  | [] => true
  | r :: rs => least ≤ r.1 && r.1 ≤ r.2 && isAscendingFrom (r.2 + 2) rs

end Ranges

end Switchboard.Text
