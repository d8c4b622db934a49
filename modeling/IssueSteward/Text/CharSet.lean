/-!
# Sets of characters

A set of characters is given by the ranges of code points that make it up, as the tables of the
Unicode Character Database are. `CharSet.contains_iff` says what membership means.
-/

namespace IssueSteward.Text

/-- A set of characters: the first and the last code point of each range that it is made of. -/
structure CharSet where
  /-- The ranges, each with its first and its last code point. -/
  ranges : List (Nat × Nat)

/-- Whether a character's code point lies in one of the ranges. -/
def CharSet.contains (s : CharSet) (c : Char) : Bool :=
  s.ranges.any fun r => r.1 ≤ c.toNat && c.toNat ≤ r.2

/-- A set contains the characters of its ranges, ends included. -/
theorem CharSet.contains_iff (s : CharSet) (c : Char) :
    s.contains c = true ↔ ∃ r ∈ s.ranges, r.1 ≤ c.toNat ∧ c.toNat ≤ r.2 := by
  simp [CharSet.contains]

end IssueSteward.Text
