/-!
# Sets of characters

A `CharSet` is given by ranges of code points, both ends included. The tables of this library are
sets of this form, and `CharSet.has` is their only observation.
-/

namespace DeepCopy.Text

/-- A set of characters as ranges of code points, both ends included. -/
structure CharSet where
  ranges : List (Nat × Nat)

namespace CharSet

/-- Whether a character lies in one of the ranges. -/
def has (s : CharSet) (c : Char) : Bool :=
  s.ranges.any fun r => r.1 ≤ c.toNat && c.toNat ≤ r.2

theorem has_iff {s : CharSet} {c : Char} :
    s.has c = true ↔ ∃ r ∈ s.ranges, r.1 ≤ c.toNat ∧ c.toNat ≤ r.2 := by
  simp [has]

end CharSet

end DeepCopy.Text
