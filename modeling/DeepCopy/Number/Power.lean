/-!
# Powers

The powers of two that bound words and scale numbers, and the powers of ten of decimals.
-/

namespace DeepCopy.Number

/-- A power of two. -/
abbrev twoTo (n : Nat) : Nat := Nat.pow 2 n

/-- A power of ten. -/
abbrev tenTo (n : Nat) : Nat := Nat.pow 10 n

end DeepCopy.Number
