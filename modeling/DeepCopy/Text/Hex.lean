/-!
# Hexadecimal digits

The value of a digit in either case, and the number that several digits write.
-/

namespace DeepCopy.Text

/-- The value of a hexadecimal digit. -/
def hexValue? (c : Char) : Option Nat :=
  if '0' ≤ c && c ≤ '9' then some (c.toNat - '0'.toNat)
  else if 'a' ≤ c && c ≤ 'f' then some (c.toNat - 'a'.toNat + 10)
  else if 'A' ≤ c && c ≤ 'F' then some (c.toNat - 'A'.toNat + 10)
  else none

/-- The number of some digits that follow others whose number is known. -/
def hexNumberFrom? (n : Nat) : List Char → Option Nat
  | [] => some n
  | c :: cs => do hexNumberFrom? (n * 16 + (← hexValue? c)) cs

/-- The number that hexadecimal digits write; there may be none. -/
def hexNumber? (cs : List Char) : Option Nat := hexNumberFrom? 0 cs

end DeepCopy.Text
