import DeepCopy.Number.Binary64

/-!
# The shortest decimal of a number

The decimal with the fewest digits that reads back as a given finite number; of several with that
many digits, the one nearest to the number. It is found on the decimal grids of one, two, … up to
seventeen digits by testing the two neighbours of the number on each grid against the interval of
reals that round to the number.
-/

namespace DeepCopy.Number

/-- A positive decimal `0.d₁d₂… * 10 ^ (exponent + 1)`: its digits, most significant first, and
the power of ten of the first digit. -/
structure Decimal where
  digits : List Char
  exponent : Int

/-- The greatest `e` with `10 ^ e ≤ num / den`, for a positive quotient. -/
def floorLog10 (num den : Nat) : Int :=
  let guess : Int := ((num.log2 : Int) - den.log2) * 30103 / 100000
  let reaches (e : Int) : Bool := den * tenTo e.toNat ≤ num * tenTo (-e).toNat
  if reaches (guess + 2) then guess + 2
  else if reaches (guess + 1) then guess + 1
  else if reaches guess then guess
  else if reaches (guess - 1) then guess - 1
  else guess - 2

/-- The interval of reals that round to a positive finite number, as four times its significand
scale: lower bound, number and upper bound over one power of two, and whether the bounds
themselves round to the number. -/
def roundingInterval (x : Binary64) : Nat × Nat × Nat × Int × Bool :=
  let (m, q) := x.scaled
  -- Below a power of two the numbers lie twice as close, so the lower bound is nearer.
  let low := if m = twoTo 52 && -1074 < q then 4 * m - 1 else 4 * m - 2
  (low, 4 * m, 4 * m + 2, q - 2, m % 2 == 0)

/-- The decimal with `count` digits nearest to the number among its two neighbours that read
back, if one does. -/
def neighbour? (x : Binary64) (count : Nat) : Option Decimal :=
  let (low, mid, high, q, closed) := roundingInterval x
  let up := twoTo q.toNat
  let down := twoTo (-q).toNat
  let e := floorLog10 (mid * up) down
  -- One unit of the grid is `10 ^ unit`; every bound is compared as `bound * num` and
  -- `candidate * den`.
  let unit : Int := e - (count - 1 : Nat)
  let num := up * tenTo (-unit).toNat
  let den := down * tenTo unit.toNat
  let floor := mid * num / den
  let fits (c : Nat) : Bool :=
    if closed then low * num ≤ c * den && c * den ≤ high * num
    else low * num < c * den && c * den < high * num
  let write (c : Nat) : Decimal :=
    let ds := Nat.toDigits 10 c
    ⟨ds, unit + ((ds.length : Int) - 1)⟩
  -- Of two neighbours that read back the nearer one counts, and of two equally near ones the even
  -- one.
  let below := mid * num - floor * den
  let above := (floor + 1) * den - mid * num
  match fits floor, fits (floor + 1) with
  | true, true =>
    some (write (if below < above || below == above && floor % 2 == 0 then floor else floor + 1))
  | true, false => some (write floor)
  | false, true => some (write (floor + 1))
  | false, false => none

/-- The digits without the zeros at their end. -/
def Decimal.trim (d : Decimal) : Decimal :=
  { d with digits := (d.digits.reverse.dropWhile (· == '0')).reverse }

/-- The shortest decimal of a positive finite number. -/
def shortest (x : Binary64) : Decimal :=
  match (List.range 17).findSome? fun k => neighbour? x (k + 1) with
  | some d => d.trim
  | none => ⟨['0'], 0⟩

end DeepCopy.Number
