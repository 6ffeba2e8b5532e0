import DeepCopy.Number.Power

/-!
# Numbers in binary64

A `Binary64` is one of the bit patterns of the IEEE format with a sign, eleven bits of exponent
and fifty-two of fraction. A finite pattern stands for `m * 2 ^ q` with `(m, q) = scaled x`.

## Main definitions

* `Binary64.scaled`: the integer significand and the exponent of a finite number
* `Binary64.ieeeEq`: equality as the format defines it: a NaN equals nothing, the zeros are equal
* `Binary64.ofRatio`: the nearest number to a quotient, ties to the even significand
* `Binary64.ofDecimal?`: the nearest number to a decimal, with bounded work
-/

namespace DeepCopy.Number

/-- A binary64 number as its bits. -/
structure Binary64 where
  bits : UInt64
  deriving DecidableEq

namespace Binary64

/-- The bits without the sign. -/
def magnitude (x : Binary64) : Nat :=
  x.bits.toNat % twoTo 63

/-- The sign bit. -/
def isNegative (x : Binary64) : Bool :=
  twoTo 63 ≤ x.bits.toNat

/-- The magnitude of the infinities. -/
def infinity : Nat := 0x7FF * twoTo 52

def isNaN (x : Binary64) : Bool :=
  infinity < x.magnitude

def isInfinite (x : Binary64) : Bool :=
  x.magnitude == infinity

def isFinite (x : Binary64) : Bool :=
  x.magnitude < infinity

def isZero (x : Binary64) : Bool :=
  x.magnitude == 0

/-- The number with a sign and a magnitude. -/
def ofMagnitude (negative : Bool) (magnitude : Nat) : Binary64 where
  bits := UInt64.ofNat (if negative then twoTo 63 + magnitude else magnitude)

/-- Significand and exponent of a finite number: its absolute value is `m * 2 ^ q`. -/
def scaled (x : Binary64) : Nat × Int :=
  let exponent : Nat := x.magnitude / twoTo 52
  let fraction : Nat := x.magnitude % twoTo 52
  if exponent = 0 then (fraction, -1074) else (fraction + twoTo 52, Int.ofNat exponent - 1075)

/-- The absolute value of a finite number as numerator and denominator. -/
def ratio (x : Binary64) : Nat × Nat :=
  let (m, q) := x.scaled
  (m * twoTo q.toNat, twoTo (-q).toNat)

/-- Equality of the format: a NaN equals nothing, and the two zeros are equal. -/
def ieeeEq (x y : Binary64) : Bool :=
  !x.isNaN && !y.isNaN && (x == y || x.isZero && y.isZero)

theorem ieeeEq_self (x : Binary64) : x.ieeeEq x = !x.isNaN := by
  simp [ieeeEq]

theorem ieeeEq_comm (x y : Binary64) : x.ieeeEq y = y.ieeeEq x := by
  unfold ieeeEq
  rw [Bool.and_comm (!x.isNaN), Bool.and_comm x.isZero, Bool.beq_comm]

/-- A quotient rounded to an integer, a tie to the even one. -/
def roundDiv (num den : Nat) : Nat :=
  let floor := num / den
  let twice := 2 * (num % den)
  if twice < den then floor
  else if den < twice then floor + 1
  else floor + floor % 2

/-- The magnitude of the number nearest to a positive quotient: the significand is rounded at the
exponent that leaves it fifty-three bits, or at the least exponent there is. -/
def nearestMagnitude (num den : Nat) : Nat :=
  let low : Int := max ((num.log2 : Int) - den.log2 - 53) (-1074)
  let scaleAt (q : Int) : Nat × Nat := (num * twoTo (-q).toNat, den * twoTo q.toNat)
  -- The quotient has fifty-three or fifty-four bits at `low`, unless that is the least exponent.
  let (n, d) := scaleAt low
  let q := if twoTo 53 ≤ n / d then low + 1 else low
  let (n, d) := scaleAt q
  let m := roundDiv n d
  -- A significand that was rounded up to the next power of two carries into the exponent.
  min infinity (if m < twoTo 52 then m else (q + 1075).toNat * twoTo 52 + (m - twoTo 52))

/-- The number nearest to a quotient with a sign. -/
def ofRatio (negative : Bool) (num den : Nat) : Binary64 :=
  ofMagnitude negative (if num = 0 then 0 else nearestMagnitude num den)

/-- The number nearest to `digits * 10 ^ exponent`. A decimal beyond the range is an infinity or a
zero without its power of ten being computed. -/
def ofDecimal (negative : Bool) (digits : Nat) (exponent : Int) : Binary64 :=
  let size : Int := (Nat.toDigits 10 digits).length
  if digits = 0 then ofMagnitude negative 0
  else if 310 < size + exponent then ofMagnitude negative infinity
  else if size + exponent < -330 then ofMagnitude negative 0
  else ofRatio negative (digits * tenTo exponent.toNat) (tenTo (-exponent).toNat)

/-- The product of two finite numbers, rounded, with the sign of the first. -/
def times (x y : Binary64) : Binary64 :=
  ofRatio x.isNegative (x.ratio.1 * y.ratio.1) (x.ratio.2 * y.ratio.2)

/-- The quotient of two finite numbers, rounded, with the sign of the first; the second is not
zero. -/
def dividedBy (x y : Binary64) : Binary64 :=
  ofRatio x.isNegative (x.ratio.1 * y.ratio.2) (x.ratio.2 * y.ratio.1)

/-- The sixteen hexadecimal digits of the bits, the first digit first. -/
def hex (x : Binary64) : String :=
  let digits := Nat.toDigits 16 x.bits.toNat
  String.ofList (List.replicate (16 - digits.length) '0' ++ digits)

end Binary64

end DeepCopy.Number
