import DeepCopy.Number.Shortest

/-!
# Layouts of a number's text

A `Layout` says how the shortest decimal of a number is laid out: which magnitudes are written
positionally and how an exponent looks. Each message format of the library has one.
-/

namespace DeepCopy.Number

/-- How a number is written: positionally when the power of ten of its first digit lies between
`least` and `greatest`, otherwise with an exponent. -/
structure Layout where
  least : Int
  greatest : Int
  /-- A positive exponent carries a plus sign. -/
  plus : Bool
  /-- The least number of digits of an exponent. -/
  width : Nat
  notANumber : String
  infinity : String

namespace Layout

/-- Every magnitude is written out. -/
def positional : Layout := ⟨-400, 400, false, 1, "NaN", "inf"⟩

/-- From one ten-thousandth to sixteen digits before the point, otherwise a bare exponent. -/
def debug : Layout := ⟨-4, 15, false, 1, "NaN", "inf"⟩

/-- From five places to sixteen digits before the point, otherwise an exponent with its sign and at
least two digits. -/
def signed : Layout := ⟨-5, 15, true, 2, "NaN", "inf"⟩

/-- From five places to sixteen digits before the point, otherwise a bare exponent; the special
values are spelt with a point in front. -/
def pointed : Layout := ⟨-5, 15, false, 1, ".nan", ".inf"⟩

/-- Digits with the point after `exponent + 1` of them, and at least one digit on either side. -/
def writePositional (d : Decimal) : List Char :=
  let n : Int := d.digits.length
  if d.exponent < 0 then
    ['0', '.'] ++ List.replicate (-d.exponent - 1).toNat '0' ++ d.digits
  else if n ≤ d.exponent + 1 then
    d.digits ++ List.replicate (d.exponent + 1 - n).toNat '0' ++ ['.', '0']
  else
    d.digits.take (d.exponent + 1).toNat ++ '.' :: d.digits.drop (d.exponent + 1).toNat

/-- One digit, the others after a point, and the exponent. -/
def writeExponent (l : Layout) (d : Decimal) : List Char :=
  let mantissa :=
    match d.digits with
    | [] => []
    | [c] => [c]
    | c :: cs => c :: '.' :: cs
  let sign := if d.exponent < 0 then ['-'] else if l.plus then ['+'] else []
  let digits := Nat.toDigits 10 d.exponent.natAbs
  mantissa ++ 'e' :: sign ++ List.replicate (l.width - digits.length) '0' ++ digits

/-- The text of a number. -/
def write (l : Layout) (x : Binary64) : String :=
  let sign := if x.isNegative then "-" else ""
  if x.isNaN then l.notANumber
  else if x.isInfinite then sign ++ l.infinity
  else if x.isZero then sign ++ "0.0"
  else
    let d := shortest x
    sign ++ String.ofList
      (if l.least ≤ d.exponent && d.exponent ≤ l.greatest then writePositional d
      else writeExponent l d)

end Layout

end DeepCopy.Number
