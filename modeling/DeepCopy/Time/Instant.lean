/-!
# Points in time

A point in time as a text: date and time of day at the zero meridian, with as many groups of three
decimals of a second as it takes, and the offset.
-/

namespace DeepCopy

/-- A point in time as nanoseconds since the beginning of 1970. -/
structure Instant where
  nanoseconds : Nat

namespace Instant

/-- A number with zeros in front up to some width. -/
def padded (width n : Nat) : String :=
  let digits := Nat.toDigits 10 n
  String.ofList (List.replicate (width - digits.length) '0' ++ digits)

/-- Year, month and day of a day that is counted from the beginning of 1970. Years are counted from
March, so that a leap day is the last of its year, in eras of four hundred years. -/
def date (day : Nat) : Nat × Nat × Nat :=
  let n := day + 719468
  let ofEra := n % 146097
  let yearOfEra := (ofEra - ofEra / 1460 + ofEra / 36524 - ofEra / 146096) / 365
  let ofYear := ofEra - (365 * yearOfEra + yearOfEra / 4 - yearOfEra / 100)
  let fromMarch := (5 * ofYear + 2) / 153
  let month := if fromMarch < 10 then fromMarch + 3 else fromMarch - 9
  let year := n / 146097 * 400 + yearOfEra + if month ≤ 2 then 1 else 0
  (year, month, ofYear - (153 * fromMarch + 2) / 5 + 1)

/-- The decimals of a second with the point in front of them. -/
def fraction (nanoseconds : Nat) : String :=
  if nanoseconds = 0 then ""
  else if nanoseconds % 1000000 = 0 then "." ++ padded 3 (nanoseconds / 1000000)
  else if nanoseconds % 1000 = 0 then "." ++ padded 6 (nanoseconds / 1000)
  else "." ++ padded 9 nanoseconds

/-- A point in time as a text. -/
def text (t : Instant) : String :=
  let seconds := t.nanoseconds / 1000000000
  let (year, month, day) := date (seconds / 86400)
  padded 4 year ++ "-" ++ padded 2 month ++ "-" ++ padded 2 day ++ "T" ++
    padded 2 (seconds / 3600 % 24) ++ ":" ++ padded 2 (seconds / 60 % 60) ++ ":" ++
    padded 2 (seconds % 60) ++ fraction (t.nanoseconds % 1000000000) ++ "+00:00"

end Instant

end DeepCopy
