import DeepCopy.Document.Node

/-!
# Numbers of JSON

A number without point and exponent that fits sixty-four bits is an integer. Every other number is
a floating-point number: as many leading digits as fit sixty-four bits, scaled by powers of ten
that are themselves rounded. A number beyond the range has no value.

## Main definitions

* `scaleTen`: a floating-point number times a power of ten, in rounded steps
* `Literal`: the parts of a number as written
* `Literal.node`: what it stands for
-/

namespace DeepCopy.Json

open Document (Node)
open Number (Binary64 twoTo)

/-- The greatest integer of sixty-four bits. -/
def wordMax : Nat := twoTo 64 - 1

/-- A number times `10 ^ e`, one rounded step for every 308 powers; `none` beyond the range. -/
def scaleTen : Nat → Binary64 → Int → Option Binary64
  | 0, x, _ => some x
  | fuel + 1, x, e =>
    if e.natAbs ≤ 308 then
      let power := Binary64.ofDecimal false 1 e.natAbs
      if 0 ≤ e then
        let y := x.times power
        if y.isInfinite then none else some y
      else some (x.dividedBy power)
    else if x.isZero then some x
    else if 0 ≤ e then none
    else scaleTen fuel (x.dividedBy (.ofDecimal false 1 308)) (e + 308)

/-- The leading digits of a list that keep a number within sixty-four bits: the number, how many
digits it took, and the digits left. -/
def absorb (n : Nat) (taken : Nat) : List Char → Nat × Nat × List Char
  | [] => (n, taken, [])
  | c :: cs =>
    let m := n * 10 + (c.toNat - '0'.toNat)
    if m ≤ wordMax then absorb m (taken + 1) cs else (n, taken, c :: cs)

/-- A number as written: sign, digits, the digits after a point, and an exponent with its sign. -/
structure Literal where
  negative : Bool
  whole : List Char
  places : Option (List Char)
  exponent : Option (Bool × List Char)

/-- The greatest exponent that is computed with. -/
def exponentMax : Nat := twoTo 31 - 1

namespace Literal

/-- The sign applied to the absolute value. -/
def signed (l : Literal) (x : Binary64) : Node :=
  .float { x with bits := if l.negative then x.bits ||| 0x8000000000000000 else x.bits }

/-- A significand scaled by a power of ten, with the sign. -/
def scaled (l : Literal) (n : Nat) (e : Int) : Node :=
  match scaleTen 4 (.ofRatio false n 1) e with
  | some x => l.signed x
  | none => .unreadable

/-- What a number stands for. -/
def node (l : Literal) : Node :=
  let (n, _, excess) := absorb 0 0 l.whole
  let before : Int := excess.length
  match l.places, l.exponent with
  | none, none =>
    if !excess.isEmpty then l.scaled n before
    else if !l.negative then .integer n
    else if n = 0 || twoTo 63 < n then l.signed (.ofRatio false n 1)
    else .integer (-n)
  | places, exponent =>
    let (n, taken, _) := absorb n 0 (places.getD [])
    let start := before - taken
    match exponent with
    | none => l.scaled n start
    | some (down, digits) =>
      let e := digits.foldl (fun e c => e * 10 + (c.toNat - '0'.toNat)) 0
      if e ≤ exponentMax then l.scaled n (if down then start - e else start + e)
      else if n = 0 || down then l.signed (.ofMagnitude false 0)
      else .unreadable

end Literal

end DeepCopy.Json
