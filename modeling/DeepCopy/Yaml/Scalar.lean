import DeepCopy.Document.Fault
import DeepCopy.Text.Hex

/-!
# The type of a YAML scalar

A plain scalar is a null, a boolean, an integer or a floating-point number when it is written as
one, and a text otherwise; every other style is a text. The tags of the core schema ask for one of
these types.

## Main definitions

* `isNullWord`, `boolWord?`, `integer?`, `float?`: the written forms of each type
* `isPaddedNumber`: digits after a leading zero, which are a text
* `plainNode`: the content a plain scalar stands for
* `Scalar.content`: the content of a scalar as written
-/

namespace DeepCopy.Yaml

open Document (Scalar Node Fault)
open Number (Binary64 twoTo)

/-- The words for the null value; the empty scalar is one where it is plain. -/
def isNullWord (s : String) : Bool :=
  s == "null" || s == "Null" || s == "NULL" || s == "~"

/-- The words for a boolean. -/
def boolWord? (s : String) : Option Bool :=
  if s == "true" || s == "True" || s == "TRUE" then some true
  else if s == "false" || s == "False" || s == "FALSE" then some false
  else none

/-- A number written with at least one digit of a base, and nothing else. -/
def digits? (base : Nat) : List Char → Option Nat
  | [] => none
  | cs =>
    cs.foldl (fun n? c => do
      let n ← n?
      let d ← Text.hexValue? c
      if d < base then some (n * base + d) else none) (some 0)

/-- An optional sign, then a zero and more digits. -/
def isPaddedNumber (s : String) : Bool :=
  let rest :=
    match s.toList with
    | '-' :: cs => cs
    | '+' :: cs => cs
    | cs => cs
  match rest with
  | '0' :: c :: cs => (c :: cs).all Char.isDigit
  | _ => false

/-- A text that may start with a plus sign, without it. -/
def dropPlus : List Char → List Char
  | '+' :: cs => cs
  | cs => cs

/-- An integer without a sign: in base sixteen, eight or two after its mark, otherwise decimal. -/
def magnitude? (s : String) : Option Nat :=
  match dropPlus s.toList with
  | '0' :: 'x' :: cs => digits? 16 cs
  | '0' :: 'o' :: cs => digits? 8 cs
  | '0' :: 'b' :: cs => digits? 2 cs
  | cs => if isPaddedNumber s then none else digits? 10 cs

/-- The absolute value of an integer with a minus sign. -/
def negated? (s : String) : Option Nat :=
  match s.toList with
  | '-' :: '0' :: 'x' :: cs => digits? 16 cs
  | '-' :: '0' :: 'o' :: cs => digits? 8 cs
  | '-' :: '0' :: 'b' :: cs => digits? 2 cs
  | '-' :: cs => if isPaddedNumber s then none else digits? 10 cs
  | _ => none

/-- An integer of at most a hundred and twenty-eight bits. -/
def integer? (s : String) : Option Int :=
  match magnitude? s with
  | some n => if n < twoTo 128 then some n else none
  | none =>
    match negated? s with
    | some n => if n ≤ twoTo 127 then some (-n) else none
    | none => none

/-- The decimal digits a text starts with, and what follows them. -/
def spanDigits (cs : List Char) : List Char × List Char :=
  (cs.takeWhile Char.isDigit, cs.dropWhile Char.isDigit)

/-- The exponent at the end of a decimal; an absent one is zero. -/
def exponent? : List Char → Option Int
  | [] => some 0
  | e :: cs =>
    if e == 'e' || e == 'E' then
      match cs with
      | '-' :: ds => (digits? 10 ds).map fun n => -(n : Int)
      | '+' :: ds => (digits? 10 ds).map fun n => (n : Int)
      | ds => (digits? 10 ds).map fun n => (n : Int)
    else none

/-- A decimal with an optional minus sign: digits with an optional point among or beside them, and
an optional exponent. -/
def decimal? (cs : List Char) : Option Binary64 :=
  let (negative, cs) :=
    match cs with
    | '-' :: r => (true, r)
    | r => (false, r)
  let (whole, rest) := spanDigits cs
  let (places, rest) :=
    match rest with
    | '.' :: r => spanDigits r
    | r => ([], r)
  if whole.isEmpty && places.isEmpty then none
  else do
    let e ← exponent? rest
    let n ← digits? 10 (whole ++ places)
    some (.ofDecimal negative n (e - (places.length : Int)))

/-- The positive NaN. -/
def nan : Binary64 := .ofMagnitude false (Binary64.infinity + twoTo 51)

/-- A floating-point number: a decimal within the range of binary64, or one of the words for the
special values. -/
def float? (s : String) : Option Binary64 :=
  let unsigned := dropPlus s.toList
  let word := String.ofList unsigned
  -- A second sign after the plus sign makes a text of it.
  if s.startsWith "+" && (unsigned.head? == some '+' || unsigned.head? == some '-') then none
  else if word == ".inf" || word == ".Inf" || word == ".INF" then
    some (.ofMagnitude false Binary64.infinity)
  else if s == "-.inf" || s == "-.Inf" || s == "-.INF" then
    some (.ofMagnitude true Binary64.infinity)
  else if s == ".nan" || s == ".NaN" || s == ".NAN" then some nan
  else
    match decimal? unsigned with
    -- A decimal beyond the range is a text.
    | some x => if x.isFinite then some x else none
    | none => none

/-- What a plain scalar stands for. -/
def plainNode (s : String) : Node :=
  if s.isEmpty || isNullWord s then .null
  else
    match boolWord? s with
    | some b => .bool b
    | none =>
      match integer? s with
      | some n => .integer n
      | none =>
        if isPaddedNumber s then .text s
        else
          match float? s with
          | some x => .float x
          | none => .text s

/-- The tags of the core schema. -/
def coreTag (name : String) : String :=
  "tag:yaml.org,2002:" ++ name

/-- The name of an application's own tag; the bare mark is its own name. -/
def ownTag? : Option String → Option String
  | none => none
  | some tag =>
    match tag.toList with
    | ['!'] => some "!"
    | '!' :: name => some (String.ofList name)
    | _ => none

/-- What a scalar stands for, its tag left out of account. -/
def untaggedContent (s : Scalar) : Node :=
  if s.style = .plain then plainNode s.text else .text s.text

/-- What a scalar stands for. A tag of the core schema that its text does not fit is a fault. -/
def content (s : Scalar) : Except Fault Node :=
  let demand (n? : Option Node) (expected : String) : Except Fault Node :=
    match n? with
    | some n => .ok n
    | none => .error (.wrongValue (.text s.text) expected)
  match s.tag with
  | none => .ok (untaggedContent s)
  | some tag =>
    if tag = coreTag "bool" then demand ((boolWord? s.text).map .bool) "a boolean"
    else if tag = coreTag "int" then demand ((integer? s.text).map .integer) "an integer"
    else if tag = coreTag "float" then demand ((float? s.text).map .float) "a float"
    else if tag = coreTag "null" then
      demand (if isNullWord s.text then some .null else none) "null"
    else if tag.startsWith "!" then .ok (untaggedContent s)
    else .ok (.text s.text)

end DeepCopy.Yaml
