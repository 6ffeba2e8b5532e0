import DeepCopy.Json.Number
import DeepCopy.Text.Hex
import DeepCopy.Text.Units

/-!
# Reading JSON text

`read` takes a JSON text apart. Where the text goes wrong the node is broken and nothing after it
is looked at; what stands before it is kept. Text that is well formed but has no value (half of a
surrogate pair, a number beyond the range) is unreadable.
-/

namespace DeepCopy.Json

open Document (Node Parsed)
open Text (TextUnit hexNumber? joinUnits?)

/-- Blanks between tokens. -/
def isBlank (c : Char) : Bool :=
  c == ' ' || c == '\n' || c == '\t' || c == '\r'

/-- The text after blanks. -/
def skipBlanks (cs : List Char) : List Char :=
  cs.dropWhile isBlank

/-- The character of a short escape. -/
def shortEscape? (c : Char) : Option Char :=
  match c with
  | '"' => some '"'
  | '\\' => some '\\'
  | '/' => some '/'
  | 'b' => some '\x08'
  | 'f' => some '\x0c'
  | 'n' => some '\n'
  | 'r' => some '\r'
  | 't' => some '\t'
  | _ => none

/-- The units of a text up to its closing quote, and what follows it. -/
def units? : List Char → Option (List TextUnit × List Char)
  | [] => none
  | '"' :: cs => some ([], cs)
  | '\\' :: 'u' :: a :: b :: c :: d :: cs => do
    let n ← hexNumber? [a, b, c, d]
    let (us, rest) ← units? cs
    return (.ofNat n :: us, rest)
  | '\\' :: e :: cs => do
    let c ← shortEscape? e
    let (us, rest) ← units? cs
    return (.char c :: us, rest)
  | c :: cs =>
    if c.toNat < 0x20 || c == '\\' then none
    else do
      let (us, rest) ← units? cs
      return (.char c :: us, rest)

/-- A text after its opening quote, and what follows it. -/
def text? (cs : List Char) : Option (Node × List Char) := do
  let (us, rest) ← units? cs
  match joinUnits? us with
  | some chars => return (.text (String.ofList chars), rest)
  | none => return (.unreadable, rest)

/-- The digits a text starts with, of which there is one at least, and what follows them. -/
def digits? (cs : List Char) : Option (List Char × List Char) :=
  let ds := cs.takeWhile Char.isDigit
  if ds.isEmpty then none else some (ds, cs.dropWhile Char.isDigit)

/-- A number after its sign, and what follows it. -/
def number? (negative : Bool) (cs : List Char) : Option (Node × List Char) := do
  let (whole, rest) ← digits? cs
  -- A zero is followed by no other digit before the point.
  if whole.head? = some '0' && whole.length ≠ 1 then none
  let (places, rest) ←
    match rest with
    | '.' :: r => do
      let (ds, r) ← digits? r
      pure (some ds, r)
    | r => pure (none, r)
  let signedDigits (r : List Char) : Option ((Bool × List Char) × List Char) :=
    match r with
    | '+' :: r => (digits? r).map fun (ds, r) => ((false, ds), r)
    | '-' :: r => (digits? r).map fun (ds, r) => ((true, ds), r)
    | r => (digits? r).map fun (ds, r) => ((false, ds), r)
  let (exponent, rest) ←
    match rest with
    | e :: r =>
      if e == 'e' || e == 'E' then do
        let (ds, r) ← signedDigits r
        pure (some ds, r)
      else pure (none, e :: r)
    | [] => pure (none, [])
  return (Literal.node ⟨negative, whole, places, exponent⟩, rest)

/-- A content that is not a container, and what follows it. -/
def simple? : List Char → Option (Node × List Char)
  | '"' :: cs => text? cs
  | 't' :: 'r' :: 'u' :: 'e' :: cs => some (.bool true, cs)
  | 'f' :: 'a' :: 'l' :: 's' :: 'e' :: cs => some (.bool false, cs)
  | 'n' :: 'u' :: 'l' :: 'l' :: cs => some (.null, cs)
  | '-' :: cs => number? true cs
  | cs => number? false cs

mutual

/-- A content, and what follows it unless the text goes wrong. -/
def content : Nat → List Char → Node × Option (List Char)
  | 0, _ => (.broken, none)
  | fuel + 1, cs =>
    match skipBlanks cs with
    | '[' :: rest =>
      match skipBlanks rest with
      | ']' :: rest => (.list [], some rest)
      | rest =>
        let (items, rest?) := items fuel rest
        (.list items, rest?)
    | '\x7b' :: rest =>
      match skipBlanks rest with
      | '\x7d' :: rest => (.record [], some rest)
      | rest =>
        let (entries, rest?) := entries fuel rest
        (.record entries, rest?)
    | rest =>
      match simple? rest with
      | some (n, rest) => (n, some rest)
      | none => (.broken, none)

/-- The items of a list up to its end. -/
def items : Nat → List Char → List Node × Option (List Char)
  | 0, _ => ([.broken], none)
  | fuel + 1, cs =>
    match content fuel cs with
    | (n, none) => ([n], none)
    | (n, some rest) =>
      match skipBlanks rest with
      | ']' :: rest => ([n], some rest)
      | ',' :: rest =>
        let (ns, rest?) := items fuel rest
        (n :: ns, rest?)
      | _ => ([n, .broken], none)

/-- The entries of a record up to its end. -/
def entries : Nat → List Char → List (Node × Node) × Option (List Char)
  | 0, _ => ([(.broken, .broken)], none)
  | fuel + 1, cs =>
    match skipBlanks cs with
    | '"' :: rest =>
      match text? rest with
      | none => ([(.broken, .broken)], none)
      | some (key, rest) =>
        match skipBlanks rest with
        | ':' :: rest =>
          match content fuel rest with
          | (n, none) => ([(key, n)], none)
          | (n, some rest) =>
            match skipBlanks rest with
            | '\x7d' :: rest => ([(key, n)], some rest)
            | ',' :: rest =>
              let (es, rest?) := entries fuel rest
              ((key, n) :: es, rest?)
            | _ => ([(key, n), (.broken, .broken)], none)
        | _ => ([(key, .broken)], none)
    | _ => ([(.broken, .broken)], none)

end

/-- A JSON text taken apart. -/
def read (text : String) : Parsed :=
  let cs := text.toList
  let (root, rest?) := content (cs.length + 1) cs
  let complete :=
    match rest? with
    | some rest => (skipBlanks rest).isEmpty
    | none => false
  ⟨root, [], complete⟩

end DeepCopy.Json
