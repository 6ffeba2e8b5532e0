/-!
# Places in a YAML text

A `Cursor` is a place in a text: what is left of it, and the index, line and column of the place.
The module also names the classes of characters that the marks of YAML depend on.
-/

namespace DeepCopy.Yaml

/-- Line breaks, the separators for lines and paragraphs included. -/
def isBreak (c : Char) : Bool :=
  c == '\n' || c == '\r' || c == '\u0085' || c == '\u2028' || c == '\u2029'

/-- Spaces and tabs. -/
def isBlank (c : Char) : Bool :=
  c == ' ' || c == '\t'

/-- Blanks and breaks, and the end of a text. -/
def endsWord : Option Char → Bool
  | none => true
  | some c => isBlank c || isBreak c

/-- The characters of names: ASCII letters, digits, the underscore and the hyphen. -/
def isNameChar (c : Char) : Bool :=
  c.isAlphanum || c == '_' || c == '-'

/-- The characters a YAML text may consist of. -/
def isAllowed (c : Char) : Bool :=
  let n := c.toNat
  c == '\t' || c == '\n' || c == '\r' || 0x20 ≤ n && n ≤ 0x7E || n == 0x85 ||
    0xA0 ≤ n && n ≠ 0xFFFE && n ≠ 0xFFFF

/-- A place in a text. -/
structure Cursor where
  rest : List Char
  index : Nat
  line : Nat
  column : Nat

namespace Cursor

/-- The start of a text. -/
def start (cs : List Char) : Cursor := ⟨cs, 0, 0, 0⟩

/-- The character at the place. -/
def head? (c : Cursor) : Option Char := c.rest.head?

/-- The character some places on. -/
def ahead? (c : Cursor) (n : Nat) : Option Char := c.rest[n]?

/-- Whether a character stands at the place. -/
def sees (c : Cursor) (x : Char) : Bool := c.rest.head? == some x

/-- Whether a blank stands at the place. -/
def atBlank (c : Cursor) : Bool := c.rest.head?.any isBlank

/-- Whether a break stands at the place. -/
def atBreak (c : Cursor) : Bool := c.rest.head?.any isBreak

/-- Whether a break or the end of the text stands at the place. -/
def atLineEnd (c : Cursor) : Bool := c.rest.head?.all isBreak

/-- The place one character on. -/
def next (c : Cursor) : Cursor :=
  { c with rest := c.rest.tail, index := c.index + 1, column := c.column + 1 }

/-- The place some characters on, on the same line. -/
def skip (c : Cursor) (n : Nat) : Cursor :=
  { c with rest := c.rest.drop n, index := c.index + n, column := c.column + n }

/-- The place after the characters of a class, and those characters. -/
def span (c : Cursor) (p : Char → Bool) : List Char × Cursor :=
  let run := c.rest.takeWhile p
  (run, { c with
    rest := c.rest.dropWhile p, index := c.index + run.length, column := c.column + run.length })

/-- The place after the characters of a class. -/
def skipWhile (c : Cursor) (p : Char → Bool) : Cursor := (c.span p).2

/-- The break at the place, as it counts in a text, and the place after it: a carriage return
with a line feed is one break, and all breaks but the separators count as a line feed. -/
def readBreak (c : Cursor) : List Char × Cursor :=
  let after (n : Nat) (rest : List Char) : Cursor := ⟨rest, c.index + n, c.line + 1, 0⟩
  match c.rest with
  | '\r' :: '\n' :: rest => (['\n'], after 2 rest)
  | x :: rest =>
    if x == '\u2028' || x == '\u2029' then ([x], after 1 rest)
    else if isBreak x then (['\n'], after 1 rest)
    else ([], c)
  | [] => ([], c)

/-- The place after the break at the place. -/
def skipBreak (c : Cursor) : Cursor := c.readBreak.2

/-- The place after blanks, a comment and the break that ends the line, if nothing else stands on
the line. -/
def endLine? (c : Cursor) : Option Cursor :=
  let c := c.skipWhile isBlank
  let c := if c.sees '#' then c.skipWhile (!isBreak ·) else c
  if c.atLineEnd then some c.skipBreak else none

/-- Whether the mark of a document's start or end stands at the place. -/
def atDocumentMark (c : Cursor) : Bool :=
  c.column == 0 && (c.rest.take 3 == ['-', '-', '-'] || c.rest.take 3 == ['.', '.', '.']) &&
    endsWord (c.ahead? 3)

end Cursor

end DeepCopy.Yaml
