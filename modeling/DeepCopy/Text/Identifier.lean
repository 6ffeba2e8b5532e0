import DeepCopy.Text.Letters

/-!
# Identifiers

The identifiers a described type and its members may be called by: an optional `@`, then a letter,
a letter number or an underscore, then letters, digits, combining marks, connectors and format
characters.
-/

namespace DeepCopy.Text

/-- Letters and letter numbers. -/
def isLetter (c : Char) : Bool :=
  if c.toNat < 0x80 then c.isAlpha else letters.has c

/-- The characters an identifier may start with. -/
def isWordStart (c : Char) : Bool :=
  c == '_' || isLetter c

/-- The characters an identifier may go on with. -/
def isWordPart (c : Char) : Bool :=
  isWordStart c || if c.toNat < 0x80 then c.isDigit else continuers.has c

/-- A character that may start an identifier, then characters that may continue one. -/
def isWord : List Char → Bool
  | [] => false
  | c :: cs => isWordStart c && cs.all isWordPart

/-- A word, or a word after the mark `@`. -/
def isIdentifier (name : String) : Bool :=
  match name.toList with
  | '@' :: cs => isWord cs
  | cs => isWord cs

theorem isWordPart_of_isWordStart {c : Char} (h : isWordStart c = true) : isWordPart c = true := by
  simp [isWordPart, h]

end DeepCopy.Text
