import DeepCopy.Yaml.Cursor
import DeepCopy.Yaml.Scalar

/-!
# Writing YAML text

A tree as YAML text in block style: a field on each line, lists level with their key, and no line
folded. A text is written plain when it would be read back as a text and nothing in it needs
quotes; a text with line breaks is a literal block where it can be one.

## Main definitions

* `Shape`: what in a text decides how it can be written
* `styleOf`: the style a text is written in
* `write`: a tree as YAML text
-/

namespace DeepCopy.Yaml

open Document (Tree)

/-- Characters that may stand in a text without an escape. -/
def isWritable (c : Char) : Bool :=
  let n := c.toNat
  c == '\n' || 0x20 ≤ n && n ≤ 0x7E || 0xA0 ≤ n && n ≠ 0xFEFF && n ≠ 0xFFFE && n ≠ 0xFFFF

/-- A character that starts something else than a plain scalar in a block. -/
def opensMarkup (c : Char) : Bool :=
  "#,[]\x7b\x7d&*!|>'\"%@\x60".toList.contains c

/-- Whether some place of a text after its first character reads as markup: a colon that ends a
word, or a number sign that starts one. -/
def hasMarkup : List Char → Bool
  | [] => false
  | [_] => false
  | before :: c :: rest =>
    c == ':' && endsWord rest.head? || c == '#' && endsWord (some before) ||
      hasMarkup (c :: rest)

/-- Whether a text reads as markup where a block scalar may stand. -/
def readsAsMarkup : List Char → Bool
  | [] => false
  | c :: rest =>
    opensMarkup c || (c == '?' || c == ':' || c == '-') && endsWord rest.head? ||
      (c == '-' || c == '.') && rest.take 2 == [c, c] || hasMarkup (c :: rest)

/-- Whether a character of one kind stands right before one of another. -/
def hasPair (p q : Char → Bool) : List Char → Bool
  | a :: b :: rest => p a && q b || hasPair p q (b :: rest)
  | _ => false

/-- The style of a text when it stands as a value of a block. -/
inductive Style where
  | plain
  | singleQuoted
  | doubleQuoted
  | literal
  deriving DecidableEq

/-- Whether a text may be written at all without escapes. -/
def isWritableText (cs : List Char) : Bool :=
  cs.all isWritable && !hasPair (· == ' ') isBreak cs

/-- The style a text is written in. -/
def styleOf (s : String) : Style :=
  let cs := s.toList
  let spaceLast := cs.getLast? == some ' '
  -- A text of several lines is a block where nothing in it needs an escape.
  if cs.contains '\n' then
    if isWritableText cs && !spaceLast then .literal else .doubleQuoted
  else
    -- A text that would be read back as something else, or as another text, needs quotes.
    let isText := match plainNode s with
      | .text _ => !isPaddedNumber s
      | _ => false
    let edged := cs.head?.any (fun c => c == ' ' || isBreak c) || spaceLast
    if isText && isWritableText cs && !edged && !cs.any isBreak && !readsAsMarkup cs then .plain
    else if isWritableText cs && !hasPair isBreak (· == ' ') cs then .singleQuoted
    else .doubleQuoted

/-- The short escape of a character. -/
def shortEscape? (c : Char) : Option Char :=
  match c with
  | '\x00' => some '0'
  | '\x07' => some 'a'
  | '\x08' => some 'b'
  | '\t' => some 't'
  | '\n' => some 'n'
  | '\x0b' => some 'v'
  | '\x0c' => some 'f'
  | '\r' => some 'r'
  | '\x1b' => some 'e'
  | '"' => some '"'
  | '\\' => some '\\'
  | '\u0085' => some 'N'
  | '\u2028' => some 'L'
  | '\u2029' => some 'P'
  | _ => none

/-- A number in base sixteen, in upper case, with leading zeros up to a width. -/
def upperHex (width n : Nat) : List Char :=
  let ds := (Nat.toDigits 16 n).map Char.toUpper
  List.replicate (width - ds.length) '0' ++ ds

/-- A character between double quotes. -/
def escape (c : Char) : List Char :=
  match shortEscape? c with
  | some e => ['\\', e]
  | none =>
    if isWritable c then [c]
    else if c.toNat ≤ 0xFF then ['\\', 'x'] ++ upperHex 2 c.toNat
    else if c.toNat ≤ 0xFFFF then ['\\', 'u'] ++ upperHex 4 c.toNat
    else ['\\', 'U'] ++ upperHex 8 c.toNat

/-- A text between single quotes: quotes are doubled, and what follows a break is indented. -/
def singleQuoted (indent : Nat) : Bool → List Char → List Char
  | afterBreak, [] => if afterBreak then List.replicate indent ' ' else []
  | afterBreak, c :: cs =>
    if isBreak c then c :: singleQuoted indent true cs
    else
      let lead := if afterBreak then List.replicate indent ' ' else []
      lead ++ (if c == '\'' then ['\'', '\''] else [c]) ++ singleQuoted indent false cs

/-- The lines of a literal block, those that are not empty indented. -/
def literalLines (indent : Nat) : Bool → List Char → List Char
  | _, [] => []
  | atStart, c :: cs =>
    if isBreak c then c :: literalLines indent true cs
    else
      let lead := if atStart then List.replicate indent ' ' else []
      lead ++ c :: literalLines indent false cs

/-- What a literal block says about the line breaks at its end. -/
def chomping (cs : List Char) : List Char :=
  match cs.reverse with
  | [] => ['-']
  | [c] => if isBreak c then ['+'] else ['-']
  | c :: d :: _ => if !isBreak c then ['-'] else if isBreak d then ['+'] else []

/-- A literal block: its header, and its lines indented. -/
def literalBlock (indent : Nat) (cs : List Char) : List Char :=
  -- Blanks at the start would be taken for indentation, so the header states it.
  let hint := if cs.head?.any (fun c => c == ' ' || isBreak c) then ['2'] else []
  let closing := if cs.getLast?.any isBreak then [] else ['\n']
  '|' :: hint ++ chomping cs ++ '\n' :: literalLines indent true cs ++ closing

/-- A text as a value inside a block of some indentation, up to the end of its last line. -/
def writeText (indent : Nat) (s : String) : String :=
  let cs := s.toList
  String.ofList <|
    match styleOf s with
    | .plain => cs ++ ['\n']
    | .singleQuoted => '\'' :: singleQuoted (indent + 2) false cs ++ ['\'', '\n']
    | .doubleQuoted => '"' :: cs.flatMap escape ++ ['"', '\n']
    | .literal => literalBlock (indent + 2) cs

/-- Blanks at the start of a line. -/
def margin (indent : Nat) : String :=
  "".pushn ' ' indent

mutual

/-- A content after the colon of its key, inside a block of some indentation. -/
def writeValue (indent : Nat) : Tree → String
  | .null => " null\n"
  | .bool b => if b then " true\n" else " false\n"
  | .integer n => " " ++ toString n ++ "\n"
  | .text s => " " ++ writeText indent s
  | .list [] => " []\n"
  | .list items => "\n" ++ writeItems indent items
  | .record [] => " \x7b\x7d\n"
  | .record fields => "\n" ++ writeFields (indent + 2) fields

/-- The items of a list, each after a dash. -/
def writeItems (indent : Nat) : List Tree → String
  | [] => ""
  | t :: ts => margin indent ++ "-" ++ writeItem indent t ++ writeItems indent ts

/-- An item after its dash; a record starts on the same line. -/
def writeItem (indent : Nat) : Tree → String
  | .null => " null\n"
  | .bool b => if b then " true\n" else " false\n"
  | .integer n => " " ++ toString n ++ "\n"
  | .text s => " " ++ writeText indent s
  | .list [] => " []\n"
  | .list (t :: ts) => " -" ++ writeItem (indent + 2) t ++ writeItems (indent + 2) ts
  | .record [] => " \x7b\x7d\n"
  | .record ((name, t) :: fs) =>
    " " ++ name ++ ":" ++ writeValue (indent + 2) t ++ writeFields (indent + 2) fs

/-- The fields of a record, each on a line of its own. The names of fields need no quotes. -/
def writeFields (indent : Nat) : List (String × Tree) → String
  | [] => ""
  | (name, t) :: fs => margin indent ++ name ++ ":" ++ writeValue indent t ++ writeFields indent fs

end

/-- A document that holds a record. -/
def write : Tree → String
  | .record (f :: fs) => writeFields 0 (f :: fs)
  | .list (t :: ts) => writeItems 0 (t :: ts)
  | t => String.ofList ((writeValue 0 t).toList.drop 1)

end DeepCopy.Yaml
