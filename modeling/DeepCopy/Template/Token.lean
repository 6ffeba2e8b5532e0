import DeepCopy.Text.Blank
import DeepCopy.Text.Hex
import DeepCopy.Text.Units

/-!
# The text of templates, taken apart

A template is text with three kinds of tags in it: what is written out stands between double
braces, what controls the writing between braces with a percent sign, and comments between braces
with a number sign. A control tag or a comment alone on its line leaves no trace of the line: the
blanks before it and the line end behind it are dropped.

## Main definitions

* `Token`: the words inside a tag
* `Segment`: a stretch of text or a tag
* `segments`: the segments of a template, or nothing where a tag is not well formed
-/

namespace DeepCopy.Template

/-- A word inside a tag. -/
inductive Token where
  | name (name : String)
  | text (text : String)
  /-- One of `.`, `|`, `,` and the round brackets. -/
  | mark (symbol : Char)
  deriving DecidableEq

/-- A stretch of text or a tag. -/
inductive Segment where
  | text (text : String)
  | output (tokens : List Token)
  | control (tokens : List Token)
  deriving DecidableEq

/-- Whether a name may start with a character. -/
def isNameStart (c : Char) : Bool := c.isAlpha || c = '_'

/-- Whether a name may go on with a character. -/
def isNamePart (c : Char) : Bool := c.isAlphanum || c = '_'

/-- The character that stands for itself or for another one behind a backslash. -/
def escapes : List (Char × Char) :=
  [('"', '"'), ('\'', '\''), ('\\', '\\'), ('/', '/'), ('b', '\x08'), ('f', '\x0c'), ('n', '\n'),
    ('r', '\r'), ('t', '\t')]

/-- The units of a text up to its closing quote, and what follows the quote. -/
def units? (quote : Char) : List Char → Option (List Text.TextUnit × List Char)
  | [] => none
  | '\\' :: 'u' :: a :: b :: c :: d :: cs => do
    let n ← Text.hexNumber? [a, b, c, d]
    let (us, rest) ← units? quote cs
    return (.ofNat n :: us, rest)
  | '\\' :: c :: cs => do
    let escaped ← escapes.lookup c
    let (us, rest) ← units? quote cs
    return (.char escaped :: us, rest)
  | c :: cs =>
    if c = quote then some ([], cs)
    else do
      let (us, rest) ← units? quote cs
      return (.char c :: us, rest)

/-- The text up to a closing quote, and what follows the quote. -/
def quoted? (quote : Char) (cs : List Char) : Option (List Char × List Char) := do
  let (us, rest) ← units? quote cs
  return (← Text.joinUnits? us, rest)

/-- The tokens up to the end of a tag, which is `close` and a brace, and what follows the tag. The
first number bounds the number of tokens and blanks. -/
def tokens (close : Char) : Nat → List Char → Option (List Token × List Char)
  | 0, _ => none
  | _, [] => none
  | fuel + 1, c :: cs =>
    let add (t : Token) (rest : List Char) : Option (List Token × List Char) := do
      let (ts, rest) ← tokens close fuel rest
      return (t :: ts, rest)
    -- The end of the tag is looked for before any token.
    if c = close && cs.head? = some '\x7d' then some ([], cs.tail)
    else if Text.isBlank c then tokens close fuel cs
    else if isNameStart c then
      add (.name (String.ofList (c :: cs.takeWhile isNamePart))) (cs.dropWhile isNamePart)
    else if c = '"' || c = '\'' then do
      let (text, rest) ← quoted? c cs
      add (.text (String.ofList text)) rest
    else if ['.', '|', ',', '(', ')'].contains c then add (.mark c) cs
    else none

/-- What follows the end of a comment. -/
def afterComment : List Char → Option (List Char)
  | [] => none
  | '#' :: '\x7d' :: cs => some cs
  | _ :: cs => afterComment cs

/-- What follows one line end, and whether there was one. -/
def afterLineEnd : List Char → Bool × List Char
  | '\r' :: '\n' :: cs => (true, cs)
  | '\r' :: cs => (true, cs)
  | '\n' :: cs => (true, cs)
  | cs => (false, cs)

/-- Whether a character ends a line. -/
def isLineEnd (c : Char) : Bool := c = '\n' || c = '\r'

/-- A text, backwards, without the blanks at its end if there are only blanks on the last line.
`fresh` says whether the text starts on a line that is blank so far. -/
def dropIndent (fresh : Bool) (text : List Char) : List Char :=
  let rest := text.dropWhile fun c => Text.isBlank c && !isLineEnd c
  match rest with
  | [] => if fresh then [] else text
  | c :: _ => if isLineEnd c then rest else text

/-- A stretch of text, backwards, before some segments. -/
def withText (text : List Char) (rest : List Segment) : List Segment :=
  if text.isEmpty then rest else .text (String.ofList text.reverse) :: rest

/-- The segments of a template, given the text since the last tag, backwards, and whether that text
starts on a blank line. The first number bounds the number of steps. -/
def segmentsFrom : Nat → Bool → List Char → List Char → Option (List Segment)
  | 0, _, _, _ => none
  | _, _, text, [] => some (withText text [])
  | fuel + 1, fresh, text, c :: cs =>
    match c, cs with
    | '\x7b', '\x7b' :: cs => do
      let (ts, rest) ← tokens '\x7d' (cs.length + 1) cs
      return withText text (.output ts :: (← segmentsFrom fuel false [] rest))
    | '\x7b', '%' :: cs => do
      let (ts, rest) ← tokens '%' (cs.length + 1) cs
      let (fresh', rest) := afterLineEnd rest
      return withText (dropIndent fresh text) (.control ts :: (← segmentsFrom fuel fresh' [] rest))
    | '\x7b', '#' :: cs => do
      let (fresh', rest) := afterLineEnd (← afterComment cs)
      return withText (dropIndent fresh text) (← segmentsFrom fuel fresh' [] rest)
    | c, cs => segmentsFrom fuel fresh (c :: text) cs

/-- A text without one line end at its end. -/
def dropLastLineEnd (text : List Char) : List Char :=
  match text.reverse with
  | '\n' :: '\r' :: cs => cs.reverse
  | '\n' :: cs => cs.reverse
  | '\r' :: cs => cs.reverse
  | _ => text

/-- The segments of a template; one line end at the end of the text does not count. -/
def segments (text : List Char) : Option (List Segment) :=
  let text := dropLastLineEnd text
  segmentsFrom (text.length + 1) true [] text

end DeepCopy.Template
