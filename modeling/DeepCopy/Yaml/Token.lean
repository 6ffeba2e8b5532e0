import DeepCopy.Yaml.Lexeme

/-!
# The tokens of a YAML text

A text is cut into marks, names, tags, directives and scalars; the indentation of blocks becomes
tokens too. A node at the start of a line may turn out to be the key of a mapping only when the
colon after it is found, so the token of a key is put in front of tokens that are already there,
and a token is handed on only when it can no longer become a key.

## Main definitions

* `Token`: the tokens
* `Scanner`: the state between two tokens
* `Scanner.fetch?`: the step that adds the next token
* `tokens`: the tokens of a text that are handed on before the text ends or goes wrong
-/

namespace DeepCopy.Yaml

open Document (ScalarStyle)

/-- The tokens of a YAML text. -/
inductive Token where
  | textEnd
  | directive (directive : Directive)
  | documentStart
  | documentEnd
  | blockSequence
  | blockMapping
  | blockEnd
  | flowSequence
  | flowSequenceEnd
  | flowMapping
  | flowMappingEnd
  | dash
  | comma
  | key
  | colon
  | alias (name : String)
  | anchor (name : String)
  | tag (handle suffix : String)
  | scalar (style : ScalarStyle) (text : String)

/-- A node that may turn out to be a key: the number of its first token, where it starts, and
whether it cannot be anything else. -/
structure PossibleKey where
  token : Nat
  index : Nat
  line : Nat
  column : Nat
  required : Bool

/-- The state between two tokens. -/
structure Scanner where
  place : Cursor
  /-- The indentation of the block around the place, and of the blocks around that one. -/
  indent : Int
  outer : List Int
  /-- The possible key of the innermost flow collection, and of the collections around it. -/
  keys : List (Option PossibleKey)
  /-- Whether a key may start at the place. -/
  keyAllowed : Bool
  /-- The tokens not yet handed on, and the number of those that are. -/
  waiting : List Token
  taken : Nat
  /-- The end of the text is among the tokens. -/
  ended : Bool

namespace Scanner

/-- The state at the start of a text. -/
def start (cs : List Char) : Scanner := ⟨.start cs, -1, [], [none], true, [], 0, false⟩

/-- Whether the place is inside a flow collection. -/
def inFlow (s : Scanner) : Bool := 1 < s.keys.length

/-- The column of the place. -/
def column (s : Scanner) : Int := s.place.column

/-- A token at the end of those that wait. -/
def push (s : Scanner) (t : Token) : Scanner := { s with waiting := s.waiting ++ [t] }

/-- A token put in front of the waiting token with a number. -/
def insert (s : Scanner) (number : Nat) (t : Token) : Scanner :=
  let i := number - s.taken
  { s with waiting := s.waiting.take i ++ t :: s.waiting.drop i }

/-- The place some characters on. -/
def skip (s : Scanner) (n : Nat) : Scanner := { s with place := s.place.skip n }

/-- The possible key of the innermost flow collection. -/
def key? (s : Scanner) : Option PossibleKey := s.keys.head?.join

/-- Another possible key of the innermost flow collection. -/
def setKey (s : Scanner) (k : Option PossibleKey) : Scanner :=
  { s with keys := k :: s.keys.drop 1 }

/-- No possible key any more; one that had to be a key is an error. -/
def dropKey? (s : Scanner) : Option Scanner :=
  if s.key?.any (·.required) then none else some (s.setKey none)

/-- The node at the place as a possible key, where keys are allowed. -/
def noteKey? (s : Scanner) : Option Scanner :=
  if s.keyAllowed then
    let required := !s.inFlow && s.indent == s.column
    let key : PossibleKey :=
      ⟨s.taken + s.waiting.length, s.place.index, s.place.line, s.place.column, required⟩
    (·.setKey (some key)) <$> s.dropKey?
  else some s

/-- Whether a possible key is too far back: a key stands on one line and is at most 1024
characters long. -/
def isStale (s : Scanner) (k : PossibleKey) : Bool :=
  k.line < s.place.line || k.index + 1024 < s.place.index

/-- The state without possible keys that are too far back; one that had to be a key is an
error. -/
def dropStale? (s : Scanner) : Option Scanner :=
  if s.keys.any (·.any fun k => k.required && s.isStale k) then none
  else some { s with keys := s.keys.map (·.filter (!s.isStale ·)) }

/-- A block at a column deeper than the one around it: its token stands at the end, or in front of
the token with a number. -/
def openBlock (s : Scanner) (column : Int) (number : Option Nat) (t : Token) : Scanner :=
  if !s.inFlow && s.indent < column then
    let s := { s with outer := s.indent :: s.outer, indent := column }
    match number with
    | some n => s.insert n t
    | none => s.push t
  else s

/-- The ends of blocks deeper than a column, from the innermost. -/
def closeBlocksFrom (column indent : Int) : List Int → List Token × Int × List Int
  | [] => ([], indent, [])
  | i :: outer =>
    if column < indent then
      let (ts, rest) := closeBlocksFrom column i outer
      (.blockEnd :: ts, rest)
    else ([], indent, i :: outer)

/-- The ends of blocks deeper than a column. -/
def closeBlocks (s : Scanner) (column : Int) : Scanner :=
  if s.inFlow then s
  else
    let (ends, indent, outer) := closeBlocksFrom column s.indent s.outer
    { s with waiting := s.waiting ++ ends, indent := indent, outer := outer }

/-- The place after blanks, comments and breaks. In a block a new line may start a key, and a tab
counts as a blank only where no key may start. -/
def skipSpace : Nat → Scanner → Scanner
  | 0, s => s
  | fuel + 1, s =>
    -- A byte order mark counts as a blank at the very start only.
    let c := if s.place.index == 0 && s.place.sees '\ufeff' then s.place.next else s.place
    let c := c.skipWhile fun x => x == ' ' || (s.inFlow || !s.keyAllowed) && x == '\t'
    let c := if c.sees '#' then c.skipWhile (!isBreak ·) else c
    if c.atBreak then
      skipSpace fuel { s with place := c.skipBreak, keyAllowed := s.keyAllowed || !s.inFlow }
    else { s with place := c }

/-- A single mark that ends what came before it. -/
def mark? (s : Scanner) (t : Token) (width : Nat) (keyAllowed : Bool) : Option Scanner := do
  let s ← s.dropKey?
  some ({ s with keyAllowed := keyAllowed }.skip width |>.push t)

/-- A mark or directive at the start of a line that ends all blocks. -/
def closeAll? (s : Scanner) : Option Scanner := do
  let s ← (s.closeBlocks (-1)).dropKey?
  some { s with keyAllowed := false }

/-- The end of the text, which also ends its last line. -/
def fetchEnd? (s : Scanner) : Option Scanner := do
  let s ← s.closeAll?
  let c := s.place
  let place := if c.column = 0 then c else { c with line := c.line + 1, column := 0 }
  some { s.push .textEnd with place := place, ended := true }

/-- A mark of a block: a dash or a question mark. It needs a place where a key may start. -/
def fetchBlockMark? (s : Scanner) (block mark : Token) (keyAllowed : Bool) : Option Scanner :=
  if !s.inFlow && !s.keyAllowed then none
  else (s.openBlock s.column none block).mark? mark 1 keyAllowed

/-- A colon: it makes the possible key a key, or follows an explicit key. -/
def fetchColon? (s : Scanner) : Option Scanner := do
  let s ←
    match s.key? with
    | some k =>
      -- The key token goes in front of the node, and the block token in front of both.
      let s := (s.insert k.token .key).openBlock k.column (some k.token) .blockMapping
      some { s.setKey none with keyAllowed := false }
    | none =>
      -- There is no possible key: an explicit key came before, or the key is empty.
      if !s.inFlow && !s.keyAllowed then none
      else
        let s := s.openBlock s.column none .blockMapping
        some { s with keyAllowed := !s.inFlow }
  some ((s.skip 1).push .colon)

/-- A part of a node that may start a key. -/
def fetchPart? (s : Scanner) (part : Cursor → Option (Token × Cursor)) : Option Scanner := do
  let s ← s.noteKey?
  let (t, place) ← part s.place
  some ({ s with keyAllowed := false, place := place }.push t)

/-- A plain scalar. A line that ends after it may start a key. -/
def fetchPlain? (s : Scanner) : Option Scanner := do
  let s ← s.noteKey?
  let (text, place, ended) ← plain? s.inFlow (s.indent + 1).toNat s.place
  some ({ s with keyAllowed := ended, place := place }.push (.scalar .plain text))

/-- A block scalar. -/
def fetchBlockScalar? (s : Scanner) (literal : Bool) : Option Scanner := do
  let s ← s.dropKey?
  let (text, place) ← block? literal s.indent s.place
  let style := if literal then .literal else .folded
  some ({ s with keyAllowed := true, place := place }.push (.scalar style text))

/-- The start of a flow collection. -/
def fetchOpen? (s : Scanner) (t : Token) : Option Scanner := do
  let s ← s.noteKey?
  some ({ s with keys := none :: s.keys, keyAllowed := true }.skip 1 |>.push t)

/-- The end of a flow collection. -/
def fetchClose? (s : Scanner) (t : Token) : Option Scanner := do
  let s ← s.dropKey?
  let keys := if s.inFlow then s.keys.drop 1 else s.keys
  some ({ s with keys := keys, keyAllowed := false }.skip 1 |>.push t)

/-- Whether a plain scalar may start with the character at a place. -/
def startsPlain (s : Scanner) (x : Char) : Bool :=
  let next := s.place.ahead? 1
  if x == '-' then !next.any isBlank
  else if x == '?' || x == ':' then !s.inFlow && !endsWord next
  else !(endsWord (some x) || ",[]\x7b\x7d#&*!|>'\"%@\x60".toList.contains x)

/-- The token at the place, by its first character. -/
def fetchAt? (s : Scanner) (x : Char) : Option Scanner :=
  let next := s.place.ahead? 1
  let atMark := s.place.atDocumentMark
  if s.column == 0 && x == '%' then do
    let s ← s.closeAll?
    let (d, place) ← directive? s.place
    some ({ s with place := place }.push (.directive d))
  else if atMark then do
    let s ← s.closeAll?
    some ((s.skip 3).push (if x == '-' then .documentStart else .documentEnd))
  else if x == '[' then s.fetchOpen? .flowSequence
  else if x == '\x7b' then s.fetchOpen? .flowMapping
  else if x == ']' then s.fetchClose? .flowSequenceEnd
  else if x == '\x7d' then s.fetchClose? .flowMappingEnd
  else if x == ',' then s.mark? .comma 1 true
  else if x == '-' && endsWord next then s.fetchBlockMark? .blockSequence .dash true
  else if x == '?' && (s.inFlow || endsWord next) then
    s.fetchBlockMark? .blockMapping .key (!s.inFlow)
  else if x == ':' && (s.inFlow || endsWord next) then s.fetchColon?
  else if x == '*' then
    s.fetchPart? fun c => do
      let (name, c) ← name? c
      some (.alias name, c)
  else if x == '&' then
    s.fetchPart? fun c => do
      let (name, c) ← name? c
      some (.anchor name, c)
  else if x == '!' then
    s.fetchPart? fun c => do
      let ((handle, suffix), c) ← tag? s.inFlow c
      some (.tag handle suffix, c)
  else if x == '|' && !s.inFlow then s.fetchBlockScalar? true
  else if x == '>' && !s.inFlow then s.fetchBlockScalar? false
  else if x == '\'' then
    s.fetchPart? fun c => do
      let (text, c) ← quoted? false c
      some (.scalar .singleQuoted text, c)
  else if x == '"' then
    s.fetchPart? fun c => do
      let (text, c) ← quoted? true c
      some (.scalar .doubleQuoted text, c)
  else if s.startsPlain x then s.fetchPlain?
  else none

/-- The state with the next token, or with the end of the text. -/
def fetch? (s : Scanner) : Option Scanner := do
  let s ← (s.skipSpace (s.place.rest.length + 1)).dropStale?
  -- What stands further left than the blocks around it ends them, whatever it is.
  let s := s.closeBlocks s.column
  match s.place.head? with
  | none => s.fetchEnd?
  | some x => s.fetchAt? x

/-- Whether the first waiting token may still get a key in front of it. -/
def isUndecided (s : Scanner) : Bool :=
  s.keys.any (·.any (·.token == s.taken))

/-- The tokens handed on before the text ends or goes wrong. -/
def run : Nat → Scanner → List Token
  | 0, _ => []
  | fuel + 1, s =>
    match s.waiting with
    | [] => if s.ended then [] else
      match s.fetch? with
      | some s => run fuel s
      | none => []
    | t :: ts =>
      match s.dropStale? with
      | none => []
      | some s =>
        -- A first token that may become a key waits until that is settled.
        if s.isUndecided then
          match s.fetch? with
          | some s => run fuel s
          | none => []
        else t :: run fuel { s with waiting := ts, taken := s.taken + 1 }

end Scanner

/-- The tokens of a text, up to its end or to the place where it goes wrong. -/
def tokens (cs : List Char) : List Token :=
  -- Every character gives a few tokens at most, and every token takes two steps.
  Scanner.run (8 * (cs.length + 4)) (.start cs)

end DeepCopy.Yaml
