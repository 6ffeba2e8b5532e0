import DeepCopy.Yaml.Cursor
import DeepCopy.Document.Node
import DeepCopy.Text.Hex

/-!
# Scalars, names and tags in a YAML text

The parts of a text between the marks: quoted, plain and block scalars with their lines folded,
and the names and tags in front of a node. Each reader gives what it read and the place after it,
or nothing where the text goes wrong. The number that a loop carries bounds its steps; the length
of the text is enough.

## Main definitions

* `Folding`: the text of a scalar read so far, with the blanks that may still belong to it
* `quoted?`, `plain?`, `block?`: scalars in each style
* `name?`, `tag?`, `directive?`: names, tags and directives
-/

namespace DeepCopy.Yaml

open Document (ScalarStyle)
open Text (hexNumber?)

/-- The text of a scalar read so far, backwards, and the blanks and breaks after it, which belong
to it only if something follows them. -/
structure Folding where
  text : List Char
  /-- Blanks on the line of the text, backwards. -/
  blanks : List Char
  /-- The first break after the text. -/
  first : List Char
  /-- The breaks after the first, backwards. -/
  more : List Char
  /-- The line of the text has ended. -/
  broken : Bool

namespace Folding

/-- Nothing read yet. -/
def empty : Folding := ⟨[], [], [], [], false⟩

/-- A character that follows the text at once. -/
def push (f : Folding) (c : Char) : Folding := { f with text := c :: f.text }

/-- The text with the blanks after it: a single line feed counts as a space, and in front of more
breaks it is dropped. -/
def join (f : Folding) : Folding :=
  let text :=
    if f.broken then
      -- A separator of lines or paragraphs is kept even where a line feed would be folded.
      if f.first == ['\n'] then if f.more.isEmpty then ' ' :: f.text else f.more ++ f.text
      else f.more ++ f.first.reverse ++ f.text
    else f.blanks ++ f.text
  { Folding.empty with text := text }

/-- A blank after the text; blanks at the start of a line are dropped. -/
def pushBlank (f : Folding) (c : Char) : Folding :=
  if f.broken then f else { f with blanks := c :: f.blanks }

/-- A break after the text. -/
def pushBreak (f : Folding) (b : List Char) : Folding :=
  if f.broken then { f with more := b.reverse ++ f.more }
  else { f with blanks := [], first := b, broken := true }

/-- The text of the scalar. -/
def result (f : Folding) : String := String.ofList f.text.reverse

end Folding

/-- The blanks and breaks at a place. A tab before column `indent` of a new line is refused. -/
def blanks? (indent : Nat) : Nat → Cursor → Folding → Option (Cursor × Folding)
  | 0, c, f => some (c, f)
  | fuel + 1, c, f =>
    match c.head? with
    | none => some (c, f)
    | some x =>
      if isBlank x then
        if f.broken && c.column < indent && x == '\t' then none
        else blanks? indent fuel c.next (f.pushBlank x)
      else if isBreak x then
        let (b, after) := c.readBreak
        blanks? indent fuel after (f.pushBreak b)
      else some (c, f)

/-! ## Quoted scalars -/

/-- The character of a short escape. -/
def escaped? (c : Char) : Option Char :=
  match c with
  | '0' => some '\x00'
  | 'a' => some '\x07'
  | 'b' => some '\x08'
  | 't' => some '\t'
  | '\t' => some '\t'
  | 'n' => some '\n'
  | 'v' => some '\x0b'
  | 'f' => some '\x0c'
  | 'r' => some '\r'
  | 'e' => some '\x1b'
  | ' ' => some ' '
  | '"' => some '"'
  | '/' => some '/'
  | '\\' => some '\\'
  | 'N' => some '\u0085'
  | '_' => some '\u00a0'
  | 'L' => some '\u2028'
  | 'P' => some '\u2029'
  | _ => none

/-- The number of digits of an escape that gives a code point. -/
def escapeWidth? (c : Char) : Option Nat :=
  match c with
  | 'x' => some 2
  | 'u' => some 4
  | 'U' => some 8
  | _ => none

/-- The character of an escape after its backslash, and the place after it. -/
def escape? (c : Cursor) : Option (Char × Cursor) := do
  let e ← c.head?
  match escapeWidth? e with
  | some width =>
    let digits := c.next.rest.take width
    let n ← hexNumber? digits
    if digits.length ≠ width || 0xD800 ≤ n && n < 0xE000 || 0x10FFFF < n then none
    else some (Char.ofNat n, c.skip (1 + width))
  | none => some (← escaped? e, c.next)

/-- The characters of a quoted scalar up to a blank, a break or the closing quote. An escaped break
ends the line. -/
def quotedWord? (double : Bool) : Nat → Cursor → Folding → Option (Cursor × Folding)
  | 0, _, _ => none
  | fuel + 1, c, f =>
    match c.rest with
    | [] => some (c, f)
    | x :: rest =>
      if isBlank x || isBreak x then some (c, f)
      else if !double && x == '\'' && rest.head? == some '\'' then
        quotedWord? double fuel (c.skip 2) (f.push '\'')
      else if x == (if double then '"' else '\'') then some (c, f)
      else if double && x == '\\' then
        -- An escaped break joins two lines without a space between them.
        if rest.head?.any isBreak then some (c.next.skipBreak, { f with broken := true })
        else
          match escape? c.next with
          | some (y, after) => quotedWord? double fuel after (f.push y)
          | none => none
      else quotedWord? double fuel c.next (f.push x)

/-- A quoted scalar after its opening quote. -/
def quotedLoop? (double : Bool) : Nat → Cursor → Folding → Option (String × Cursor)
  | 0, _, _ => none
  | fuel + 1, c, f =>
    if c.atDocumentMark || c.rest.isEmpty then none
    else do
      let (c, f) ← quotedWord? double (c.rest.length + 1) c f
      if c.sees (if double then '"' else '\'') then some (f.result, c.next)
      else
        let (c, f) ← blanks? 0 (c.rest.length + 1) c f
        quotedLoop? double fuel c f.join

/-- A quoted scalar at its opening quote. -/
def quoted? (double : Bool) (c : Cursor) : Option (String × Cursor) :=
  quotedLoop? double (c.rest.length + 1) c.next .empty

/-! ## Plain scalars -/

/-- The marks of flow collections that end a plain scalar inside one. -/
def endsFlowScalar (c : Char) : Bool :=
  c == ',' || c == '[' || c == ']' || c == '\x7b' || c == '\x7d'

/-- The characters of a plain scalar up to a blank, a break or a mark. Inside a flow collection a
colon right before another mark is refused. -/
def plainWord? (flow : Bool) : Nat → Cursor → Folding → Option (Cursor × Folding)
  | 0, _, _ => none
  | fuel + 1, c, f =>
    match c.rest with
    | [] => some (c, f)
    | x :: rest =>
      if isBlank x || isBreak x then some (c, f)
      else if flow && x == ':' && rest.head?.any (fun y => endsFlowScalar y || y == '?') then none
      else if x == ':' && endsWord rest.head? || flow && endsFlowScalar x then some (c, f)
      else plainWord? flow fuel c.next (f.join.push x)

/-- The lines of a plain scalar that stands deeper than `indent`. -/
def plainLoop? (flow : Bool) (indent : Nat) : Nat → Cursor → Folding → Option (Cursor × Folding)
  | 0, c, f => some (c, f)
  | fuel + 1, c, f =>
    if c.atDocumentMark || c.sees '#' then some (c, f)
    else do
      let (c, f) ← plainWord? flow (c.rest.length + 1) c f
      if !(c.atBlank || c.atBreak) then some (c, f)
      else
        let (c, f) ← blanks? indent (c.rest.length + 1) c f
        if !flow && c.column < indent then some (c, f) else plainLoop? flow indent fuel c f

/-- A plain scalar, the place after it and the blanks that follow, and whether a line has ended
since its text. -/
def plain? (flow : Bool) (indent : Nat) (c : Cursor) : Option (String × Cursor × Bool) := do
  let (c, f) ← plainLoop? flow indent (c.rest.length + 1) c .empty
  some (f.result, c, f.broken)

/-! ## Block scalars -/

/-- What becomes of the breaks at the end of a block scalar. -/
inductive Chomping where
  | strip
  | clip
  | keep
  deriving DecidableEq

/-- The header of a block scalar: its chomping and its indentation, if it states one. -/
def blockHeader? (c : Cursor) : Option (Chomping × Nat × Cursor) :=
  let chomp? (c : Cursor) : Option (Chomping × Cursor) :=
    match c.head? with
    | some '+' => some (.keep, c.next)
    | some '-' => some (.strip, c.next)
    | _ => none
  let digit? (c : Cursor) : Option (Option (Nat × Cursor)) :=
    match c.head? with
    | some d =>
      if d == '0' then none
      else if d.isDigit then some (some (d.toNat - '0'.toNat, c.next))
      else some none
    | none => some none
  match chomp? c with
  | some (chomping, c) => do
    match ← digit? c with
    | some (n, c) => some (chomping, n, c)
    | none => some (chomping, 0, c)
  | none => do
    match ← digit? c with
    | some (n, c) =>
      match chomp? c with
      | some (chomping, c) => some (chomping, n, c)
      | none => some (.clip, n, c)
    | none => some (.clip, 0, c)

/-- The empty lines at a place, as breaks backwards, up to the text at `indent`, with the greatest
column reached; an indentation of zero is still unknown. A tab in the indentation is refused. -/
def blockBreaks? (indent : Nat) : Nat → Cursor → List Char → Nat →
    Option (Cursor × List Char × Nat)
  | 0, c, breaks, greatest => some (c, breaks, greatest)
  | fuel + 1, c, breaks, greatest =>
    let room := if indent = 0 then c.rest.length else indent - c.column
    let spaces := ((c.rest.take room).takeWhile (· == ' ')).length
    let c := c.skip spaces
    let greatest := max greatest c.column
    if (indent == 0 || c.column < indent) && c.sees '\t' then none
    else if c.atBreak then
      let (b, after) := c.readBreak
      blockBreaks? indent fuel after (b.reverse ++ breaks) greatest
    else some (c, breaks, greatest)

/-- The lines of a block scalar: the text backwards, the break of its last line, and the empty
lines after it backwards. `led` says that the line before started with a blank. -/
def blockLines? (literal : Bool) (indent : Nat) : Nat → Cursor → (text first more : List Char) →
    (led : Bool) → Option (Cursor × List Char × List Char × List Char)
  | 0, c, text, first, more, _ => some (c, text, first, more)
  | fuel + 1, c, text, first, more, led =>
    if c.column ≠ indent || c.rest.isEmpty then some (c, text, first, more)
    else do
      let leads := c.atBlank
      -- Lines are folded only where neither of them starts with a blank.
      let text :=
        if !literal && first == ['\n'] && !led && !leads then
          if more.isEmpty then ' ' :: text else more ++ text
        else more ++ first.reverse ++ text
      let (line, c) := c.span (!isBreak ·)
      let (first, c) := c.readBreak
      let (c, more, _) ← blockBreaks? indent (c.rest.length + 1) c [] 0
      blockLines? literal indent fuel c (line.reverse ++ text) first more leads

/-- A block scalar at its mark, inside a block of some indentation. -/
def block? (literal : Bool) (outer : Int) (c : Cursor) : Option (String × Cursor) := do
  let (chomping, increment, c) ← blockHeader? c.next
  let c ← c.endLine?
  -- A stated indentation is relative to the block around the scalar.
  let known := if increment = 0 then 0 else (max outer 0).toNat + increment
  let (c, more, greatest) ← blockBreaks? known (c.rest.length + 1) c [] 0
  -- An indentation that is not stated is that of the first line with text, or of a longer blank
  -- line before it, and always deeper than the block around the scalar.
  let indent := if known = 0 then max (max greatest (outer + 1).toNat) 1 else known
  let (c, text, first, more) ← blockLines? literal indent (c.rest.length + 1) c [] [] more false
  let text := if chomping = .strip then text else first.reverse ++ text
  let text := if chomping = .keep then more ++ text else text
  some (String.ofList text.reverse, c)

/-! ## Names, tags and directives -/

/-- The name of an anchor or an alias after its mark. -/
def name? (c : Cursor) : Option (String × Cursor) :=
  let (name, after) := c.next.span isNameChar
  let ends := endsWord after.head? || after.head?.any "?:,]\x7d%@\x60".toList.contains
  if name.isEmpty || !ends then none else some (String.ofList name, after)

/-- The octets of an escaped character in a tag, the first one given. -/
def escapedOctets? : Nat → List Char → Option (List UInt8 × List Char)
  | 0, cs => some ([], cs)
  | k + 1, '%' :: a :: b :: cs => do
    let octet := UInt8.ofNat (← hexNumber? [a, b])
    let (octets, cs) ← escapedOctets? k cs
    some (octet :: octets, cs)
  | _, _ => none

/-- The number of octets of a character whose first octet is given. -/
def octetWidth? (o : UInt8) : Option Nat :=
  if o < 0x80 then some 1
  else if 0xC0 ≤ o && o < 0xE0 then some 2
  else if 0xE0 ≤ o && o < 0xF0 then some 3
  else if 0xF0 ≤ o && o < 0xF8 then some 4
  else none

/-- An escaped character in a tag, and what follows it. -/
def escapedChar? (cs : List Char) : Option (List Char × List Char) := do
  let (first, _) ← escapedOctets? 1 cs
  let width ← octetWidth? (first.headD 0)
  let (octets, rest) ← escapedOctets? width cs
  let text ← String.fromUTF8? ⟨octets.toArray⟩
  some (text.toList, rest)

/-- The characters of a tag besides those of names; a tag between angle brackets may hold the
marks of flow collections. -/
def isTagChar (verbatim : Bool) (c : Char) : Bool :=
  isNameChar c || ";/?:@&=+$.!~*'()%".toList.contains c ||
    verbatim && (c == ',' || c == '[' || c == ']')

/-- The characters of a tag, and how many characters of the text they take. -/
def tagChars? (verbatim : Bool) : Nat → List Char → Option (List Char × List Char)
  | 0, cs => some ([], cs)
  | fuel + 1, cs =>
    match cs with
    | [] => some ([], [])
    | c :: rest =>
      if !isTagChar verbatim c then some ([], c :: rest)
      else if c == '%' then do
        let (x, after) ← escapedChar? cs
        let (xs, after) ← tagChars? verbatim fuel after
        some (x ++ xs, after)
      else do
        let (xs, after) ← tagChars? verbatim fuel rest
        some (c :: xs, after)

/-- The rest of a tag, after a part that is known; it may be empty only after such a part. -/
def tagText? (verbatim : Bool) (known : List Char) (c : Cursor) : Option (String × Cursor) := do
  let (xs, after) ← tagChars? verbatim (c.rest.length + 1) c.rest
  if known.isEmpty && xs.isEmpty then none
  else some (String.ofList (known.drop 1 ++ xs), c.skip (c.rest.length - after.length))

/-- The handle a tag starts with: a mark, and perhaps a name and another mark. -/
def handle? (c : Cursor) : Option (List Char × Cursor) :=
  if !c.sees '!' then none
  else
    let (name, after) := c.next.span isNameChar
    if after.sees '!' then some ('!' :: name ++ ['!'], after.next) else some ('!' :: name, after)

/-- A tag at its mark: its handle and its suffix. A tag between angle brackets has no handle, and
the bare mark is a suffix without one. -/
def tag? (flow : Bool) (c : Cursor) : Option ((String × String) × Cursor) := do
  let (tag, c) ←
    if c.ahead? 1 == some '<' then do
      let (suffix, c) ← tagText? true [] (c.skip 2)
      if c.sees '>' then some (("", suffix), c.next) else none
    else do
      let (handle, after) ← handle? c
      if 2 ≤ handle.length && handle.getLast? == some '!' then
        let (suffix, after) ← tagText? false [] after
        some ((String.ofList handle, suffix), after)
      else
        -- The name did not end in a mark, so it belongs to the suffix.
        let (suffix, after) ← tagText? false handle after
        some (if suffix.isEmpty then ("", "!") else ("!", suffix), after)
  if endsWord c.head? || flow && c.sees ',' then some (tag, c) else none

/-- A directive: the version of the text, or the meaning of a handle. -/
inductive Directive where
  | version (major minor : Nat)
  | handle (name meaning : String)

/-- A number of at most nine digits. -/
def shortNumber? (c : Cursor) : Option (Nat × Cursor) :=
  let (ds, after) := c.span Char.isDigit
  if ds.isEmpty || 9 < ds.length then none
  else some (ds.foldl (fun n d => n * 10 + (d.toNat - '0'.toNat)) 0, after)

/-- A directive at its mark, up to the end of its line. -/
def directive? (c : Cursor) : Option (Directive × Cursor) := do
  let (name, c) := c.next.span isNameChar
  if name.isEmpty || !endsWord c.head? then none
  let c := c.skipWhile isBlank
  if name == ['Y', 'A', 'M', 'L'] then
    let (major, c) ← shortNumber? c
    if !c.sees '.' then none
    let (minor, c) ← shortNumber? c.next
    some (.version major minor, ← c.endLine?)
  else if name == ['T', 'A', 'G'] then
    let (handle, c) ← handle? c
    if !(handle == ['!'] || handle.getLast? == some '!') || !c.atBlank then none
    let (meaning, c) ← tagText? true [] (c.skipWhile isBlank)
    if !endsWord c.head? then none
    some (.handle (String.ofList handle) meaning, ← c.endLine?)
  else none

end DeepCopy.Yaml
