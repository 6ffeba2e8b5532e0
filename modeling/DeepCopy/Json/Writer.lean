import DeepCopy.Document.Tree

/-!
# Writing JSON text

A tree as JSON text: on one line, or with one item per line indented by two spaces for every
container around it. Empty containers stay on their line.
-/

namespace DeepCopy.Json

open Document (Tree)

/-- A character as it stands between the quotes. -/
def escape (c : Char) : List Char :=
  match c with
  | '"' => ['\\', '"']
  | '\\' => ['\\', '\\']
  | '\x08' => ['\\', 'b']
  | '\x0c' => ['\\', 'f']
  | '\n' => ['\\', 'n']
  | '\r' => ['\\', 'r']
  | '\t' => ['\\', 't']
  | c =>
    if c.toNat < 0x20 then
      ['\\', 'u', '0', '0', Nat.digitChar (c.toNat / 16), Nat.digitChar (c.toNat % 16)]
    else [c]

/-- A text between quotes. -/
def quote (s : String) : String :=
  String.ofList ('"' :: s.toList.flatMap escape ++ ['"'])

/-- A new line at a depth. -/
def newline (depth : Nat) : String :=
  "\n" ++ "".pushn ' ' (2 * depth)

mutual

/-- A tree with one item per line, inside `depth` containers. -/
def pretty (depth : Nat) : Tree → String
  | .null => "null"
  | .bool b => if b then "true" else "false"
  | .integer n => toString n
  | .text s => quote s
  | .list [] => "[]"
  | .list items => "[" ++ prettyItems (depth + 1) items ++ newline depth ++ "]"
  | .record [] => "\x7b\x7d"
  | .record fields => "\x7b" ++ prettyFields (depth + 1) fields ++ newline depth ++ "\x7d"

/-- Items, each on a line of its own. -/
def prettyItems (depth : Nat) : List Tree → String
  | [] => ""
  | [t] => newline depth ++ pretty depth t
  | t :: ts => newline depth ++ pretty depth t ++ "," ++ prettyItems depth ts

/-- Fields, each on a line of its own. -/
def prettyFields (depth : Nat) : List (String × Tree) → String
  | [] => ""
  | [(name, t)] => newline depth ++ quote name ++ ": " ++ pretty depth t
  | (name, t) :: fs =>
    newline depth ++ quote name ++ ": " ++ pretty depth t ++ "," ++ prettyFields depth fs

end

mutual

/-- A tree on one line. -/
def compact : Tree → String
  | .null => "null"
  | .bool b => if b then "true" else "false"
  | .integer n => toString n
  | .text s => quote s
  | .list items => "[" ++ compactItems items ++ "]"
  | .record fields => "\x7b" ++ compactFields fields ++ "\x7d"

/-- Items on one line. -/
def compactItems : List Tree → String
  | [] => ""
  | [t] => compact t
  | t :: ts => compact t ++ "," ++ compactItems ts

/-- Fields on one line. -/
def compactFields : List (String × Tree) → String
  | [] => ""
  | [(name, t)] => quote name ++ ":" ++ compact t
  | (name, t) :: fs => quote name ++ ":" ++ compact t ++ "," ++ compactFields fs

end

end DeepCopy.Json
