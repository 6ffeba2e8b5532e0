import DeepCopy.Template.Basic
import DeepCopy.Template.Token

/-!
# Reading templates

The tokens of a tag are read as an expression or as a control tag, and the control tags, which
open, divide and close parts, give the template its structure.

## Main definitions

* `expression?`: the expression some tokens stand for
* `Control`: the control tags
* `read`: the template of a text, or nothing where the text is not well formed
-/

namespace DeepCopy.Template

/-- A value or a variable by its name. -/
def named (name : String) : Expression :=
  match name with
  | "true" | "True" => .literal (.bool true)
  | "false" | "False" => .literal (.bool false)
  | "none" | "None" => .literal .none
  | name => .variable name

/-- The first part of an expression. -/
def operand? : List Token → Option (Expression × List Token)
  | .name name :: ts => some (named name, ts)
  | .text text :: ts => some (.literal (.text text), ts)
  | _ => none

/-- An operand and the fields asked of it; `fields` reads on after an operand. -/
def fields (e : Expression) : List Token → Expression × List Token
  | .mark '.' :: .name name :: ts => fields (.field e name) ts
  | ts => (e, ts)

/-- The arguments of a filter behind an opening bracket, and what follows the closing one. The
first number bounds the number of arguments. -/
def arguments? : Nat → List Token → Option (List Expression × List Token)
  | _, .mark ')' :: ts => some ([], ts)
  | 0, _ => none
  | fuel + 1, ts => do
    let (e, ts) ← operand? ts
    match fields e ts with
    | (e, .mark ',' :: ts) =>
      let (es, ts) ← arguments? fuel ts
      return (e :: es, ts)
    | (e, .mark ')' :: ts) => return ([e], ts)
    | _ => none

/-- An expression and its filters; `filters?` reads on after an expression to the last token. The
first number bounds the number of filters. -/
def filters? : Nat → Expression → List Token → Option Expression
  | _, e, [] => some e
  | fuel + 1, e, .mark '|' :: .name name :: .mark '(' :: ts => do
    let (es, ts) ← arguments? ts.length ts
    filters? fuel (.filter name e es) ts
  | fuel + 1, e, .mark '|' :: .name name :: ts => filters? fuel (.filter name e []) ts
  | _, _, _ => none

/-- The expression that some tokens stand for. -/
def expression? (ts : List Token) : Option Expression := do
  let (e, ts) ← operand? ts
  let (e, ts) := fields e ts
  filters? ts.length e ts

/-- A control tag. -/
inductive Control where
  | whenever (condition : Expression)
  | otherwise
  | endWhenever
  | each (name : String) (items : Expression)
  | endEach

/-- The control tag that some tokens stand for. -/
def control? : List Token → Option Control
  | .name "if" :: ts => .whenever <$> expression? ts
  | [.name "else"] => some .otherwise
  | [.name "endif"] => some .endWhenever
  | .name "for" :: .name name :: .name "in" :: ts => .each name <$> expression? ts
  | [.name "endfor"] => some .endEach
  | _ => none

/-- A part of a template that is open, with the pieces before it, backwards. -/
inductive Part where
  | yes (before : List Piece) (condition : Expression)
  | no (before : List Piece) (condition : Expression) (yes : List Piece)
  | body (before : List Piece) (name : String) (items : Expression)

/-- The template of some segments, given the open parts, the innermost first, and the pieces of the
innermost part so far, backwards. -/
def assemble : List Part → List Piece → List Segment → Option Template
  | [], pieces, [] => some pieces.reverse
  | _ :: _, _, [] => none
  | parts, pieces, .text text :: rest => assemble parts (.text text :: pieces) rest
  | parts, pieces, .output ts :: rest => do
    assemble parts (.output (← expression? ts) :: pieces) rest
  | parts, pieces, .control ts :: rest => do
    match ← control? ts, parts with
    | .whenever condition, parts => assemble (.yes pieces condition :: parts) [] rest
    | .each name items, parts => assemble (.body pieces name items :: parts) [] rest
    | .otherwise, .yes before condition :: parts =>
      assemble (.no before condition pieces.reverse :: parts) [] rest
    | .endWhenever, .yes before condition :: parts =>
      assemble parts (.whenever condition pieces.reverse [] :: before) rest
    | .endWhenever, .no before condition yes :: parts =>
      assemble parts (.whenever condition yes pieces.reverse :: before) rest
    | .endEach, .body before name items :: parts =>
      assemble parts (.each name items pieces.reverse :: before) rest
    | _, _ => none

/-- The template of a text. -/
def read (text : String) : Option Template := do
  assemble [] [] (← segments text.toList)

end DeepCopy.Template
