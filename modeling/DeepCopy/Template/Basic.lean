/-!
# Templates

A `Template` is text with places to fill in: expressions whose value is written out, parts that are
written under a condition, and parts that are written once for each item of a list.

## Main definitions

* `Value`: what a template is filled in with
* `Expression`: a literal, a variable, a field of a record or a filter's result
* `Piece`, `Template`: the parts of a template in order
-/

namespace DeepCopy.Template

/-- What a template is filled in with. -/
inductive Value where
  /-- The value of what is not there. -/
  | undefined
  | none
  | bool (value : Bool)
  | text (value : String)
  | list (items : List Value)
  | record (fields : List (String × Value))

/-- The variables of a template, the innermost first. -/
abbrev Context := List (String × Value)

/-- An expression in a template. -/
inductive Expression where
  | literal (value : Value)
  | variable (name : String)
  | field (record : Expression) (name : String)
  | filter (name : String) (input : Expression) (arguments : List Expression)

/-- A part of a template. -/
inductive Piece where
  | text (text : String)
  | output (expression : Expression)
  | whenever (condition : Expression) (yes no : List Piece)
  | each (name : String) (items : Expression) (body : List Piece)

end DeepCopy.Template

namespace DeepCopy

/-- A text with places to fill in. -/
abbrev Template := List Template.Piece

end DeepCopy
