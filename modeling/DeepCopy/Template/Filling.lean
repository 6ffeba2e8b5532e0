import DeepCopy.Template.Basic
import DeepCopy.Text.Case
import DeepCopy.Text.Lines
import DeepCopy.Text.Quoted

/-!
# Filling in templates

A template is filled in with the values of a context. What is not there is written as nothing,
counts as false and has no items; only a field of what is not there is a fault. Text is
inserted as it is and never read as a template again.

## Main definitions

* `Value.written`, `Value.isTrue`, `Value.items?`: how values are written, tested and run through
* `Gap`: what keeps a template from being filled in
* `Expression.value`: the value of an expression
* `fill`: the text of a template
-/

namespace DeepCopy.Template

/-- What keeps a template from being filled in. -/
inductive Gap where
  /-- A field of what is not there. -/
  | field (name : String)
  | unknownFilter (name : String)
  | badInput (filter : String)
  | noItems
  deriving DecidableEq

/-- What keeps a template from being filled in, in words. -/
def Gap.message : Gap → String
  | .field name => "attribute `" ++ name ++ "` of an undefined value"
  | .unknownFilter name => "unknown filter `" ++ name ++ "`"
  | .badInput filter => "filter `" ++ filter ++ "` expects text"
  | .noItems => "value is not iterable"

namespace Value

mutual

/-- A value inside a list or a record. -/
def inner : Value → String
  | .undefined => "undefined"
  | .none => "None"
  | .bool b => if b then "True" else "False"
  | .text s => Text.quoted s
  | .list items => "[" ++ ", ".intercalate (innerItems items) ++ "]"
  | .record fields => "\x7b" ++ ", ".intercalate (innerFields fields) ++ "\x7d"

/-- The items of a list. -/
def innerItems : List Value → List String
  | [] => []
  | v :: vs => inner v :: innerItems vs

/-- The fields of a record. -/
def innerFields : List (String × Value) → List String
  | [] => []
  | (name, v) :: fs => (Text.quoted name ++ ": " ++ inner v) :: innerFields fs

end

/-- A value as it is written out. -/
def written : Value → String
  | .undefined => ""
  | .text s => s
  | v => v.inner

/-- Whether a value counts as true. -/
def isTrue : Value → Bool
  | .undefined | .none => false
  | .bool b => b
  | .text s => !s.isEmpty
  | .list items => !items.isEmpty
  | .record fields => !fields.isEmpty

/-- The items that a value is run through in: those of a list, the characters of a text and the
names of a record's fields. -/
def items? : Value → Option (List Value)
  | .undefined | .none => some []
  | .bool _ => Option.none
  | .text s => some (s.toList.map fun c => .text (String.singleton c))
  | .list items => some items
  | .record fields => some (fields.map fun f => .text f.1)

/-- A field of a value. -/
def field (name : String) : Value → Except Gap Value
  | .undefined => .error (.field name)
  | .record fields => .ok ((fields.lookup name).getD .undefined)
  | _ => .ok .undefined

/-- The text a filter is given. -/
def asText (filter : String) : Value → Except Gap String
  | .text s => .ok s
  | _ => .error (.badInput filter)

end Value

/-- The result of a filter. -/
def filtered (name : String) (input : Value) (arguments : List Value) : Except Gap Value :=
  match name, arguments with
  | "camel_case", [] => (.text ∘ Text.camelCase) <$> input.asText name
  | "line_comment", [] | "line_comment", [.undefined] | "line_comment", [.none] =>
    (fun s => .text (Text.lineComment s "//")) <$> input.asText name
  | "line_comment", [marker] => do
    let s ← input.asText name
    return .text (Text.lineComment s (← marker.asText name))
  | "camel_case", _ | "line_comment", _ => .error (.badInput name)
  | name, _ => .error (.unknownFilter name)

mutual

/-- The value of an expression. -/
def Expression.value (context : Context) : Expression → Except Gap Value
  | .literal v => .ok v
  | .variable name => .ok ((context.lookup name).getD .undefined)
  | .field e name => do
    (← e.value context).field name
  | .filter name e arguments => do
    filtered name (← e.value context) (← values context arguments)

/-- The values of expressions in order. -/
def values (context : Context) : List Expression → Except Gap (List Value)
  | [] => .ok []
  | e :: es => do
    let v ← e.value context
    return v :: (← values context es)

end

/-- The texts of something for every value in order. -/
def joinEach (f : Value → Except Gap String) : List Value → Except Gap String
  | [] => .ok ""
  | v :: vs => do
    let s ← f v
    return s ++ (← joinEach f vs)

mutual

/-- The text of a piece. -/
def fillPiece (context : Context) : Piece → Except Gap String
  | .text s => .ok s
  | .output e => Value.written <$> e.value context
  | .whenever condition yes no => do
    if (← condition.value context).isTrue then fill context yes else fill context no
  | .each name items body => do
    match (← items.value context).items? with
    -- The variable hides one of the same name outside.
    | some vs => joinEach (fun v => fill ((name, v) :: context) body) vs
    | none => .error .noItems

/-- The text of a template. -/
def fill (context : Context) : List Piece → Except Gap String
  | [] => .ok ""
  | p :: ps => do
    let s ← fillPiece context p
    return s ++ (← fill context ps)

end

end DeepCopy.Template
