import DeepCopy.Plan.Basic
import DeepCopy.Render.Provenance
import DeepCopy.Text.Blank
import DeepCopy.Text.Case

/-!
# Accessors as TypeScript expressions

An accessor becomes an `Expression` first and text afterwards. Elements and entries are named by
variables made from the name of the level above, so no variable hides another one. A guarded array
takes the conditional access `?.`; every other guard is a conditional expression.

## Main definitions

* `bareName`: a type's name without its arguments
* `Receiver`: what a call or a projection is made on
* `Expression`, `Expression.text`: expressions and their text
* `Accessor.typescript`: the expression of an accessor
-/

namespace DeepCopy.TypeScript

/-- The name of a type without its arguments and without blanks around it. -/
def bareName (name : String) : String :=
  String.ofList (Text.trimmed (name.toList.takeWhile (· ≠ '<')))

/-- A value that has a name. -/
inductive Receiver where
  /-- A member of the object that is cloned. -/
  | member (name : String)
  /-- A variable. -/
  | variable (name : String)
  deriving DecidableEq

/-- The text of a receiver. -/
def Receiver.text : Receiver → String
  | .member name => "this." ++ name
  | .variable name => name

/-- A TypeScript expression. A flag `test` says that the receiver is tested for null by the
access. -/
inductive Expression where
  | read (receiver : Receiver)
  /-- The call of a clone operation. -/
  | call (receiver : Receiver) (test : Bool) (operation : Operation)
  /-- The receiver itself where it is null. -/
  | unlessNull (receiver : Receiver) (body : Expression)
  /-- The projection of an array by a function. -/
  | map (receiver : Receiver) (test : Bool) (binder : String) (body : Expression)
  /-- The projection of a sequence by a generator. -/
  | generate (receiver : Receiver) (binder : String) (body : Expression)
  /-- The projected elements of a sequence as an array. -/
  | elements (receiver : Receiver) (binder : String) (body : Expression)
  /-- The projected entries of a mapping as an array. -/
  | entries (receiver : Receiver) (keyBinder valueBinder : String) (key value : Expression)
  | construct (container : String) (argument : Expression)
  deriving DecidableEq

/-- The access to a member of a receiver. -/
def access (test : Bool) : String := if test then "?." else "."

/-- The call of a clone operation. The safe one passes the stack on. -/
def callText (names : OperationNames) : Operation → String
  | .fast => Text.camelCase names.fast ++ "()"
  | .safe => Text.camelCase names.safe ++ "(referenceChain)"

/-- The text of an expression. -/
def Expression.text (names : OperationNames) : Expression → String
  | .read r => r.text
  | .call r test op => r.text ++ access test ++ callText names op
  | .unlessNull r body => r.text ++ " == null ? " ++ r.text ++ " : " ++ body.text names
  | .map r test x body =>
    r.text ++ access test ++ "map((" ++ x ++ ") => " ++ body.text names ++ ")"
  | .generate r x body =>
    "(function* (s) \x7b for (const " ++ x ++ " of s) yield " ++ body.text names ++ "; \x7d)(" ++
      r.text ++ ")"
  | .elements r x body =>
    "Array.from(" ++ r.text ++ ", (" ++ x ++ ") => " ++ body.text names ++ ")"
  | .entries r k v key value =>
    "Array.from(" ++ r.text ++ ", ([" ++ k ++ ", " ++ v ++ "]) => [" ++ key.text names ++ ", " ++
      value.text names ++ "])"
  | .construct container argument => "new " ++ container ++ "(" ++ argument.text names ++ ")"

namespace Expression

variable (names : OperationNames) (r : Receiver) (test : Bool) (x : String) (body : Expression)

@[simp] theorem text_read : (read r).text names = r.text := rfl

@[simp] theorem text_call (op : Operation) :
    (call r test op).text names = r.text ++ access test ++ callText names op := rfl

@[simp] theorem text_unlessNull : (unlessNull r body).text names =
    r.text ++ " == null ? " ++ r.text ++ " : " ++ body.text names := rfl

@[simp] theorem text_map : (map r test x body).text names =
    r.text ++ access test ++ "map((" ++ x ++ ") => " ++ body.text names ++ ")" := rfl

@[simp] theorem text_generate : (generate r x body).text names =
    "(function* (s) \x7b for (const " ++ x ++ " of s) yield " ++ body.text names ++ "; \x7d)(" ++
      r.text ++ ")" := rfl

@[simp] theorem text_elements : (elements r x body).text names =
    "Array.from(" ++ r.text ++ ", (" ++ x ++ ") => " ++ body.text names ++ ")" := rfl

@[simp] theorem text_entries (k v : String) (key value : Expression) :
    (entries r k v key value).text names =
      "Array.from(" ++ r.text ++ ", ([" ++ k ++ ", " ++ v ++ "]) => [" ++ key.text names ++ ", " ++
        value.text names ++ "])" := rfl

@[simp] theorem text_construct (container : String) : (construct container body).text names =
    "new " ++ container ++ "(" ++ body.text names ++ ")" := rfl

end Expression

end DeepCopy.TypeScript

namespace DeepCopy.Accessor

open TypeScript (Receiver Expression bareName)

/-- Whether an accessor is that of an array. -/
def isArray : Accessor → Bool
  | .array _ => true
  | _ => false

/-- The expression of an accessor on a receiver. The variables below are made from `name`; `test`
says that the access to an array has to test it for null. -/
def typescript (r : Receiver) (name : String) (test : Bool) : Accessor → Expression
  | .copy | .passOn => .read r
  | .call nullable op => .call r nullable op
  | .guarded inner =>
    if inner.isArray then inner.typescript r name true
    else .unlessNull r (inner.typescript r name false)
  | .array element =>
    let x := lambdaVariable name
    .map r test x (element.typescript (.variable x) x false)
  | .project element =>
    let x := lambdaVariable name
    .generate r x (element.typescript (.variable x) x false)
  | .sequence container element strategy =>
    let x := lambdaVariable name
    .construct (bareName container) <|
      if strategy = .ownInterface && element.isCopy then .read r
      else .elements r x (element.typescript (.variable x) x false)
  | .map container _ _ key value strategy =>
    let x := lambdaVariable name
    let k := x ++ "Key"
    let v := x ++ "Value"
    .construct (bareName container) <|
      if strategy = .ownInterface && key.isCopy && value.isCopy then .read r
      else
        .entries r k v (key.typescript (.variable k) x false)
          (value.typescript (.variable v) x false)

end DeepCopy.Accessor
