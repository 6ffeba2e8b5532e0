import DeepCopy.Plan.Basic
import DeepCopy.Render.Provenance

/-!
# Accessors as C# expressions

An accessor becomes an `Expression` first and text afterwards. A sequence or a mapping is projected
by a lambda whose variable is the name of the level above with an `x` behind it, so no variable
hides another one.

A guard is written as a conditional expression, but a guarded array or projection is a chain of
calls on one receiver and takes the conditional access `?.` instead.

## Main definitions

* `Receiver`: what a call or a projection is made on
* `Expression`, `Expression.text`: expressions and their text
* `Accessor.csharp`: the expression of an accessor
-/

namespace DeepCopy.CSharp

/-- The type of the stack of objects that are being cloned. -/
def stackType : String := "global::System.Collections.Generic.Stack<object>"

/-- The type of pairs of a key and a value. -/
def pairType : String := "global::System.Collections.Generic.KeyValuePair"

/-- A value that has a name. -/
inductive Receiver where
  /-- A member of the object that is cloned. -/
  | member (name : String)
  /-- The variable of a lambda. -/
  | variable (name : String)
  /-- The key of the entry that is the variable of a lambda. -/
  | key (name : String)
  /-- The value of the entry that is the variable of a lambda. -/
  | value (name : String)
  deriving DecidableEq

/-- The text of a receiver. -/
def Receiver.text : Receiver → String
  | .member name => "this." ++ name
  | .variable name => name
  | .key name => name ++ ".Key"
  | .value name => name ++ ".Value"

/-- A C# expression. A flag `test` says that the receiver is tested for null by the access. -/
inductive Expression where
  | read (receiver : Receiver)
  /-- The call of a clone operation. -/
  | call (receiver : Receiver) (test : Bool) (operation : Operation)
  /-- Null where the receiver is null. -/
  | unlessNull (receiver : Receiver) (body : Expression)
  /-- The projection of a sequence by a lambda. -/
  | select (receiver : Receiver) (test : Bool) (binder : String) (body : Expression)
  | toArray (projection : Expression)
  | toList (projection : Expression)
  /-- The dictionary of the entries of a mapping, by two lambdas. -/
  | toDictionary (receiver : Receiver) (binder : String) (key value : Expression)
  | pair (keyType valueType : String) (key value : Expression)
  | construct (container : String) (argument : Expression)
  deriving DecidableEq

/-- The access to a member of a receiver. -/
def access (test : Bool) : String := if test then "?." else "."

/-- The call of a clone operation. The safe one passes the stack on. -/
def callText (names : OperationNames) : Operation → String
  | .fast => names.fast ++ "()"
  | .safe => names.safe ++ "(referenceChain)"

/-- The text of an expression. -/
def Expression.text (names : OperationNames) : Expression → String
  | .read r => r.text
  | .call r test op => r.text ++ access test ++ callText names op
  | .unlessNull r body => r.text ++ " is null ? null : " ++ body.text names
  | .select r test x body =>
    r.text ++ access test ++ "Select(" ++ x ++ " => " ++ body.text names ++ ")"
  | .toArray projection => projection.text names ++ ".ToArray()"
  | .toList projection => projection.text names ++ ".ToList()"
  | .toDictionary r x key value =>
    r.text ++ ".ToDictionary(" ++ x ++ " => " ++ key.text names ++ ", " ++ x ++ " => " ++
      value.text names ++ ")"
  | .pair keyType valueType key value =>
    "new " ++ pairType ++ "<" ++ keyType ++ ", " ++ valueType ++ ">(" ++ key.text names ++ ", " ++
      value.text names ++ ")"
  | .construct container argument => "new " ++ container ++ "(" ++ argument.text names ++ ")"

namespace Expression

variable (names : OperationNames) (r : Receiver) (test : Bool) (x : String)
  (body key value : Expression)

@[simp] theorem text_read : (read r).text names = r.text := rfl

@[simp] theorem text_call (op : Operation) :
    (call r test op).text names = r.text ++ access test ++ callText names op := rfl

@[simp] theorem text_unlessNull :
    (unlessNull r body).text names = r.text ++ " is null ? null : " ++ body.text names := rfl

@[simp] theorem text_select : (select r test x body).text names =
    r.text ++ access test ++ "Select(" ++ x ++ " => " ++ body.text names ++ ")" := rfl

@[simp] theorem text_toArray : (toArray body).text names = body.text names ++ ".ToArray()" := rfl

@[simp] theorem text_toList : (toList body).text names = body.text names ++ ".ToList()" := rfl

@[simp] theorem text_toDictionary : (toDictionary r x key value).text names =
    r.text ++ ".ToDictionary(" ++ x ++ " => " ++ key.text names ++ ", " ++ x ++ " => " ++
      value.text names ++ ")" := rfl

@[simp] theorem text_pair (keyType valueType : String) :
    (pair keyType valueType key value).text names =
      "new " ++ pairType ++ "<" ++ keyType ++ ", " ++ valueType ++ ">(" ++ key.text names ++
        ", " ++ value.text names ++ ")" := rfl

@[simp] theorem text_construct (container : String) : (construct container body).text names =
    "new " ++ container ++ "(" ++ body.text names ++ ")" := rfl

end Expression

end DeepCopy.CSharp

namespace DeepCopy.Accessor

open CSharp (Receiver Expression)

/-- Whether a guard around an accessor becomes a conditional access. -/
def isChain : Accessor → Bool
  | .array _ | .project _ => true
  | _ => false

/-- The expression of an accessor on a receiver. The variables below are made from `name`; `test`
says that an access to the receiver has to test it for null. -/
def csharp (r : Receiver) (name : String) (test : Bool) : Accessor → Expression
  | .copy | .passOn => .read r
  | .call nullable op => .call r (nullable || test) op
  | .guarded inner =>
    if inner.isChain then inner.csharp r name true else .unlessNull r (inner.csharp r name false)
  | .array element =>
    let x := lambdaVariable name
    .toArray (.select r test x (element.csharp (.variable x) x false))
  | .project element =>
    let x := lambdaVariable name
    .select r test x (element.csharp (.variable x) x false)
  | .sequence container element strategy =>
    let x := lambdaVariable name
    let projection := Expression.select r false x (element.csharp (.variable x) x false)
    .construct container <|
      if strategy = .ownInterface then
        if element.isCopy then .read r else .toList projection
      else projection
  | .map container keyType valueType key value strategy =>
    let x := lambdaVariable name
    let k := key.csharp (.key x) x false
    let v := value.csharp (.value x) x false
    .construct container <|
      if strategy = .ownInterface then
        if key.isCopy && value.isCopy then .read r else .toDictionary r x k v
      else .select r false x (.pair keyType valueType k v)

end DeepCopy.Accessor
