import DeepCopy.Shape.Basic

/-!
# Accessors

An `Accessor` is the work that makes the value of a member in the copy from its value in the
source: a tree of steps, with the calls of other types' clone operations at its leaves.

## Main definitions

* `Operation`: the two clone operations of a type
* `Accessor`: the steps
* `Accessor.retarget`: the same work with every call naming one operation
* `Accessor.callSites`, `Accessor.targets`: how many calls there are, and which they name
* `Accessor.display`: the accessor on one line
-/

namespace DeepCopy

/-- The two clone operations of a type. -/
inductive Operation where
  /-- Follows every reference. -/
  | fast
  /-- Passes on the objects that are being cloned already. -/
  | safe
  deriving DecidableEq

/-- The work that makes the value of a member in the copy. -/
inductive Accessor where
  /-- The value itself. -/
  | copy
  /-- The clone that the value's own type makes. -/
  | call (nullable : Bool) (operation : Operation)
  /-- Null for null, and the inner work for everything else. -/
  | guarded (inner : Accessor)
  | array (element : Accessor)
  | sequence (container : String) (element : Accessor) (strategy : Strategy)
  | map (container keyType valueType : String) (key value : Accessor) (strategy : Strategy)
  /-- A projection of the source. -/
  | project (element : Accessor)
  /-- The container itself, for want of a way to rebuild it. -/
  | passOn
  deriving DecidableEq

namespace Accessor

/-- Whether the value itself is the result. -/
def isCopy : Accessor → Bool
  | .copy | .passOn => true
  | _ => false

/-- The same work with every call naming one operation. -/
def retarget (op : Operation) : Accessor → Accessor
  | .copy => .copy
  | .passOn => .passOn
  | .call nullable _ => .call nullable op
  | .guarded inner => .guarded (inner.retarget op)
  | .array element => .array (element.retarget op)
  | .sequence container element strategy => .sequence container (element.retarget op) strategy
  | .map container keyType valueType key value strategy =>
    .map container keyType valueType (key.retarget op) (value.retarget op) strategy
  | .project element => .project (element.retarget op)

/-- The number of calls. -/
def callSites : Accessor → Nat
  | .copy | .passOn => 0
  | .call _ _ => 1
  | .guarded inner => inner.callSites
  | .array element => element.callSites
  | .sequence _ element _ => element.callSites
  | .project element => element.callSites
  | .map _ _ _ key value _ => key.callSites + value.callSites

/-- Whether every call names one operation. -/
def targets (op : Operation) : Accessor → Bool
  | .copy | .passOn => true
  | .call _ site => site == op
  | .guarded inner => inner.targets op
  | .array element => element.targets op
  | .sequence _ element _ => element.targets op
  | .project element => element.targets op
  | .map _ _ _ key value _ => key.targets op && value.targets op

/-- The accessor on one line. -/
def display : Accessor → String
  | .copy => "copy"
  | .passOn => "identity"
  | .call nullable op =>
    (match op with
      | .fast => "clone"
      | .safe => "clone_safe") ++ if nullable then "?" else ""
  | .guarded inner => "guard(" ++ inner.display ++ ")"
  | .array element => "array(" ++ element.display ++ ")"
  | .sequence container element strategy =>
    container ++ "[" ++ strategy.word ++ "](" ++ element.display ++ ")"
  | .map container _ _ key value strategy =>
    container ++ "[" ++ strategy.word ++ "](" ++ key.display ++ ", " ++ value.display ++ ")"
  | .project element => "project(" ++ element.display ++ ")"

end Accessor

end DeepCopy
