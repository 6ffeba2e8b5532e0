import DeepCopy.Accessor.Basic

/-!
# The accessor of a shape

`synthesize` follows a shape level by level. A nullable level becomes a guard only where the work
below it would not accept null by itself: a copy takes null as it is, and a call says that it does.
Every call names the fast operation.
-/

namespace DeepCopy

/-- The work that also accepts null, for work that need not. -/
def guardNull : Accessor → Accessor
  | .copy => .copy
  | .passOn => .passOn
  | .call _ op => .call true op
  | .guarded inner => .guarded inner
  | work => .guarded work

/-- The accessor of a shape. -/
def synthesize : Shape → Accessor
  | .scalar => .copy
  | .unknown _ => .copy
  | .nullable inner => guardNull (synthesize inner)
  | .cloneable _ => .call false .fast
  | .array element => .array (synthesize element)
  | .sequence container element strategy =>
    if strategy = .passOn then .passOn else .sequence container (synthesize element) strategy
  | .map container keyType valueType key value strategy =>
    if strategy = .passOn then .passOn
    else .map container keyType valueType (synthesize key) (synthesize value) strategy
  | .enumerable element => .project (synthesize element)

end DeepCopy
