/-!
# Shapes of types

A `Shape` is what cloning sees of a type: whether it is copied, cloned by its own operations, or
taken apart and rebuilt, and for containers how they are rebuilt.

## Main definitions

* `Strategy`: how a container is rebuilt from its elements
* `Shape`: the shapes
* `Shape.withoutClones`: the shape with every clone turned into a copy
-/

namespace DeepCopy

/-- How a container is rebuilt from its elements. -/
inductive Strategy where
  /-- By a constructor that takes the container's own interface. -/
  | ownInterface
  /-- By a constructor that takes a sequence of the elements. -/
  | elements
  /-- By a constructor that takes pairs of a key and a value. -/
  | pairs
  /-- Not at all: the container is passed on as it is. -/
  | passOn
  deriving DecidableEq

namespace Strategy

/-- The strategies in the order in which they are tried. -/
def priority : List Strategy := [.ownInterface, .elements, .pairs, .passOn]

/-- The word for a strategy in the notation of accessors. -/
def word : Strategy → String
  | .ownInterface => "self"
  | .elements => "enumerable"
  | .pairs => "key_value"
  | .passOn => "identity"

end Strategy

/-- What cloning sees of a type. -/
inductive Shape where
  /-- Copied: a primitive type, a value type or a text. -/
  | scalar
  | nullable (inner : Shape)
  /-- Cloned by the operations of its own type. -/
  | cloneable (typeName : String)
  | array (element : Shape)
  | sequence (container : String) (element : Shape) (strategy : Strategy)
  | map (container keyType valueType : String) (key value : Shape) (strategy : Strategy)
  /-- The interface of sequences itself, cloned as a projection of its source. -/
  | enumerable (element : Shape)
  /-- Copied for want of better knowledge. -/
  | unknown (typeName : String)
  deriving DecidableEq

namespace Shape

/-- The shape with every clone turned into a copy. -/
def withoutClones : Shape → Shape
  | .cloneable typeName => .unknown typeName
  | .nullable inner => .nullable inner.withoutClones
  | .array element => .array element.withoutClones
  | .sequence container element strategy => .sequence container element.withoutClones strategy
  | .map container keyType valueType key value strategy =>
    .map container keyType valueType key.withoutClones value.withoutClones strategy
  | .enumerable element => .enumerable element.withoutClones
  | .scalar => .scalar
  | .unknown typeName => .unknown typeName

end Shape

end DeepCopy
