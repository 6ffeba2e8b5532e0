import DeepCopy.Document.Text
import DeepCopy.Shape.Basic

/-!
# Shapes as documents

The tree of a shape, and the format by which it is read back.
-/

namespace DeepCopy

open Document

/-- The name of a strategy in documents. -/
def Strategy.name : Strategy → String
  | .ownInterface => "self_constructible"
  | .elements => "enumerable_constructible"
  | .pairs => "key_value_constructible"
  | .passOn => "identity"

/-- The names of strategies. -/
def Strategy.choices : Choices Strategy :=
  priority.map fun s => (s.name, s)

/-- The format of a strategy in content kept back. -/
def Strategy.format : Reader Strategy := readChoice .kept 1 choices

namespace Shape

/-- The tree of a shape. -/
def tree : Shape → Tree
  | .scalar => .record [("shape", .text "scalar")]
  | .nullable inner => .record [("shape", .text "nullable"), ("inner", inner.tree)]
  | .cloneable typeName =>
    .record [("shape", .text "deep_cloneable"), ("type_name", .text typeName)]
  | .array element => .record [("shape", .text "array"), ("element", element.tree)]
  | .sequence container element strategy =>
    .record [("shape", .text "sequence_container"), ("container", .text container),
      ("element", element.tree), ("strategy", .text strategy.name)]
  | .map container keyType valueType key value strategy =>
    .record [("shape", .text "map_container"), ("container", .text container),
      ("key_type", .text keyType), ("value_type", .text valueType), ("key", key.tree),
      ("value", value.tree), ("strategy", .text strategy.name)]
  | .enumerable element =>
    .record [("shape", .text "generic_enumerable"), ("element", element.tree)]
  | .unknown typeName => .record [("shape", .text "unknown"), ("type_name", .text typeName)]

/-- The fields of a container while they are read. -/
structure Draft where
  container : String := ""
  keyType : String := ""
  valueType : String := ""
  key : Shape := .scalar
  value : Shape := .scalar
  strategy : Strategy := .passOn

/-- A text in content kept back. -/
def readName : Reader String := readText .kept "a string"

/-- A record of a variant with one content. -/
def single {α β : Type} (title name : String) (read : Reader α) (blank : α) (make : α → β) :
    Reader β := fun n =>
  make <$> readRecord .kept 1 ("struct variant TypeShape::" ++ title)
    [.must name read fun a _ => a] blank n

/-- The variants of a shape, given how the shapes in it are read. -/
def variants (read : Reader Shape) : Variants Shape :=
  [("scalar", unitVariant .scalar),
    ("nullable", single "Nullable" "inner" read .scalar .nullable),
    ("deep_cloneable", single "DeepCloneable" "type_name" readName "" .cloneable),
    ("array", single "Array" "element" read .scalar .array),
    ("sequence_container", fun n =>
      (fun d => .sequence d.container d.value d.strategy) <$>
        readRecord .kept 1 "struct variant TypeShape::SequenceContainer"
          [.must "container" readName fun a d => { d with container := a },
            .must "element" read fun a d => { d with value := a },
            .must "strategy" Strategy.format fun a d => { d with strategy := a }] ({} : Draft) n),
    ("map_container", fun n =>
      (fun d => .map d.container d.keyType d.valueType d.key d.value d.strategy) <$>
        readRecord .kept 1 "struct variant TypeShape::MapContainer"
          [.must "container" readName fun a d => { d with container := a },
            .must "key_type" readName fun a d => { d with keyType := a },
            .must "value_type" readName fun a d => { d with valueType := a },
            .must "key" read fun a d => { d with key := a },
            .must "value" read fun a d => { d with value := a },
            .must "strategy" Strategy.format fun a d => { d with strategy := a }] ({} : Draft) n),
    ("generic_enumerable", single "GenericEnumerable" "element" read .scalar .enumerable),
    ("unknown", single "Unknown" "type_name" readName "" .unknown)]

/-- The format of shapes. -/
def format : Format Shape
  | 0, src => readVariant src 0 "TypeShape" "shape" (variants fun _ => .error .malformed)
  | depth + 1, src =>
    readVariant src (depth + 1) "TypeShape" "shape" (variants (format depth .kept))

end Shape

end DeepCopy
