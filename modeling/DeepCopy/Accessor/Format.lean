import DeepCopy.Accessor.Basic
import DeepCopy.Shape.Format

/-!
# Accessors as documents

The tree of an accessor, and the format by which it is read back.
-/

namespace DeepCopy

open Document

/-- The name of an operation in documents. -/
def Operation.name : Operation → String
  | .fast => "fast"
  | .safe => "safe"

/-- The names of operations. -/
def Operation.choices : Choices Operation := [("fast", .fast), ("safe", .safe)]

namespace Accessor

/-- The tree of an accessor. -/
def tree : Accessor → Tree
  | .copy => .record [("step", .text "copy_scalar")]
  | .call nullable op =>
    .record [("step", .text "call_clone"), ("nullable", .bool nullable), ("op", .text op.name)]
  | .guarded inner => .record [("step", .text "null_guard"), ("inner", inner.tree)]
  | .array element => .record [("step", .text "map_array"), ("element", element.tree)]
  | .sequence container element strategy =>
    .record [("step", .text "map_sequence"), ("container", .text container),
      ("element", element.tree), ("strategy", .text strategy.name)]
  | .map container keyType valueType key value strategy =>
    .record [("step", .text "map_map"), ("container", .text container),
      ("key_type", .text keyType), ("value_type", .text valueType), ("key", key.tree),
      ("value", value.tree), ("strategy", .text strategy.name)]
  | .project element => .record [("step", .text "project_sequence"), ("element", element.tree)]
  | .passOn => .record [("step", .text "identity")]

/-- The fields of a container while they are read. -/
structure Draft where
  container : String := ""
  keyType : String := ""
  valueType : String := ""
  key : Accessor := .copy
  value : Accessor := .copy
  strategy : Strategy := .passOn

/-- A text in content kept back. -/
def readName : Reader String := readText .kept "a string"

/-- A record of a variant with one accessor. -/
def single (title name : String) (read : Reader Accessor) (make : Accessor → Accessor) :
    Reader Accessor := fun n =>
  make <$> readRecord .kept 1 ("struct variant AccessorPlan::" ++ title)
    [.must name read fun a _ => a] .copy n

/-- The variants of an accessor, given how the accessors in it are read. -/
def variants (read : Reader Accessor) : Variants Accessor :=
  [("copy_scalar", unitVariant .copy),
    ("call_clone", fun n =>
      (fun d => .call d.1 d.2) <$>
        readRecord .kept 1 "struct variant AccessorPlan::CallClone"
          [.must "nullable" (readBool .kept) fun a d => (a, d.2),
            .must "op" (readChoice .kept 1 Operation.choices) fun a d => (d.1, a)]
          (false, .fast) n),
    ("null_guard", single "NullGuard" "inner" read .guarded),
    ("map_array", single "MapArray" "element" read .array),
    ("map_sequence", fun n =>
      (fun d => .sequence d.container d.value d.strategy) <$>
        readRecord .kept 1 "struct variant AccessorPlan::MapSequence"
          [.must "container" readName fun a d => { d with container := a },
            .must "element" read fun a d => { d with value := a },
            .must "strategy" Strategy.format fun a d => { d with strategy := a }] ({} : Draft) n),
    ("map_map", fun n =>
      (fun d => .map d.container d.keyType d.valueType d.key d.value d.strategy) <$>
        readRecord .kept 1 "struct variant AccessorPlan::MapMap"
          [.must "container" readName fun a d => { d with container := a },
            .must "key_type" readName fun a d => { d with keyType := a },
            .must "value_type" readName fun a d => { d with valueType := a },
            .must "key" read fun a d => { d with key := a },
            .must "value" read fun a d => { d with value := a },
            .must "strategy" Strategy.format fun a d => { d with strategy := a }] ({} : Draft) n),
    ("project_sequence", single "ProjectSequence" "element" read .project),
    ("identity", unitVariant .passOn)]

/-- The format of accessors. -/
def format : Format Accessor
  | 0, src => readVariant src 0 "AccessorPlan" "step" (variants fun _ => .error .malformed)
  | depth + 1, src =>
    readVariant src (depth + 1) "AccessorPlan" "step" (variants (format depth .kept))

end Accessor

end DeepCopy
