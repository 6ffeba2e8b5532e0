import DeepCopy.Descriptor.Basic
import DeepCopy.Document.Text

/-!
# Reading descriptors

The formats of descriptors and of everything in them, and the documents that hold one descriptor
or a list of them.

## Main definitions

* `TypeUse.format`, `Member.format`, `Descriptor.format`: the formats
* `Descriptor.listOf`: the descriptors of a YAML value, one or a list under `types`
* `Descriptor.readAll`: the descriptors of a YAML text
-/

namespace DeepCopy

open Document

/-- The names of visibilities. -/
def Visibility.choices : Choices Visibility :=
  [("public", .exported), ("internal", .internal)]

/-- The names of categories. -/
def Category.choices : Choices Category :=
  [("value", .value), ("string", .text), ("reference", .reference), ("array", .array),
    ("parameter", .parameter)]

/-- The format of clone marks. -/
def CloneMark.format : Format CloneMark := fun depth src =>
  readRecord src depth "struct CloneOptions"
    [.may "explicit_declaration" (readBool src) fun b m => { m with explicit := b },
      .may "prevent_deep_copy" (readOption src (readBool src)) fun b m => { m with shallow := b }]
    {}

/-- A text that is content of some type. -/
def readName (src : Source) : Reader String := readText src "a string"

/-- The variants of a constructor's parameter. -/
def Parameter.variants : Variants Parameter :=
  [("own_interface", unitVariant .ownInterface),
    ("sequence", fun n =>
      .sequence <$> readRecord .kept 1 "struct variant CtorParam::Sequence"
        [.must "element" (readName .kept) fun a _ => a] "" n),
    ("pair_sequence", fun n =>
      (fun p => .pairs p.1 p.2) <$> readRecord .kept 1 "struct variant CtorParam::PairSequence"
        [.must "key" (readName .kept) fun a p => (a, p.2),
          .must "value" (readName .kept) fun a p => (p.1, a)] ("", "") n),
    ("other", fun n =>
      .other <$> readRecord .kept 1 "struct variant CtorParam::Other"
        [.must "name" (readName .kept) fun a _ => a] "" n)]

/-- The format of a constructor's parameter. -/
def Parameter.format : Format Parameter := fun depth src =>
  readVariant src depth "CtorParam" "kind" Parameter.variants

/-- The format of constructors. -/
def Constructor.format : Format Constructor := fun depth src =>
  readRecord src depth "struct Constructor"
    [.may "params" (readList src (depth - 1) (Parameter.format (depth - 2) src))
      fun ps c => { c with parameters := ps }]
    {}

/-- The variants of an interface, given how the types in it are read. -/
def Interface.variants (read : Reader TypeUse) : Variants Interface :=
  [("sequence", fun n =>
      .sequence <$> readRecord .kept 1 "struct variant InterfaceRef::Sequence"
        [.must "element" read fun a _ => a] default n),
    ("mapping", fun n =>
      (fun p => .mapping p.1 p.2) <$> readRecord .kept 1 "struct variant InterfaceRef::Mapping"
        [.must "key" read fun a p => (a, p.2), .must "value" read fun a p => (p.1, a)]
        (default, default) n)]

/-- The fields of a type use, given how its element and the types in its interfaces are read. -/
def TypeUse.fields (src : Source) (depth : Nat) (element inside : Reader TypeUse) :
    List (FieldReader TypeUse) :=
  [.must "name" (readName src) fun a t => { t with name := a },
    .may "kind" (readChoice src depth Category.choices) fun a t => { t with category := a },
    .may "nullable" (readBool src) fun a t => { t with nullable := a },
    .may "cloneable" (readOption src (CloneMark.format depth src))
      fun a t => { t with cloneable := a },
    .may "element" (readOption src element) fun a t => { t with element := a },
    .may "interfaces"
      (readList src depth
        (readVariant src (depth - 1) "InterfaceRef" "kind" (Interface.variants inside)))
      fun a t => { t with interfaces := a },
    .may "sequence_interface" (readBool src) fun a t => { t with isSequence := a },
    .may "constructors" (readList src depth (Constructor.format (depth - 1) src))
      fun a t => { t with constructors := a }]

/-- The format of type uses. -/
def TypeUse.format : Format TypeUse
  | 0, src =>
    let refuse : Reader TypeUse := fun _ => .error .malformed
    readRecord src 0 "struct TypeRef" (TypeUse.fields src 0 refuse refuse) default
  | depth + 1, src =>
    readRecord src (depth + 1) "struct TypeRef"
      (TypeUse.fields src depth (TypeUse.format depth src) (TypeUse.format depth .kept)) default

/-- The format of a member's marks. -/
def MemberMarks.format : Format MemberMarks := fun depth src =>
  readRecord src depth "struct MemberOptions"
    [.may "ignore" (readBool src) fun b m => { m with ignored := b },
      .may "include" (readBool src) fun b m => { m with included := b },
      .may "prevent_deep_copy" (readOption src (readBool src)) fun b m => { m with shallow := b }]
    {}

/-- The format of members. -/
def Member.format : Format Member := fun depth src =>
  readRecord src depth "struct MemberDescriptor"
    [.must "name" (readName src) fun a m => { m with name := a },
      .must "type" (TypeUse.format (depth - 1) src) fun a m => { m with type := a },
      .may "read_only" (readBool src) fun a m => { m with readOnly := a },
      .may "options" (MemberMarks.format (depth - 1) src) fun a m => { m with marks := a }]
    { name := "", type := default }

namespace Descriptor

/-- The format of descriptors. -/
def format : Format Descriptor := fun depth src =>
  readRecord src depth "struct TypeDescriptor"
    [.must "name" (readName src) fun a d => { d with name := a },
      .may "fqn" (readOption src (readName src)) fun a d => { d with fqn := a },
      .may "namespace" (readName src) fun a d => { d with namespaceName := a },
      .may "visibility" (readChoice src (depth - 1) Visibility.choices)
        fun a d => { d with visibility := a },
      .may "options" (CloneMark.format (depth - 1) src) fun a d => { d with mark := a },
      .may "members" (readList src (depth - 1) (Member.format (depth - 2) src))
        fun a d => { d with members := a }]
    { name := "" }

/-- The format of a list of descriptors. -/
def listFormat : Format (List Descriptor) := fun depth src =>
  readRecord src depth "struct DescriptorSet"
    [.must "types" (readList src (depth - 1) (format (depth - 2) src)) fun a _ => a] []

/-- Whether a value is a mapping with a text as a key. -/
def hasKey (name : String) (n : Node) : Bool :=
  match Source.typed.bare n with
  | .record entries => entries.any fun e => sameKey e.1 (.text name)
  | _ => false

/-- The descriptors of a YAML value: a list under `types`, or a single one. -/
def listOf (n : Node) : Except Fault (List Descriptor) :=
  if hasKey "types" n then fromValue listFormat n else (fun d => [d]) <$> fromValue format n

/-- The descriptors of a YAML text. -/
def readAll (text : String) : Except Fault (List Descriptor) := do
  listOf (← toValue (Yaml.read text))

end Descriptor

end DeepCopy
