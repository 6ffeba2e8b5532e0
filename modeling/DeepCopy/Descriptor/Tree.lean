import DeepCopy.Descriptor.Basic
import DeepCopy.Digest.Sha256
import DeepCopy.Document.Tree
import DeepCopy.Json.Writer
import DeepCopy.Yaml.Writer

/-!
# Descriptors as documents

The tree of a descriptor: fields in the order of their declaration, and those with a default left
out where they say nothing. The digest of a descriptor is taken from its YAML text.

## Main definitions

* `TypeUse.tree`, `Member.tree`, `Descriptor.tree`: the trees
* `Descriptor.json`, `Descriptor.yaml`: the texts
* `Descriptor.digest`: the digest that a plan carries
-/

namespace DeepCopy

open Document (Tree)
open Document.Tree (optional whenever)

/-- The name of a visibility. -/
def Visibility.tree (v : Visibility) : Tree := .text v.keyword

/-- The name of a category. -/
def Category.name : Category → String
  | .value => "value"
  | .text => "string"
  | .reference => "reference"
  | .array => "array"
  | .parameter => "parameter"

/-- The tree of a clone mark. -/
def CloneMark.tree (m : CloneMark) : Tree :=
  .record <|
    ("explicit_declaration", .bool m.explicit) ::
      optional "prevent_deep_copy" (m.shallow.map .bool)

/-- The tree of a constructor's parameter. -/
def Parameter.tree : Parameter → Tree
  | .ownInterface => .record [("kind", .text "own_interface")]
  | .sequence element => .record [("kind", .text "sequence"), ("element", .text element)]
  | .pairs key value =>
    .record [("kind", .text "pair_sequence"), ("key", .text key), ("value", .text value)]
  | .other name => .record [("kind", .text "other"), ("name", .text name)]

/-- The tree of a constructor. -/
def Constructor.tree (c : Constructor) : Tree :=
  .record [("params", .list (c.parameters.map Parameter.tree))]

mutual

/-- The tree of a type use. -/
def TypeUse.tree : TypeUse → Tree
  | ⟨name, category, nullable, cloneable, element, interfaces, isSequence, constructors⟩ =>
    .record <|
      [("name", .text name), ("kind", .text category.name)] ++
      whenever nullable "nullable" (.bool true) ++
      optional "cloneable" (cloneable.map CloneMark.tree) ++
      TypeUse.elementField element ++
      whenever (!interfaces.isEmpty) "interfaces" (.list (Interface.trees interfaces)) ++
      whenever isSequence "sequence_interface" (.bool true) ++
      whenever (!constructors.isEmpty) "constructors" (.list (constructors.map Constructor.tree))

/-- The field of an array's element. -/
def TypeUse.elementField : Option TypeUse → List (String × Tree)
  | none => []
  | some t => [("element", t.tree)]

/-- The tree of an interface. -/
def Interface.tree : Interface → Tree
  | .sequence element => .record [("kind", .text "sequence"), ("element", element.tree)]
  | .mapping key value =>
    .record [("kind", .text "mapping"), ("key", key.tree), ("value", value.tree)]

/-- The trees of interfaces. -/
def Interface.trees : List Interface → List Tree
  | [] => []
  | i :: is => i.tree :: Interface.trees is

end

/-- The tree of a member's marks. -/
def MemberMarks.tree (m : MemberMarks) : Tree :=
  .record <|
    [("ignore", .bool m.ignored), ("include", .bool m.included)] ++
      optional "prevent_deep_copy" (m.shallow.map .bool)

/-- The tree of a member. -/
def Member.tree (m : Member) : Tree :=
  .record <|
    [("name", .text m.name), ("type", m.type.tree)] ++
    whenever m.readOnly "read_only" (.bool true) ++
    whenever (m.marks ≠ {}) "options" m.marks.tree

namespace Descriptor

/-- The tree of a descriptor. -/
def tree (d : Descriptor) : Tree :=
  .record <|
    [("name", .text d.name)] ++
    optional "fqn" (d.fqn.map .text) ++
    [("namespace", .text d.namespaceName), ("visibility", d.visibility.tree)] ++
    whenever (d.mark ≠ {}) "options" d.mark.tree ++
    [("members", .list (d.members.map Member.tree))]

/-- A descriptor as JSON text. -/
def json (d : Descriptor) : String := Json.pretty 0 d.tree

/-- A descriptor as YAML text. -/
def yaml (d : Descriptor) : String := Yaml.write d.tree

/-- The first eight octets of the digest of the YAML text. -/
def digest (d : Descriptor) : String :=
  let octets := Digest.Sha256.digest d.yaml.toUTF8.toList
  "sha256:" ++ Digest.Sha256.hexOctets (octets.take 8)

end Descriptor

end DeepCopy
