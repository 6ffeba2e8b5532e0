import DeepCopy.Schema.Basic

/-!
# The schema of descriptors

What a descriptor looks like as a document.
-/

namespace DeepCopy.Schema

/-- Clone marks. -/
def cloneMark : Schema :=
  described "Options carried by a type's cloneable marker" <|
    object
      [("explicit_declaration",
          described "Only members carrying the explicit include marker participate"
            (byDefault (.bool false) boolean)),
        ("prevent_deep_copy",
          described
            "When `Some(true)`, references to this type are copied instead of deep-cloned"
            (orNull "boolean"))]
      []

/-- Constructors. -/
def constructor : Schema :=
  described "A constructor signature" <|
    object [("params", listOfBy (.list []) "CtorParam")] []

/-- A variant with some properties, all of them required. -/
def variant (tag name description : String) (before after : List (String × Schema)) : Schema :=
  described description <|
    object (before ++ [(tag, constant name)] ++ after) (tag :: (before ++ after).map (·.1))

/-- Parameters of constructors. -/
def parameter : Schema :=
  described "A constructor parameter, as far as container reconstruction cares" <|
    oneOf
      [variant "kind" "own_interface" "An instance of the container's own collection interface"
          [] [],
        variant "kind" "sequence" "A generic sequence of `element`" [("element", string)] [],
        variant "kind" "pair_sequence" "A generic sequence of key/value pairs" [("key", string)]
          [("value", string)],
        variant "kind" "other" "Anything else" [] [("name", string)]]

/-- Collection interfaces. -/
def interface : Schema :=
  described "A collection interface implemented by a type" <|
    oneOf
      [variant "kind" "sequence" "Single-element sequence interface" [("element", ref "TypeRef")]
          [],
        variant "kind" "mapping" "Key/value mapping interface" [("key", ref "TypeRef")]
          [("value", ref "TypeRef")]]

/-- Marks of members. -/
def memberMarks : Schema :=
  described "Markers attached to a member" <|
    object
      [("ignore",
          described "Ignore marker: never deep-cloned" (byDefault (.bool false) boolean)),
        ("include",
          described "Explicit include marker (required when the type uses explicit declaration)"
            (byDefault (.bool false) boolean)),
        ("prevent_deep_copy",
          described "Member-level override of deep copying" (orNull "boolean"))]
      []

/-- Members. -/
def member : Schema :=
  described "A member (property or field) of a cloneable type" <|
    object
      [("name", described "Member name" string),
        ("options", described "Markers attached to the member" (ref "MemberOptions")),
        ("read_only", described "Member has no mutator" boolean),
        ("type", described "Member type" (ref "TypeRef"))]
      ["name", "type"]

/-- Categories of types. -/
def category : Schema :=
  described "Broad kind of a type reference" <|
    oneOf
      [oneOfTexts ["reference", "array"],
        described "Primitive or user value type" (constant "value"),
        described "String-like type" (constant "string"),
        described "Open generic parameter" (constant "parameter")]

/-- Uses of types. -/
def typeUse : Schema :=
  described "Extracted metadata of a type reference" <|
    object
      [("cloneable",
          described "Present when the type itself carries the cloneable marker"
            (refOrNull "CloneOptions")),
        ("constructors", described "Public constructors" (listOf "Constructor")),
        ("element", described "Element type of an array" (refOrNull "TypeRef")),
        ("interfaces",
          described "Collection interfaces the type implements" (listOf "InterfaceRef")),
        ("kind",
          described "Broad kind of the type" (byDefault (.text "reference") (ref "TypeKind"))),
        ("name",
          described "Display name used by renderers (fully qualified where the target needs it)"
            string),
        ("nullable",
          described "Nullable annotation (optional reference or nullable value type)" boolean),
        ("sequence_interface",
          described "The type is the generic sequence interface itself" boolean)]
      ["name"]

/-- The schema of descriptors. -/
def descriptor : Document.Tree :=
  document "Type Descriptor" "Extracted member metadata of a cloneable type"
    (object
      [("fqn",
          described "Fully-qualified name; derived from namespace and name when absent"
            (orNull "string")),
        ("members",
          described "Members in declaration order" (listOfBy (.list []) "MemberDescriptor")),
        ("name", described "Simple type name" string),
        ("namespace",
          described "Containing namespace (empty for the global namespace)"
            (byDefault (.text "") string)),
        ("options",
          described "Options from the type's cloneable marker" (ref "CloneOptions")),
        ("visibility",
          described "Declared visibility of the type"
            (byDefault (.text "public") (ref "Visibility")))]
      ["name"])
    [("CloneOptions", cloneMark), ("Constructor", constructor), ("CtorParam", parameter),
      ("InterfaceRef", interface), ("MemberDescriptor", member), ("MemberOptions", memberMarks),
      ("TypeKind", category), ("TypeRef", typeUse), ("Visibility", visibility)]

end DeepCopy.Schema
