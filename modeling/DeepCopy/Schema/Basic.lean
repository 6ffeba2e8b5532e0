import DeepCopy.Json.Writer

/-!
# Schemas

The parts from which the JSON schemas of documents are put together. A `Schema` is the fields of a
schema in the order in which they are written.
-/

namespace DeepCopy

open Document (Tree)

/-- The fields of a schema. -/
abbrev Schema := List (String × Tree)

namespace Schema

/-- A schema with a description. -/
def described (text : String) (s : Schema) : Schema := ("description", .text text) :: s

/-- A schema with a default. -/
def byDefault (t : Tree) (s : Schema) : Schema := s ++ [("default", t)]

/-- The schema of a type by its name. -/
def simple (type : String) : Schema := [("type", .text type)]

/-- Texts. -/
def string : Schema := simple "string"

/-- Booleans. -/
def boolean : Schema := simple "boolean"

/-- A schema of a type by its name, or null. -/
def orNull (type : String) : Schema := [("type", .list [.text type, .text "null"])]

/-- Numbers without a sign, in a format. -/
def natural (format : String) : Schema :=
  [("type", .text "integer"), ("format", .text format), ("minimum", .integer 0)]

/-- A schema that is defined under a name. -/
def ref (name : String) : Schema := [("$ref", .text ("#/$defs/" ++ name))]

/-- A schema that is defined under a name, or null. -/
def refOrNull (name : String) : Schema :=
  [("anyOf", .list [.record (ref name), .record (simple "null")])]

/-- Lists of what is defined under a name. -/
def listOf (name : String) : Schema := simple "array" ++ [("items", .record (ref name))]

/-- Lists of what is defined under a name, with a default. -/
def listOfBy (default : Tree) (name : String) : Schema :=
  simple "array" ++ [("default", default), ("items", .record (ref name))]

/-- One of several texts. -/
def oneOfTexts (names : List String) : Schema :=
  simple "string" ++ [("enum", .list (names.map .text))]

/-- One text. -/
def constant (name : String) : Schema := simple "string" ++ [("const", .text name)]

/-- One of several schemas. -/
def oneOf (ss : List Schema) : Schema := [("oneOf", .list (ss.map .record))]

/-- Records with some properties, in the order of their names, of which some are required. -/
def object (properties : List (String × Schema)) (required : List String) : Schema :=
  simple "object" ++ [("properties", .record (properties.map fun p => (p.1, .record p.2)))] ++
    Tree.whenever (!required.isEmpty) "required" (.list (required.map .text))

/-- The whole schema of a document: its content, and the schemas that it refers to by name. -/
def document (title description : String) (content : Schema)
    (definitions : List (String × Schema)) : Tree :=
  .record <|
    [("$schema", .text "https://json-schema.org/draft/2020-12/schema"), ("title", .text title)] ++
      described description content ++
      [("$defs", .record (definitions.map fun d => (d.1, .record d.2)))]

/-- The names of the two operations. -/
def operationNames : Schema :=
  described "Names of the two generated operations" <|
    object
      [("fast", byDefault (.text "Clone") string), ("safe", byDefault (.text "CloneSafe") string)]
      []

/-- Visibilities. -/
def visibility : Schema := described "Type visibility" (oneOfTexts ["public", "internal"])

end Schema

end DeepCopy
