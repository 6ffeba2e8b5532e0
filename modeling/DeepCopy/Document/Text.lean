import DeepCopy.Document.Reading
import DeepCopy.Json.Reader
import DeepCopy.Yaml.Reader

/-!
# Reading a text as a type

A whole text is read as one content: what follows the content makes the text malformed, but only
after the content itself was found to be in order.
-/

namespace DeepCopy.Document

/-- A reader for every source and every number of containers that may be entered. -/
abbrev Format (α : Type) := Nat → Source → Reader α

/-- How many containers a JSON text may nest. -/
def jsonDepth : Nat := 127

/-- How many containers a YAML text may nest. -/
def yamlDepth : Nat := 128

/-- A content that must be all there is in a text. -/
def Parsed.alone {α : Type} (d : Parsed) (a : α) : Except Fault α :=
  if d.complete then .ok a else .error .malformed

/-- A document of a JSON text as a type. -/
def fromJson {α : Type} (format : Format α) (d : Parsed) : Except Fault α := do
  d.alone (← format jsonDepth .json d.root)

/-- A document of a YAML text as a type, its scalars read as what is asked for. -/
def fromYaml {α : Type} (format : Format α) (d : Parsed) : Except Fault α := do
  d.alone (← format yamlDepth ⟨.yaml, d.anchors⟩ d.root)

/-- How many mentions are followed in a YAML text for every mark that its root is written with. A
short text whose mentions multiply is thereby refused before its value is built. -/
def mentionsPerMark : Nat := 100

/-- A document of a YAML text as a value, its scalars read as what they look like. -/
def toValue (d : Parsed) : Except Fault Node := do
  let value := valueOf ⟨.yaml, d.anchors⟩ yamlDepth d.root
  d.alone (← value.run' (mentionsPerMark * d.root.extent))

/-- A value as a type. Only texts are bounded in depth: every container of a value may be entered. -/
def fromValue {α : Type} (format : Format α) (n : Node) : Except Fault α :=
  format n.depth .typed n

/-- A JSON text as a type. -/
def readJson {α : Type} (format : Format α) (text : String) : Except Fault α :=
  fromJson format (Json.read text)

/-- A YAML text as a type. -/
def readYaml {α : Type} (format : Format α) (text : String) : Except Fault α :=
  fromYaml format (Yaml.read text)

end DeepCopy.Document
