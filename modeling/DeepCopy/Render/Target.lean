import DeepCopy.Text.Case

/-!
# Targets

The languages that plans are rendered in, the names they go by, and the extension of their files.
-/

namespace DeepCopy

/-- A language that plans are rendered in. -/
inductive Target where
  | csharp
  | typescript
  deriving DecidableEq

namespace Target

/-- The targets in order. -/
def all : List Target := [.csharp, .typescript]

/-- The name of a target. -/
def name : Target → String
  | .csharp => "csharp"
  | .typescript => "typescript"

/-- The extension of a target's files. -/
def extension : Target → String
  | .csharp => "cs"
  | .typescript => "ts"

/-- The other names a target goes by. -/
def nicknames : Target → List String
  | .csharp => ["cs", "c#"]
  | .typescript => ["ts"]

/-- The target that goes by a name, in letters of either case. -/
def ofName? (name : String) : Option Target :=
  let name := String.ofList (name.toList.flatMap Text.lower)
  all.find? fun t => t.name == name || t.nicknames.contains name

/-- The name of the template a target is rendered by, where it is rendered by one. -/
def templateName? : Target → Option String
  | .csharp => none
  | .typescript => some "plans/typescript.jinja"

end Target

end DeepCopy
