import DeepCopy.Plan.Basic
import DeepCopy.Render.Target

/-!
# What rendered units have in common

The options of rendering, the lines that say where a unit comes from, and the name of its file.
-/

namespace DeepCopy

/-- The options of rendering. -/
structure RenderOptions where
  /-- Operations have documentation comments. -/
  comments : Bool := true
  /-- Units say where they come from. -/
  provenance : Bool := true
  /-- The time that is given as that of rendering. -/
  time : Option String := none

/-- A rendered file. -/
structure RenderedUnit where
  fileName : String
  content : String
  deriving DecidableEq

namespace Plan

/-- The lines that say where a rendered plan comes from, before they become comments. -/
def provenance (p : Plan) (options : RenderOptions) : List String :=
  if options.provenance then
    ["GENERATED FROM: " ++ p.fqn, "DESCRIPTOR HASH: " ++ p.descriptorDigest] ++
      options.time.toList.map ("GENERATED: " ++ ·) ++
      ["DO NOT EDIT - regenerate from descriptor"]
  else []

/-- The name of the file of a rendered plan. Only C# spells out the namespace. -/
def fileName (p : Plan) (target : Target) : String :=
  let stem :=
    match target with
    | .csharp =>
      if p.namespaceName.isEmpty then p.typeName else p.namespaceName ++ "." ++ p.typeName
    | .typescript => p.typeName
  stem ++ ".cloneable.g." ++ target.extension

end Plan

/-- The variable of a lambda that stands one level below a name. -/
def lambdaVariable (name : String) : String := name ++ "x"

end DeepCopy
