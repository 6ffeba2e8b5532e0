import DeepCopy.CSharp.Unit
import DeepCopy.TypeScript.Module

/-!
# Rendering plans

A plan becomes one unit for each target. Only the TypeScript unit is written by a template, so only
it can fail, and it cannot fail by the standard template.
-/

namespace DeepCopy

namespace Plan

/-- The content of the unit of a plan. -/
def content (p : Plan) (target : Target) (options : RenderOptions) (template : Option String) :
    Except TemplateFault String :=
  match target with
  | .csharp => .ok (p.csharp options)
  | .typescript => p.typescript options template

/-- The unit of a plan. -/
def unit (p : Plan) (target : Target) (options : RenderOptions) (template : Option String) :
    Except TemplateFault RenderedUnit := do
  return ⟨p.fileName target, ← p.content target options template⟩

end Plan

/-- The units of plans in order, or the first fault. -/
def unitsOf (target : Target) (options : RenderOptions) (template : Option String) :
    List Plan → Except TemplateFault (List RenderedUnit)
  | [] => .ok []
  | p :: ps => do
    let u ← p.unit target options template
    return u :: (← unitsOf target options template ps)

end DeepCopy
