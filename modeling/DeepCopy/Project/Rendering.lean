import DeepCopy.Project.Failure

/-!
# From descriptors to units

The plans of a descriptor document and the units of plans, as a configuration says. A template of
the right name in the configuration's template directory replaces the standard one.

## Main definitions

* `plansOf`: the plans of a descriptor document
* `unitsOfText`: the units of a descriptor document by the standard templates
* `replacement`: the template that replaces the standard one
* `Config.units`: the units of plans, as a configuration says
-/

namespace DeepCopy

/-- The plans of a descriptor document. -/
def plansOf (settings : CompileSettings) (text : String) : Except Failure (List Plan) := do
  let ds ← (Descriptor.readAll text).mapError .descriptors
  (compileAll settings ds).mapError .rejected

/-- The units of a descriptor document by the standard templates. -/
def unitsOfText (settings : CompileSettings) (options : RenderOptions) (target : Target)
    (text : String) : Except Failure (List RenderedUnit) := do
  let ps ← plansOf settings text
  (unitsOf target options none ps).mapError .template

variable {m : Type → Type} [Monad m]

/-- The template of a name in a directory, where there is one. -/
def replacement (files : Files m) (dir name : String) : m (Except Failure (Option String)) := do
  let path := Path.join dir name
  if ← files.isPresent path then
    match ← files.readText path with
    | .ok text => return .ok (some text)
    | .error e => return .error (.templateFile path e)
  else return .ok none

/-- The template that the units of a target are written by, where it is not the standard one. -/
def Config.template (c : Config) (files : Files m) (target : Target) :
    m (Except Failure (Option String)) :=
  match c.render.templateDir, target.templateName? with
  | some dir, some name => replacement files dir name
  | _, _ => return .ok none

/-- The units of plans for a target. Templates are read only where there is something to write. -/
def Config.units (c : Config) (files : Files m) (now : String) (target : Target) (ps : List Plan) :
    m (Except Failure (List RenderedUnit)) := do
  if ps.isEmpty then return .ok []
  match ← c.template files target with
  | .ok template =>
    return (unitsOf target (c.render.options now) template ps).mapError .template
  | .error e => return .error e

end DeepCopy
