import DeepCopy.Template.Filling
import DeepCopy.Template.Reader
import DeepCopy.TypeScript.Expression

/-!
# Plans as TypeScript modules

The unit of a plan extends the class of its type with the two clone operations. It is written by a
template, which may be replaced; a `Module` is what the template is filled in with.

## Main definitions

* `Module`, `Module.context`: what a template is filled in with
* `Module.standard`: the text of the template that is used unless it is replaced
* `TemplateFault`: why a plan is not rendered
* `Plan.typescript`: the unit
-/

namespace DeepCopy

/-- Why something is not rendered by a template. -/
inductive TemplateFault where
  /-- The target has no template. -/
  | missing (target : Target)
  | malformed (target : Target)
  | gap (gap : Template.Gap)
  deriving DecidableEq

/-- Why something is not rendered by a template, in words. -/
def TemplateFault.message : TemplateFault → String
  | .missing target => "Template not found: no " ++ target.name ++ " template"
  | .malformed target => "Template parse error for " ++ target.name ++ ": syntax error"
  | .gap g => "Template render error: " ++ g.message

namespace TypeScript

/-- What the template of a module is filled in with. -/
structure Module where
  typeName : String
  /-- Where the type is imported from. -/
  path : String
  names : OperationNames
  header : String := ""
  comments : Bool := false
  /-- The members that the fast operation assigns, with their expressions. -/
  fast : List (String × String)
  safe : List (String × String)

namespace Module

/-- An assigned member as a value. -/
def memberValue (m : String × String) : Template.Value :=
  .record [("expr", .text m.2), ("name", .text m.1)]

/-- The values of a module. -/
def context (m : Module) : Template.Context :=
  [("type_name", .text m.typeName), ("module", .text m.path), ("fast_op", .text m.names.fast),
    ("safe_op", .text m.names.safe), ("header", .text m.header), ("comments", .bool m.comments),
    ("fast", .list (m.fast.map memberValue)), ("safe", .list (m.safe.map memberValue))]

/-- A place that is written out. -/
def place (expression : String) : String := "\x7b\x7b " ++ expression ++ " \x7d\x7d"

/-- A control tag. -/
def tag (control : String) : String := "\x7b% " ++ control ++ " %\x7d"

/-- The lines that assign the members of an operation. -/
def assigning (operation : String) : List String :=
  [tag ("for member in " ++ operation),
    "    clone." ++ place "member.name" ++ " = " ++ place "member.expr" ++ ";",
    tag "endfor"]

/-- The lines of the template that is used unless it is replaced. -/
def standardLines : List String :=
  let type := place "type_name"
  [tag "if header",
    place "header | line_comment",
    "",
    tag "endif",
    "// <auto-generated/>",
    "import \x7b " ++ type ++ " \x7d from \"" ++ place "module" ++ "\";",
    "",
    "declare module \"" ++ place "module" ++ "\" \x7b",
    "    interface " ++ type ++ " \x7b",
    tag "if comments",
    "        /**",
    "         * Creates a copy of this object.",
    "         * Deep-cloneable members are cloned without cycle protection.",
    "         */",
    tag "endif",
    "        " ++ place "fast_op | camel_case" ++ "(): " ++ type ++ ";",
    tag "if comments",
    "        /**",
    "         * Creates a copy of this object, passing objects already being cloned",
    "         * on the current path by reference so reference cycles terminate.",
    "         * @param referenceChain Objects on the current clone path.",
    "         */",
    tag "endif",
    "        " ++ place "safe_op | camel_case" ++ "(referenceChain?: object[]): " ++ type ++ ";",
    "    \x7d",
    "\x7d",
    "",
    type ++ ".prototype." ++ place "fast_op | camel_case" ++ " = function (this: " ++ type ++
      "): " ++ type ++ " \x7b",
    "    const clone = Object.create(" ++ type ++ ".prototype) as " ++ type ++ ";"] ++
  assigning "fast" ++
  ["    return clone;",
    "\x7d;",
    "",
    type ++ ".prototype." ++ place "safe_op | camel_case" ++ " = function (this: " ++ type ++
      ", referenceChain?: object[]): " ++ type ++ " \x7b",
    "    if (referenceChain?.includes(this)) return this;",
    "    referenceChain ??= [];",
    "    referenceChain.push(this);",
    "    const clone = Object.create(" ++ type ++ ".prototype) as " ++ type ++ ";"] ++
  assigning "safe" ++
  ["    referenceChain.pop();",
    "    return clone;",
    "\x7d;"]

/-- The template that is used unless it is replaced. -/
def standard : String := String.join (standardLines.map (· ++ "\n"))

/-- A module by a template. -/
def fill (m : Module) (template : String) : Except TemplateFault String :=
  match Template.read template with
  | some t => (Template.fill m.context t).mapError .gap
  | none => .error (.malformed .typescript)

/-- A module by the template of a target, which is the standard one unless it is replaced. -/
def render (m : Module) (target : Target) (template : Option String) :
    Except TemplateFault String :=
  match target.templateName? with
  | some _ => m.fill (template.getD standard)
  | none => .error (.missing target)

end Module

end TypeScript

namespace Plan

/-- The members that an operation assigns, with their expressions. -/
def typescriptMembers (p : Plan) (op : Operation) : List (String × String) :=
  (p.assignments op).map fun a =>
    let expression : TypeScript.Expression :=
      match a with
      | .cloned m => m.accessor.typescript (.member m.name) m.name false
      | .kept name => .read (.member name)
    (a.name, expression.text p.names)

/-- The module of a plan. -/
def typescriptModule (p : Plan) (options : RenderOptions) : TypeScript.Module where
  typeName := p.typeName
  path := "./" ++ p.typeName
  names := p.names
  header := "\n".intercalate (p.provenance options)
  comments := options.comments
  fast := p.typescriptMembers .fast
  safe := p.typescriptMembers .safe

/-- The unit of a plan as text, by the standard template or by the one that replaces it. -/
def typescript (p : Plan) (options : RenderOptions) (template : Option String) :
    Except TemplateFault String :=
  (p.typescriptModule options).render .typescript template

end Plan

end DeepCopy
