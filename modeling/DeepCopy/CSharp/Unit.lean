import DeepCopy.CSharp.Expression

/-!
# Plans as C# classes

The unit of a plan is a partial class with the two clone operations. It is written line by line;
`indent` moves lines one level to the right.

## Main definitions

* `Plan.csharpInitializer`: the object initializer with one assignment per line
* `Plan.csharpFast`, `Plan.csharpSafe`: the operations
* `Plan.csharp`: the unit
-/

namespace DeepCopy

namespace CSharp

/-- Lines one level further to the right; blank lines stay blank. -/
def indent (lines : List String) : List String :=
  lines.map fun line => if line.isEmpty then line else "    " ++ line

/-- The documentation comment of an operation. -/
def summary (lines : List String) : List String :=
  ["/// <summary>"] ++ lines.map ("/// " ++ ·) ++ ["/// </summary>"]

/-- Lines between braces, the second one followed by `close`; two braces on one line where there is
nothing between them. -/
def braced (lines : List String) (close : String) : List String :=
  if lines.isEmpty then ["\x7b\x7d" ++ close] else ["\x7b"] ++ indent lines ++ ["\x7d" ++ close]

end CSharp

namespace Plan

open CSharp

/-- One assignment of an object initializer. -/
def csharpAssignment (p : Plan) (a : Assignment) : String :=
  let value :=
    match a with
    | .cloned m => (m.accessor.csharp (.member m.name) m.name false).text p.names
    | .kept name => (Receiver.member name).text
  a.name ++ " = " ++ value ++ ","

/-- A new object with its members assigned, after some words. -/
def csharpInitializer (p : Plan) (lead : String) (op : Operation) : List String :=
  [lead ++ " new " ++ p.fqn] ++ braced ((p.assignments op).map p.csharpAssignment) ";"

/-- The fast operation. -/
def csharpFast (p : Plan) (options : RenderOptions) : List String :=
  (if options.comments then
    summary
      ["Creates a copy of this object.",
        "Deep-cloneable members are cloned without cycle protection;",
        "use the cycle-safe operation for graphs that may contain cycles."]
  else []) ++
  ["public " ++ p.fqn ++ " " ++ p.names.fast ++ "()"] ++
  braced (p.csharpInitializer "return" .fast) ""

/-- The safe operation. -/
def csharpSafe (p : Plan) (options : RenderOptions) : List String :=
  (if options.comments then
    summary
      ["Creates a copy of this object, passing objects already being cloned",
        "on the current path by reference so reference cycles terminate."] ++
      ["/// <param name=\"referenceChain\">Objects on the current clone path.</param>"]
  else []) ++
  ["public " ++ p.fqn ++ " " ++ p.names.safe ++ "(" ++ stackType ++ "? referenceChain = null)"] ++
  braced
    (["if (referenceChain?.Contains(this) == true) return this;",
        "referenceChain ??= new " ++ stackType ++ "();",
        "referenceChain.Push(this);"] ++
      p.csharpInitializer "var clone =" .safe ++
      ["referenceChain.Pop();", "return clone;"])
    ""

/-- The lines of the unit of a plan. -/
def csharpLines (p : Plan) (options : RenderOptions) : List String :=
  let header := (p.provenance options).map ("// " ++ ·)
  (if header.isEmpty then [] else header ++ [""]) ++
  ["// <auto-generated/>", "#nullable enable", "", "using System;", "using System.Linq;", ""] ++
  (if p.namespaceName.isEmpty then [] else ["namespace " ++ p.namespaceName ++ ";", ""]) ++
  [p.visibility.keyword ++ " partial class " ++ p.typeName] ++
  braced (p.csharpFast options ++ [""] ++ p.csharpSafe options) ""

/-- The unit of a plan as text; every line has an end. -/
def csharp (p : Plan) (options : RenderOptions) : String :=
  String.join ((p.csharpLines options).map (· ++ "\n"))

end Plan

end DeepCopy
