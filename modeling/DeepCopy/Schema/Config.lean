import DeepCopy.Schema.Basic

/-!
# The schema of configurations

What the configuration of a project looks like as a document.
-/

namespace DeepCopy.Schema

open Document (Tree)

/-- The operations' names unless they are given. -/
def standardNames : Tree := .record [("fast", .text "Clone"), ("safe", .text "CloneSafe")]

/-- The settings of the compiler. -/
def compileSettings : Schema :=
  described "Compiler options" <|
    object
      [("ignore_policy", byDefault (.text "shallow_copy") (ref "IgnorePolicy")),
        ("operations", byDefault standardNames (ref "OperationNames"))]
      []

/-- What becomes of ignored members. -/
def ignorePolicy : Schema :=
  described "What happens to members carrying the ignore marker" <|
    oneOf
      [described "Copied by plain assignment, never deep-cloned" (constant "shallow_copy"),
        described "Left at the target's default value" (constant "omit")]

/-- The settings of rendering. -/
def renderSettings : Schema :=
  described "Rendering settings" <|
    object
      [("comments",
          described "Emit doc comments on generated operations"
            (byDefault (.bool true) boolean)),
        ("provenance",
          described "Emit a provenance header" (byDefault (.bool true) boolean)),
        ("targets",
          described "Target languages to generate"
            (listOfBy (.list [.text "csharp"]) "Target")),
        ("template_dir",
          described "Directory with template overrides, relative to the config file"
            (orNull "string")),
        ("timestamp",
          described "Include a generation timestamp in the provenance header"
            (byDefault (.bool false) boolean))]
      []

/-- Targets. -/
def target : Schema :=
  described "Target language for rendering" (oneOfTexts ["csharp", "typescript"])

/-- The schema of configurations. -/
def config : Tree :=
  document "cloneplan project configuration" "Project configuration (`.cloneplan.yaml`)"
    (object
      [("compile",
          described "Plan compilation settings"
            (byDefault
              (.record [("ignore_policy", .text "shallow_copy"), ("operations", standardNames)])
              (ref "CompileOptions"))),
        ("render",
          described "Rendering settings"
            (byDefault
              (.record
                [("comments", .bool true), ("provenance", .bool true),
                  ("targets", .list [.text "csharp"]), ("timestamp", .bool false)])
              (ref "RenderSettings"))),
        ("version",
          described "Schema version for migrations" (natural "uint32"))]
      ["version"])
    [("CompileOptions", compileSettings), ("IgnorePolicy", ignorePolicy),
      ("OperationNames", operationNames), ("RenderSettings", renderSettings), ("Target", target)]

end DeepCopy.Schema
