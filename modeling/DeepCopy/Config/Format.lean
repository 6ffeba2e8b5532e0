import DeepCopy.Config.Basic
import DeepCopy.Document.Text
import DeepCopy.Plan.Format
import DeepCopy.Yaml.Writer

/-!
# Configurations as documents

The tree of a configuration, the format by which it is read back, and what is wrong with a
configuration that is not accepted. There is one version of the format.
-/

namespace DeepCopy

open Document

/-- The names of targets. -/
def Target.choices : Choices Target := Target.all.map fun t => (t.name, t)

namespace RenderSettings

/-- The tree of the settings of rendering. -/
def tree (s : RenderSettings) : Tree :=
  .record <|
    [("targets", .list (s.targets.map fun t => .text t.name)), ("provenance", .bool s.provenance),
      ("timestamp", .bool s.timestamp), ("comments", .bool s.comments)] ++
    Tree.optional "template_dir" (s.templateDir.map .text)

/-- The format of the settings of rendering. -/
def format : Format RenderSettings := fun depth src =>
  readRecord src depth "struct RenderSettings"
    [.may "targets" (readList src (depth - 1) (readChoice src (depth - 2) Target.choices))
        fun a s => { s with targets := a },
      .may "provenance" (readBool src) fun a s => { s with provenance := a },
      .may "timestamp" (readBool src) fun a s => { s with timestamp := a },
      .may "comments" (readBool src) fun a s => { s with comments := a },
      .may "template_dir" (readOption src (readText src "path string"))
        fun a s => { s with templateDir := a }]
    {}

end RenderSettings

/-- What is wrong with a configuration. -/
inductive ConfigFault where
  | unreadable (fault : Fault)
  | version (version : Nat)

/-- The name of configuration files. -/
def Config.fileName : String := ".cloneplan.yaml"

/-- What is wrong with a configuration, in words. -/
def ConfigFault.message : ConfigFault → String
  | .unreadable fault =>
    "Failed to parse " ++ Config.fileName ++ ": " ++ (fault.message .yaml).getD ""
  | .version n => "Unsupported " ++ Config.fileName ++ " version: " ++ toString n

namespace Config

/-- The tree of a configuration. -/
def tree (c : Config) : Tree :=
  .record [("version", .integer c.version), ("compile", c.compile.tree), ("render", c.render.tree)]

/-- The format of configurations. -/
def format : Format Config := fun depth src =>
  readRecord src depth "struct ProjectConfig"
    [.must "version" (readWord src (Number.twoTo 32) "u32") fun a c => { c with version := a },
      .may "compile" (CompileSettings.format (depth - 1) src) fun a c => { c with compile := a },
      .may "render" (RenderSettings.format (depth - 1) src) fun a c => { c with render := a }]
    {}

/-- The configuration of a text. -/
def read (text : String) : Except ConfigFault Config := do
  let c ← (readYaml format text).mapError .unreadable
  if c.version = 1 then return c else throw (.version c.version)

/-- A configuration as YAML text. -/
def yaml (c : Config) : String := Yaml.write c.tree

end Config

end DeepCopy
