import DeepCopy.Config.Discovery
import DeepCopy.Descriptor.Format
import DeepCopy.Render.Unit

/-!
# Failures

Why a descriptor document is not turned into plans and units, with the wording of every reason.
-/

namespace DeepCopy

/-- Why something asked of a project is not done. -/
inductive Failure where
  /-- The descriptors cannot be read. -/
  | descriptors (fault : Document.Fault)
  | rejected (rejection : Rejection)
  | template (fault : TemplateFault)
  /-- A template that is there cannot be read. -/
  | templateFile (path : String) (error : FileError)
  | config (fault : ConfigFault)
  | file (error : FileError)
  /-- What was asked for makes no sense. -/
  | request (message : String)

/-- Why something asked of a project is not done, in words. -/
def Failure.message : Failure → String
  | .descriptors fault => "Descriptor parse error: " ++ (fault.message .yaml).getD ""
  | .rejected r => r.message
  | .template fault => "Render error: " ++ fault.message
  | .templateFile path e => "Render error: IO error: Failed to read " ++ path ++ ": " ++ e.message
  | .config fault => "Config error: " ++ fault.message
  | .file e => "IO error: " ++ e.message
  | .request message => message

/-- The failure to have a configuration. -/
def ConfigError.failure : ConfigError → Failure
  | .file e => .file e
  | .fault f => .config f

end DeepCopy
