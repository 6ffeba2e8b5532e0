import DeepCopy.Plan.Compile
import DeepCopy.Render.Provenance

/-!
# Project configurations

The settings of a project: how descriptors are compiled, and which units are rendered how.
-/

namespace DeepCopy

/-- The settings of rendering. -/
structure RenderSettings where
  /-- The targets in the order in which they are rendered. -/
  targets : List Target := [.csharp]
  provenance : Bool := true
  /-- Units give the time of rendering. -/
  timestamp : Bool := false
  comments : Bool := true
  /-- The directory of templates that replace standard ones. -/
  templateDir : Option String := none
  deriving DecidableEq

/-- The options of rendering at some time. -/
def RenderSettings.options (s : RenderSettings) (now : String) : RenderOptions where
  comments := s.comments
  provenance := s.provenance
  time := if s.timestamp then some now else none

/-- The configuration of a project. -/
structure Config where
  version : Nat := 1
  compile : CompileSettings := {}
  render : RenderSettings := {}
  deriving DecidableEq

end DeepCopy
