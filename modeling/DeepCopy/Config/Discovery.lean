import DeepCopy.Config.Format
import DeepCopy.Files.Basic
import DeepCopy.Files.Path

/-!
# The configuration of a directory

The configuration that counts in a directory is in the nearest directory at or above it that has a
file of the right name. A template directory is given relative to the configuration's own one.

## Main definitions

* `Config.ancestors`: a directory and the directories above it, the nearest first
* `Config.find`: the path of the configuration that counts
* `Config.load`, `Config.discover`: the configuration of a path and the one that counts
-/

namespace DeepCopy

/-- Why there is no configuration. -/
inductive ConfigError where
  | file (error : FileError)
  | fault (fault : ConfigFault)

namespace Config

/-- A configuration whose template directory is given relative to the file of a path. -/
def below (path : String) (c : Config) : Config :=
  match c.render.templateDir, Path.parent? path with
  | some dir, some base =>
    if Path.isAbsolute dir then c
    else { c with render := { c.render with templateDir := some (Path.join base dir) } }
  | _, _ => c

/-- A directory and the directories above it, as names from the root, the nearest first. -/
def ancestors (place : List String) : List (List String) :=
  (List.range (place.length + 1)).reverse.map place.take

/-- The path of the configuration in a directory. -/
def pathIn (place : List String) : String := Path.join (Path.ofParts place) fileName

variable {m : Type → Type} [Monad m]

/-- The first of some directories that has a configuration. -/
def firstWith (files : Files m) : List (List String) → m (Option String)
  | [] => return none
  | place :: places => do
    if ← files.isFile (pathIn place) then return some (pathIn place)
    else firstWith files places

/-- The path of the configuration that counts in a directory. -/
def find (files : Files m) (start : String) : m (Except FileError (Option String)) := do
  match ← files.locate start with
  | .ok place => return .ok (← firstWith files (ancestors place))
  | .error e => return .error e

/-- The configuration of a path. -/
def load (files : Files m) (path : String) : m (Except ConfigError Config) := do
  match ← files.readText path with
  | .ok text => return (read text).mapError .fault |>.map (below path)
  | .error e => return .error (.file e)

/-- The configuration that counts in a directory. -/
def discover (files : Files m) (start : String) : m (Except ConfigError (Option Config)) := do
  match ← find files start with
  | .ok (some path) => return (← load files path).map some
  | .ok none => return .ok none
  | .error e => return .error (.file e)

end Config

end DeepCopy
