/-!
# Access to files

What the commands ask of a file system, for any monad in which it answers.
-/

namespace DeepCopy

/-- Why something cannot be done with a file. -/
inductive FileError where
  | notFound
  | taken
  | notDirectory
  | isDirectory
  /-- A name or a path is longer than the system takes. -/
  | tooLong
  /-- A path has the character in it that ends texts for the system. -/
  | nul
  | other (message : String)
  deriving DecidableEq

/-- Why something cannot be done with a file, in words. -/
def FileError.message : FileError → String
  | .notFound => "No such file or directory (os error 2)"
  | .taken => "File exists (os error 17)"
  | .notDirectory => "Not a directory (os error 20)"
  | .isDirectory => "Is a directory (os error 21)"
  | .tooLong => "File name too long (os error 36)"
  | .nul => "file name contained an unexpected NUL byte"
  | .other message => message

/-- Access to files. Relative paths start at the working directory. -/
structure Files (m : Type → Type) where
  /-- The names from the root to what a path leads to. -/
  locate : String → m (Except FileError (List String))
  /-- Whether a path leads to a file that is no directory. -/
  isFile : String → m Bool
  /-- Whether a path leads to anything. -/
  isPresent : String → m Bool
  readText : String → m (Except FileError String)
  /-- Makes a directory and the directories above it, as far as they are missing. -/
  makeDirectories : String → m (Except FileError Unit)
  /-- Puts a file in its place, which must be in a directory. -/
  writeText : String → String → m (Except FileError Unit)

end DeepCopy
