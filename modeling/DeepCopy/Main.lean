import DeepCopy.Command.Run
import DeepCopy.Time.Instant
import Std.Time.DateTime.Timestamp

/-!
# The program

Runs a command on the files there are, prints what it printed, and ends with its status.
-/

namespace DeepCopy.Main

/-- Why something was not done with a file. -/
def fileError : IO.Error → FileError
  | .noFileOrDirectory _ _ _ => .notFound
  | .alreadyExists _ _ _ => .taken
  | .inappropriateType _ 21 _ => .isDirectory
  | .inappropriateType _ _ _ => .notDirectory
  | e@(.invalidArgument _ code _) =>
    -- Some actions give the negated number of an error.
    if code = 36 || -code = 36 then .tooLong else .other (toString e)
  | e => .other (toString e)

/-- The result of an action on the file of a path. -/
def attempt {α : Type} (path : String) (action : IO α) : IO (Except FileError α) := do
  if let some e := Path.refusal? path then return .error e
  try return .ok (← action)
  catch e => return .error (fileError e)

/-- The files there are. -/
def files : Files IO where
  locate path := attempt path do
    return (Path.parts (← IO.FS.realPath path).toString).filter (· ≠ "")
  isFile path := do
    match ← attempt path (IO.FS.realPath path) with
    | .ok found => return !(← found.isDir)
    | .error _ => return false
  isPresent path := return (← attempt path (IO.FS.realPath path)).isOk
  readText path := attempt path (IO.FS.readFile path)
  makeDirectories path := attempt path (IO.FS.createDirAll path)
  writeText path text := attempt path (IO.FS.writeFile path text)

/-- Runs a command with the time it is. -/
def run (args : List String) : IO UInt32 := do
  let now ← Std.Time.Timestamp.now
  let instant : Instant := ⟨now.toNanosecondsSinceUnixEpoch.val.toNat⟩
  let outcome ← Command.run files instant.text args
  IO.print outcome.out
  IO.eprint outcome.err
  return UInt32.ofNat outcome.status

end DeepCopy.Main

/-- Runs a command. -/
def main (args : List String) : IO UInt32 := DeepCopy.Main.run args
