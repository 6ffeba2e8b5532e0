import DeepCopy.Files.Basic

/-!
# Paths

Paths are texts whose parts are separated by slashes; a path that starts with a slash starts at the
root, every other path at some directory. The system takes names and paths of some length only, and
none with the character in it that ends its texts.

## Main definitions

* `isAbsolute`, `parts`: whether a path starts at the root, and its parts
* `join`: a path below another one
* `parent?`: a path without its last part
* `ofParts`: the path from the root along some names
* `isLong`, `refusal?`: names that are too long, and paths that the system does not take
-/

namespace DeepCopy.Path

/-- Whether a path starts at the root. -/
def isAbsolute (path : String) : Bool := path.toList.head? = some '/'

/-- The parts of a path between its slashes. -/
def partsFrom : List Char → List (List Char)
  | [] => [[]]
  | c :: cs =>
    match partsFrom cs with
    | [] => [[c]]
    | part :: parts => if c = '/' then [] :: part :: parts else (c :: part) :: parts

/-- The parts of a path between its slashes. -/
def parts (path : String) : List String := (partsFrom path.toList).map String.ofList

/-- A path below another one; an absolute path is below none. -/
def join (base path : String) : String :=
  if isAbsolute path || base.isEmpty then path
  else if base.toList.getLast? = some '/' then base ++ path
  else base ++ "/" ++ path

/-- A path, backwards, without what does not count at its end: slashes, and dots that stand for the
directory itself. -/
def dropIdle : List Char → List Char
  | '/' :: cs => dropIdle cs
  | '.' :: '/' :: cs => dropIdle cs
  | cs => cs

/-- A path without its last part; the root and the empty path have none. -/
def parent? (path : String) : Option String :=
  match dropIdle path.toList.reverse with
  | [] => none
  | cs =>
    match dropIdle (cs.dropWhile (· ≠ '/')) with
    | [] => some (if isAbsolute path then "/" else "")
    | cs => some (String.ofList cs.reverse)

/-- The path from the root along some names. -/
def ofParts (names : List String) : String := "/" ++ "/".intercalate names

/-- A path and the paths that are left when its last parts are dropped one by one. The number
bounds how many are. -/
def lineage : Nat → String → List String
  | 0, path => [path]
  | fuel + 1, path =>
    match parent? path with
    | some parent => path :: lineage fuel parent
    | none => [path]

/-! ## Limits -/

/-- The number of bytes that a name has at most. -/
def nameLimit : Nat := 255

/-- The number of bytes that a path has at most. -/
def pathLimit : Nat := 4095

/-- Whether a name is too long for anything in a directory. -/
def isLong (name : String) : Bool := nameLimit < name.utf8ByteSize

/-- Why the system does not take a path, wherever it leads; `none` where it does. -/
def refusal? (path : String) : Option FileError :=
  if path.toList.contains '\x00' then some .nul
  else if pathLimit < path.utf8ByteSize then some .tooLong
  else none

/-- The error of a path that leads nowhere, for some reason: a path that the system does not take is
not even followed. -/
def failure (path : String) (reason : FileError) : FileError := (refusal? path).getD reason

end DeepCopy.Path
