import DeepCopy.Files.Basic
import DeepCopy.Files.Path

/-!
# Trees of files

A directory tree as a value, and access to its files. A path is followed part by part: the part
`..` leads one directory up, from the root to the root, and every part leads on from a directory
only.

What is in a tree is taken to have paths within the limits of the system, so that reading does not
look at them but for the errors. What is made or written has to keep to them.

## Main definitions

* `FileTree`, `FileTree.get?`, `FileTree.put`: trees, and what is in the place of some names
* `FileTree.follow`: the names that a path leads along
* `FileTree.files`: access to the files of a tree
-/

namespace DeepCopy

/-- A file, or a directory with the files and directories in it. -/
inductive FileTree where
  | file (text : String)
  | directory (entries : List (String × FileTree))

namespace FileTree

/-- What is in the place of some names. -/
def get? : List String → FileTree → Option FileTree
  | [], t => some t
  | name :: names, .directory entries => (entries.lookup name).bind (get? names)
  | _ :: _, .file _ => none

/-- Entries with one of them replaced, or added at the end. -/
def setEntry (name : String) (t : FileTree) :
    List (String × FileTree) → List (String × FileTree)
  | [] => [(name, t)]
  | e :: es => if e.1 = name then (name, t) :: es else e :: setEntry name t es

/-- A tree with something put in the place of some names, and with directories on the way. -/
def put (new : FileTree) : List String → FileTree → FileTree
  | [], _ => new
  | name :: names, .directory entries =>
    .directory
      (setEntry name (put new names ((entries.lookup name).getD (.directory []))) entries)
  | _ :: _, .file text => .file text

/-- Whether there is a directory in the place of some names. -/
def isDirectoryAt (t : FileTree) (names : List String) : Bool :=
  match t.get? names with
  | some (.directory _) => true
  | _ => false

/-- What is wrong where there is nothing in the place of some names: there is none, or there can be
none because of the length of the last name. -/
def absence (place : List String) : FileError :=
  if place.getLast?.any Path.isLong then .tooLong else .notFound

/-- The names that some parts of a path lead along, from the place of other names. -/
def follow (t : FileTree) : List String → List String → Except FileError (List String)
  | place, [] => if (t.get? place).isSome then .ok place else .error (absence place)
  | place, part :: parts =>
    match t.get? place with
    | none => .error (absence place)
    | some (.file _) => .error .notDirectory
    | some (.directory _) =>
      -- Empty parts stand between doubled separators and at the end of a path.
      if part = "" || part = "." then t.follow place parts
      else if part = ".." then t.follow place.dropLast parts
      else t.follow (place ++ [part]) parts

/-- The place from which a path starts. -/
def origin (home : List String) (path : String) : List String :=
  if Path.isAbsolute path then [] else home

/-- The names that a path leads along. -/
def locate (t : FileTree) (home : List String) (path : String) :
    Except FileError (List String) :=
  if path.isEmpty then .error .notFound
  else t.follow (origin home path) (Path.parts path)

/-- What a path leads to. -/
def find (t : FileTree) (home : List String) (path : String) : Except FileError FileTree := do
  match t.get? (← t.locate home path) with
  | some found => return found
  | none => throw .notFound

/-- Parts of a path without the empty ones at its end. -/
def dropEmptyEnd (parts : List String) : List String :=
  (parts.reverse.dropWhile (· = "")).reverse

/-- The directory and the name that a path leads to, whether or not there is anything of that
name. There is none where the path ends in no name. -/
def slot (t : FileTree) (home : List String) (path : String) :
    Except FileError (List String × Option String) := do
  match Path.refusal? path with
  | some e => throw e
  | none =>
    let parts := dropEmptyEnd (Path.parts path)
    match parts.getLast? with
    | none => if path.isEmpty then throw .notFound else return ([], none)
    | some last =>
      let place ← t.follow (origin home path) parts.dropLast
      if t.isDirectoryAt place then
        return (place, if last = "." || last = ".." then none else some last)
      else throw .notDirectory

/-- A tree with a new directory. -/
def makeDirectory (t : FileTree) (home : List String) (path : String) :
    Except FileError FileTree := do
  match ← t.slot home path with
  | (_, none) => throw .taken
  | (place, some name) =>
    if (t.get? (place ++ [name])).isSome then throw .taken
    else if Path.isLong name then throw .tooLong
    else return put (.directory []) (place ++ [name]) t

/-- Whether a path that the system takes leads to a directory. -/
def isDirectory (t : FileTree) (home : List String) (path : String) : Bool :=
  (Path.refusal? path).isNone &&
    match t.find home path with
    | .ok (.directory _) => true
    | _ => false

/-- A tree with a directory made on the way that starts with its path, as far as it is missing;
the directories above it come after it. -/
def makeLineage (home : List String) : List String → FileTree → Except FileError Unit × FileTree
  | [], t => (.error (.other "failed to create whole tree"), t)
  | path :: above, t =>
    if path.isEmpty then (.ok (), t)
    else
      match t.makeDirectory home path with
      | .ok t => (.ok (), t)
      | .error .notFound =>
        -- The directory above is missing: it is made first.
        match makeLineage home above t with
        | (.error e, t) => (.error e, t)
        | (.ok (), t) =>
          match t.makeDirectory home path with
          | .ok t => (.ok (), t)
          | .error e => (if t.isDirectory home path then .ok () else .error e, t)
      | .error e => (if t.isDirectory home path then .ok () else .error e, t)

/-- A tree with a directory and the directories above it. -/
def makeDirectories (home : List String) (path : String) (t : FileTree) :
    Except FileError Unit × FileTree :=
  makeLineage home (Path.lineage path.length path) t

/-- A tree with a file in its place. -/
def write (t : FileTree) (home : List String) (path text : String) :
    Except FileError FileTree := do
  match ← t.slot home path with
  | (_, none) => throw .isDirectory
  | (place, some name) =>
    if t.isDirectoryAt (place ++ [name]) || (Path.parts path).getLast? = some "" then
      throw .isDirectory
    else if Path.isLong name then throw .tooLong
    else return put (.file text) (place ++ [name]) t

/-- Access to the files of a tree from a working directory. -/
def files (home : List String) : Files (StateM FileTree) where
  locate path := return ((← get).locate home path).mapError (Path.failure path)
  isFile path := do
    match (← get).find home path with
    | .ok (.file _) => return true
    | _ => return false
  isPresent path := return ((← get).find home path).isOk
  readText path := do
    match (← get).find home path with
    | .ok (.file text) => return .ok text
    | .ok (.directory _) => return .error .isDirectory
    | .error e => return .error (Path.failure path e)
  makeDirectories path := modifyGet (makeDirectories home path)
  writeText path text := do
    match (← get).write home path text with
    | .ok t =>
      set t
      return .ok ()
    | .error e => return .error e

mutual

/-- The files of a tree by their paths, below some place. -/
def texts (place : List String) : FileTree → List (List String × String)
  | .file text => [(place, text)]
  | .directory entries => textsOf place entries

/-- The files of entries by their paths, below some place. -/
def textsOf (place : List String) : List (String × FileTree) → List (List String × String)
  | [] => []
  | (name, t) :: es => texts (place ++ [name]) t ++ textsOf place es

end

end FileTree

end DeepCopy
