/-!
# Files and directories

A tree of files as the game sees it: text files and directories under absolute paths, and a working
directory from which relative paths start. Paths are followed component by component, so that a
step up leads out of a directory that exists.
-/

namespace Muster

/-- The components of an absolute path. -/
abbrev Location := List String

/-- Files and directories, and the working directory. -/
structure FileTree where
  /-- The directories below the root. -/
  directories : List Location := []
  files : List (Location × String) := []
  workingDirectory : Location := []
  deriving Repr

/-- Why a file cannot be read. -/
inductive ReadProblem where
  | notFound
  | notDirectory
  | isDirectory
  | nameTooLong
  deriving DecidableEq, Repr

/-- The wording of a problem with its number. -/
def ReadProblem.message : ReadProblem → String
  | .notFound => "No such file or directory (os error 2)"
  | .notDirectory => "Not a directory (os error 20)"
  | .isDirectory => "Is a directory (os error 21)"
  | .nameTooLong => "File name too long (os error 36)"

namespace FilePath

/-- Whether a path starts at the root. -/
def isAbsolute (path : String) : Bool := path.toList.head? = some '/'

/-- A path continued by another one, as it is written: nothing is cleaned up. -/
def join (path more : String) : String :=
  if isAbsolute more || path.isEmpty then more
  else if path.toList.getLast? = some '/' then path ++ more
  else path ++ "/" ++ more

/-- How many bytes a path has at most. -/
def maxBytes : Nat := 4095

/-- How many bytes a component that names a file or directory has at most. -/
def maxNameBytes : Nat := 255

/-- The components of a path, with empty ones where slashes meet. -/
def components (path : String) : List String := path.splitOn "/"

end FilePath

namespace FileTree

/-- Whether there is a directory. -/
def hasDirectory (tree : FileTree) (place : Location) : Bool :=
  place.isEmpty || tree.directories.contains place

/-- The text of a file. -/
def text? (tree : FileTree) (place : Location) : Option String := tree.files.lookup place

/-- Whether there is a file or a directory. -/
def has (tree : FileTree) (place : Location) : Bool :=
  tree.hasDirectory place || (tree.text? place).isSome

/-- Follows some components from a place. -/
def follow (tree : FileTree) (place : Location) : List String → Except ReadProblem Location
  | [] => .ok place
  | component :: more =>
    -- even an empty component wants a directory, as in a path that ends with a slash
    if !tree.hasDirectory place then .error .notDirectory
    else if component = "" || component = "." then tree.follow place more
    else if component = ".." then tree.follow place.dropLast more
    else if FilePath.maxNameBytes < component.utf8ByteSize then .error .nameTooLong
    else if tree.has (place ++ [component]) then tree.follow (place ++ [component]) more
    else .error .notFound

/-- Where a path leads. -/
def resolve (tree : FileTree) (path : String) : Except ReadProblem Location :=
  if path.isEmpty then .error .notFound
  else if FilePath.maxBytes < path.utf8ByteSize then .error .nameTooLong
  else
    tree.follow (if FilePath.isAbsolute path then [] else tree.workingDirectory)
      (FilePath.components path)

/-- Whether a path leads to a directory. -/
def isDirectory (tree : FileTree) (path : String) : Bool :=
  match tree.resolve path with
  | .ok place => tree.hasDirectory place
  | .error _ => false

/-- The text of the file that a path leads to. -/
def read (tree : FileTree) (path : String) : Except ReadProblem String := do
  let place ← tree.resolve path
  match tree.text? place with
  | some text => .ok text
  | none => .error .isDirectory

/-- Where a path leads once the directories on the way have been made. -/
def place (tree : FileTree) (path : String) : Location :=
  (FilePath.components path).foldl
    (fun place component =>
      if component = "" || component = "." then place
      else if component = ".." then place.dropLast
      else place ++ [component])
    (if FilePath.isAbsolute path then [] else tree.workingDirectory)

/-- Makes a directory and those around it. -/
def makeDirectory (tree : FileTree) (place : Location) : FileTree :=
  let around := (List.range place.length).map fun n => place.take (n + 1)
  { tree with directories := tree.directories ++ around.filter (!tree.directories.contains ·) }

/-- Writes a file, in place of the one that was there, and makes the directories around it. -/
def write (tree : FileTree) (path text : String) : FileTree :=
  let place := tree.place path
  let tree := tree.makeDirectory place.dropLast
  { tree with files := (place, text) :: tree.files.filter (·.1 != place) }

/-- Deletes a file. -/
def delete (tree : FileTree) (path : String) : FileTree :=
  let place := tree.place path
  { tree with files := tree.files.filter (·.1 != place) }

end FileTree

end Muster
