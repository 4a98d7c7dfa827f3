import Hyperparams.Files.Error
import Hyperparams.Files.Path
import Hyperparams.Sorted

/-!
# File trees

A tree of directories and text files, with a working directory where relative paths begin. Every
operation goes over the names of a path, and each but the last must be a directory.
-/

namespace Hyperparams

/-- The files and directories below the root, by the names on the way to them. -/
structure FileTree where
  /-- The content of every file, and nothing for a directory. -/
  entries : Sorted.Table (List String) (Option String) := ∅
  workingDirectory : List String := []

namespace FileTree

def pathLength : Nat := 4095

def nameLength : Nat := 255

def at? (t : FileTree) (place : List String) : Option (Option String) :=
  if place.isEmpty then some none else t.entries.find? place

/-- Step from a directory to the place that a name leads to. -/
def step (place : List String) (name : String) : Except FileError (List String) :=
  if name = "." then .ok place
  else if name = ".." then .ok place.dropLast
  else if nameLength < name.utf8ByteSize then .error .nameTooLong
  else .ok (place ++ [name])

/-- Follow names that must all lead to directories. -/
def enter (t : FileTree) (place : List String) : List String → Except FileError (List String)
  | [] => .ok place
  | name :: rest => do
    let place ← step place name
    match t.at? place with
    | none => .error .notFound
    | some (some _) => .error .notDirectory
    | some none => t.enter place rest

/-- The directory in which a path begins, and its names. -/
def start (t : FileTree) (path : String) : Except FileError (List String × List String) :=
  if path.toList.contains '\x00' then .error .malformedPath
  else if path.isEmpty then .error .notFound
  else if pathLength < path.utf8ByteSize then .error .nameTooLong
  else .ok (if Path.isAbsolute path then [] else t.workingDirectory, Path.names path)

/-- The place of a path. All names but the last lead to directories. -/
def locate (t : FileTree) (path : String) : Except FileError (List String) := do
  let (place, names) ← t.start path
  match names.getLast? with
  | none => return place
  | some name => step (← t.enter place names.dropLast) name

def isDirectory (t : FileTree) (path : String) : Bool :=
  match t.locate path with
  | .error _ => false
  | .ok place => t.at? place = some none

def makeDirectory (t : FileTree) (path : String) : Except FileError FileTree := do
  let place ← t.locate path
  if (t.at? place).isSome then throw .alreadyExists
  return { t with entries := t.entries.insert place none }

def read (t : FileTree) (path : String) : Except FileError String := do
  let place ← t.locate path
  match t.at? place with
  | none => throw .notFound
  | some none => throw .isDirectory
  | some (some content) =>
    if Path.endsInSeparator path then throw .notDirectory
    return content

/-- Create a file or replace its content. -/
def write (t : FileTree) (path content : String) : Except FileError FileTree := do
  let place ← t.locate path
  if t.at? place = some none || Path.endsInSeparator path then throw .isDirectory
  return { t with entries := t.entries.insert place (some content) }

/-- The files and directories below a directory, each with its relative path: a directory comes
before what it holds, and names ascend. -/
def listing (t : FileTree) (directory : List String) : List (String × Option String) :=
  t.entries.entries.filterMap fun (place, content) =>
    if directory.isPrefixOf place && directory.length < place.length then
      some (Path.ofNames false (place.drop directory.length), content)
    else none

end FileTree

end Hyperparams
