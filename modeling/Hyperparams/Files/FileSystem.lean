import Hyperparams.Files.Tree

/-!
# File systems

What a program needs of a file system. A file tree is one; the files of the machine are another.
-/

namespace Hyperparams

/-- A file system within some effects. -/
class FileSystem (m : Type → Type) where
  /-- The content of a file. -/
  read : String → m (Except FileError String)
  /-- Create a file or replace its content. -/
  write : String → String → m (Except FileError Unit)
  /-- Create one directory, whose parent must be there. -/
  makeDirectory : String → m (Except FileError Unit)
  isDirectory : String → m Bool

namespace FileSystem

variable {m : Type → Type} [Monad m] [FileSystem m]

/-- Create the first of some directories, each of which is below the next one. A directory that is
there is as good as a new one. -/
def makeLineage : List String → m (Except FileError Unit)
  | [] => return .ok ()
  | path :: parents => do
    match ← makeDirectory path with
    | .ok () => return .ok ()
    | .error .notFound =>
      match ← makeLineage parents with
      | .error e => return .error e
      | .ok () => settle path (← makeDirectory path)
    | .error e => settle path (.error e)
where
  /-- An error does not matter if the directory is there. -/
  settle (path : String) : Except FileError Unit → m (Except FileError Unit)
    | .ok () => return .ok ()
    | .error e => do if ← isDirectory path then return .ok () else return .error e

/-- Create a directory and its parents. The empty path names the working directory. -/
def makeDirectories (path : String) : m (Except FileError Unit) :=
  if path.isEmpty then return .ok ()
  else makeLineage (Path.lineage path)

end FileSystem

/-- Apply a change to the state that may fail and then changes nothing. -/
def attempt {σ ε : Type} (change : σ → Except ε σ) : StateM σ (Except ε Unit) := do
  match change (← get) with
  | .ok s => set s; return .ok ()
  | .error e => return .error e

instance : FileSystem (StateM FileTree) where
  read path := do return (← get).read path
  write path content := attempt (·.write path content)
  makeDirectory path := attempt (·.makeDirectory path)
  isDirectory path := do return (← get).isDirectory path

end Hyperparams
