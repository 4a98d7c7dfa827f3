import Hyperparams.Text.Pieces

/-!
# Paths

A path is a text of names between slashes. It stays as it was written; only its names and its
parents are derived.
-/

namespace Hyperparams.Path

def separator : Char := '/'

/-- The names of a path. Separators that follow each other count as one. -/
def names (path : String) : List String :=
  ((Text.pieces separator path.toList).filter (!·.isEmpty)).map String.ofList

def isAbsolute (path : String) : Bool :=
  path.toList.head? = some separator

/-- Whether a path ends in a separator, so that it can only name a directory. -/
def endsInSeparator (path : String) : Bool :=
  path.toList.getLast? = some separator

/-- A path below another one. An absolute path is below none and stays as it is. -/
def join (base path : String) : String :=
  if isAbsolute path then path
  else if base.isEmpty || endsInSeparator base then base ++ path
  else base ++ "/" ++ path

/-- The names of a path without those that stay in place. At the beginning of a relative path such
a name is kept. -/
def significantNames (path : String) : List String :=
  match names path with
  | [] => []
  | name :: rest =>
    let rest := rest.filter (· ≠ ".")
    if name = "." && isAbsolute path then rest else name :: rest

def ofNames (absolute : Bool) (names : List String) : String :=
  (if absolute then "/" else "") ++ "/".intercalate names

/-- A path and its parents, up to the root or to the empty path, without these two. -/
def lineage (path : String) : List String :=
  let names := significantNames path
  path :: ((List.range (names.length - 1)).map fun k =>
    ofNames (isAbsolute path) (names.take (names.length - 1 - k)))

end Hyperparams.Path
