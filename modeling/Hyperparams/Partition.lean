import Std.Data.HashSet
import Hyperparams.Arguments
import Hyperparams.Log.Traced
import Hyperparams.Text.Pieces

/-!
# Plain and compound arguments

A key with a dot is compound: it speaks about the object that its first segment names. The two
halves keep the order of the arguments. A plain key that is also the name of an object is a
conflict.
-/

namespace Hyperparams

def keySeparator : Char := '.'

/-- Whether a key has several segments. -/
def isCompoundKey (key : String) : Bool :=
  key.toList.contains keySeparator

def keySegments (key : String) : List String :=
  (Text.pieces keySeparator key.toList).map String.ofList

def keyRoot (key : String) : String :=
  String.ofList (key.toList.takeWhile (· ≠ keySeparator))

/-- The parts of a compound key before and after its last separator. -/
def splitKey? (key : String) : Option (String × String) :=
  let reversed := key.toList.reverse
  match reversed.dropWhile (· ≠ keySeparator) with
  | [] => none
  | _ :: owner =>
    some (String.ofList owner.reverse,
      String.ofList (reversed.takeWhile (· ≠ keySeparator)).reverse)

/-- Why arguments cannot be partitioned. -/
inductive PartitionError where
  | conflictingKeys (key : String)
deriving DecidableEq, Repr

namespace PartitionError

def code : PartitionError → Log.Code
  | conflictingKeys _ => .conflictingKeys

def message : PartitionError → String
  | conflictingKeys key => s!"Plain argument '{key}' collides with the object rooted at '{key}.'"

def event (e : PartitionError) : Log.Event :=
  match e with
  | conflictingKeys key => .error e.code "Plain argument shadows an object root" [("key", key)]

end PartitionError

/-- The two halves of some arguments. -/
structure Partition where
  plain : Arguments
  compound : Arguments

namespace Partition

/-- Separate the compound keys from the plain ones. -/
def ofArguments (args : Arguments) : Partition where
  plain := .ofList (args.toList.filter fun entry => !isCompoundKey entry.1)
  compound := .ofList (args.toList.filter fun entry => isCompoundKey entry.1)

/-- The names of the objects that compound keys speak about. -/
def roots (p : Partition) : List String :=
  p.compound.keys.map keyRoot

/-- The first plain key that is also the name of an object. -/
def conflict? (p : Partition) : Option String :=
  let roots := Std.HashSet.ofList p.roots
  p.plain.keys.find? roots.contains

def check (p : Partition) : Log.Traced PartitionError Unit :=
  match p.conflict? with
  | some key =>
    let e := PartitionError.conflictingKeys key
    .failWith e e.event
  | none => pure ()

def event (p : Partition) : Log.Event :=
  .success .partitionComplete "Arguments partitioned"
    [("plain", toString p.plain.size), ("compound", toString p.compound.size)]

def checked (args : Arguments) : Log.Traced PartitionError Partition := do
  let p := ofArguments args
  p.check
  .emit p.event
  return p

end Partition

end Hyperparams
