import Hyperparams.Log.Code
import Hyperparams.Value.Basic

/-!
# Instances and arguments

An instance is an object together with the class it was built from. Objects are identified by the
path at which they were built, because every node of a forest is built exactly once. An argument of
a call is a plain value or an instance. The type of objects is a parameter of all that follows.
-/

namespace Hyperparams

/-- A built object. -/
structure Instance (ω : Type) where
  classRef : String
  /-- Where the object was built. -/
  origin : String
  object : ω

/-- An argument of a call. -/
inductive Argument (ω : Type) where
  | value (v : Value)
  | object (i : Instance ω)

/-- What has to be known about objects: their diagnostic text, and the items of those that are
collections. -/
class Describable (ω : Type) where
  describe : ω → String
  items? : ω → Option (List (Argument ω))

variable {ω : Type}

/-- Whether two instances are the very same object. -/
def Instance.isSame (a b : Instance ω) : Bool :=
  a.origin = b.origin

namespace Argument

def kind : Argument ω → String
  | value v => v.kind
  | object _ => "object"

def value? : Argument ω → Option Value
  | value v => some v
  | object _ => none

def instance? : Argument ω → Option (Instance ω)
  | value _ => none
  | object i => some i

/-- Whether two arguments count as one item: plain values by value, objects by identity. -/
def isSame : Argument ω → Argument ω → Bool
  | value a, value b => a.same b
  | object a, object b => a.isSame b
  | _, _ => false

def text [Describable ω] : Argument ω → String
  | value v => v.text
  | object i => Describable.describe i.object

end Argument

/-- Why the arguments of a call cannot be bound. -/
inductive ArgumentError where
  | multipleValues (classRef name : String) (index : Nat)
  | missing (classRef name : String)
  | typeMismatch (classRef name expected found reason : String)
  | wrongObjectType (classRef name expected found : String)
  | unexpected (classRef : String) (arguments : List String)
deriving DecidableEq, Repr

namespace ArgumentError

def code (_ : ArgumentError) : Log.Code :=
  .argumentBinding

def message : ArgumentError → String
  | multipleValues classRef name index =>
    s!"{classRef}() got multiple values for argument '{name}' (position {index} and keyword)"
  | missing classRef name => s!"{classRef}() missing required argument '{name}'"
  | typeMismatch classRef name expected found reason =>
    s!"{classRef}() argument '{name}' expects {expected}, got {found}: {reason}"
  | wrongObjectType classRef name expected found =>
    s!"{classRef}() argument '{name}' expects an instance of {expected}, got {found}"
  | unexpected classRef arguments =>
    classRef ++ "() got unexpected arguments: " ++ ", ".intercalate arguments

end ArgumentError

/-- Why an object cannot be constructed. -/
inductive ConstructError where
  | argument (e : ArgumentError)
  /-- A set cannot hold an item. -/
  | unhashable (classRef : String) (index : Nat) (kind : String)
  | other (message : String)
deriving DecidableEq, Repr

def ConstructError.message : ConstructError → String
  | argument e => e.message
  | unhashable classRef index kind => s!"{classRef}() item {index} is unhashable ({kind})"
  | other message => message

end Hyperparams
