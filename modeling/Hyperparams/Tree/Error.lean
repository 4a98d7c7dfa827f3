import Hyperparams.Limits
import Hyperparams.Log.Event

/-!
# Errors of object trees
-/

namespace Hyperparams

/-- Why an object tree is refused. -/
inductive TreeError where
  | missingClassDeclaration (key owner : String)
  | invalidClassReference (path found : String)
  | emptySegment (key : String)
  | duplicateArgument (path slot : String)
  | nestingTooDeep (path : String) (depth : Nat)
  | tooManyObjects (count : Nat)
  | positionalIndexTooLarge (key index : String)
  | positionalGap (path : String) (missing : Nat)
  | malformedEncoding (path reason : String)
  /-- A class without an object, which only a key without a dot can declare. -/
  | classWithoutOwner
deriving DecidableEq, Repr

namespace TreeError

def code : TreeError → Log.Code
  | missingClassDeclaration .. => .missingClassDeclaration
  | invalidClassReference .. => .invalidClassReference
  | emptySegment .. => .emptySegment
  | duplicateArgument .. => .duplicateArgument
  | nestingTooDeep .. => .nestingTooDeep
  | tooManyObjects .. => .tooManyObjects
  | positionalIndexTooLarge .. => .positionalIndexTooLarge
  | positionalGap .. => .sparsePositionalArguments
  | malformedEncoding .. => .malformedEncoding
  | classWithoutOwner => .internalError

def message : TreeError → String
  | missingClassDeclaration key owner =>
    s!"Argument '{key}' targets '{owner}', which has no '{owner}.__class__' declaration"
  | invalidClassReference path found =>
    s!"'{path}.__class__' must be a class name, found a {found} value"
  | emptySegment key => s!"Key '{key}' contains an empty segment"
  | duplicateArgument path slot => s!"Argument '{slot}' of '{path}' is assigned more than once"
  | nestingTooDeep path depth =>
    s!"Object '{path}' is nested {depth} levels deep (limit {Limits.nestingDepth})"
  | tooManyObjects count =>
    s!"Too many object declarations: {count} (limit {Limits.objectCount})"
  | positionalIndexTooLarge key index =>
    s!"Positional index '{index}' in '{key}' exceeds the limit of {Limits.positionalIndex}"
  | positionalGap path missing => s!"Positional arguments of '{path}' skip index {missing}"
  | malformedEncoding path reason => s!"Malformed object encoding at '{path}': {reason}"
  | classWithoutOwner => "The key '__class__' declares the class of no object"

/-- The events that report an error. A class without an object is not reported. -/
def events (e : TreeError) : List Log.Event :=
  match e with
  | classWithoutOwner => []
  | e => [.error e.code e.message]

end TreeError

end Hyperparams
