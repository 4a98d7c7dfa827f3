/-!
# Codes

Every error, warning and report of success has a code. The catalogue classifies the codes of errors
and warnings; a code outside it is of medium severity and does not ask for a halt.
-/

namespace Hyperparams.Log

/-- The code of an event. -/
structure Code where
  text : String
deriving DecidableEq, Repr

/-- How grave a code is. -/
inductive Severity where
  | critical
  | high
  | medium
  | low
deriving DecidableEq, Repr

def Severity.label : Severity → String
  | .critical => "Critical"
  | .high => "High"
  | .medium => "Medium"
  | .low => "Low"

/-- What the catalogue says about a code. -/
structure CodeEntry where
  code : Code
  category : String
  severity : Severity
  recoverable : Bool
  requiresHalt : Bool
  description : String
  action : String

namespace Code

/-! Errors and warnings. -/

def internalError : Code := ⟨"ERR001"⟩
def initializationFailure : Code := ⟨"ERR002"⟩
def danglingFlag : Code := ⟨"E020"⟩
def missingFlagPrefix : Code := ⟨"E021"⟩
def emptyKey : Code := ⟨"E022"⟩
def tooManyTokens : Code := ⟨"E023"⟩
def keyTooLong : Code := ⟨"E024"⟩
def valueTooLong : Code := ⟨"E025"⟩
def suspiciousPair : Code := ⟨"W020"⟩
def conflictingKeys : Code := ⟨"E030"⟩
def missingClassDeclaration : Code := ⟨"E040"⟩
def invalidClassReference : Code := ⟨"E041"⟩
def emptySegment : Code := ⟨"E042"⟩
def duplicateArgument : Code := ⟨"E043"⟩
def nestingTooDeep : Code := ⟨"E044"⟩
def tooManyObjects : Code := ⟨"E045"⟩
def positionalIndexTooLarge : Code := ⟨"E046"⟩
def malformedEncoding : Code := ⟨"E047"⟩
def sparsePositionalArguments : Code := ⟨"E050"⟩
def unresolvableClass : Code := ⟨"E051"⟩
def constructionFailed : Code := ⟨"E052"⟩
def argumentBinding : Code := ⟨"E053"⟩
def duplicateClass : Code := ⟨"E060"⟩
def invalidClassName : Code := ⟨"E061"⟩
def protocolConfiguration : Code := ⟨"E070"⟩
def directoryCreation : Code := ⟨"E071"⟩
def protocolArgument : Code := ⟨"E072"⟩

/-! Reports. -/

def plainInfo : Code := ⟨"I000"⟩
def plainDebug : Code := ⟨"D000"⟩
def operationCompleted : Code := ⟨"I001"⟩
def systemInitialized : Code := ⟨"I004"⟩
def tokenizationComplete : Code := ⟨"I020"⟩
def partitionComplete : Code := ⟨"I030"⟩
def forestComplete : Code := ⟨"I040"⟩
def materializationComplete : Code := ⟨"I050"⟩
def registryReady : Code := ⟨"I060"⟩
def protocolResolved : Code := ⟨"I070"⟩

def catalogue : List CodeEntry := [
  ⟨⟨"ERR001"⟩, "System", .critical, false, true,
    "Critical internal error",
    "File a bug report with the failing argument list"⟩,
  ⟨⟨"ERR002"⟩, "System", .critical, false, true,
    "Logging or configuration initialization failed",
    "Check SMEP_* environment variables and configuration files"⟩,
  ⟨⟨"E020"⟩, "Tokenizer", .high, false, true,
    "Flag has no following value",
    "Supply a value after every --flag"⟩,
  ⟨⟨"E021"⟩, "Tokenizer", .high, false, true,
    "Flag token does not start with --",
    "Prefix every key with --"⟩,
  ⟨⟨"E022"⟩, "Tokenizer", .high, false, true,
    "Flag token has an empty key",
    "Use --name instead of a bare --"⟩,
  ⟨⟨"E023"⟩, "Tokenizer", .high, false, true,
    "Argument list exceeds the token limit",
    "Reduce the number of hyperparameters or raise max_token_count"⟩,
  ⟨⟨"E024"⟩, "Tokenizer", .medium, false, true,
    "Key exceeds the maximum key length",
    "Shorten the key or raise max_key_length"⟩,
  ⟨⟨"E025"⟩, "Tokenizer", .medium, false, true,
    "Value exceeds the maximum value length",
    "Pass large payloads through a channel instead of a hyperparameter"⟩,
  ⟨⟨"W020"⟩, "Tokenizer", .low, true, false,
    "Value token looks like a flag",
    "Check for a missing value earlier in the argument list"⟩,
  ⟨⟨"E030"⟩, "Partition", .high, false, true,
    "Plain key collides with an object root",
    "Rename the plain key or the dotted object path"⟩,
  ⟨⟨"E040"⟩, "ObjectIR", .high, false, true,
    "Argument targets an object with no __class__ declaration",
    "Add --<path>.__class__ for the owning object"⟩,
  ⟨⟨"E041"⟩, "ObjectIR", .high, false, true,
    "__class__ value is not a class name",
    "Pass a dotted class name as the __class__ value"⟩,
  ⟨⟨"E042"⟩, "ObjectIR", .high, false, true,
    "Dotted key contains an empty segment",
    "Remove doubled, leading or trailing dots"⟩,
  ⟨⟨"E043"⟩, "ObjectIR", .high, false, true,
    "Argument slot assigned more than once",
    "Remove the duplicate assignment"⟩,
  ⟨⟨"E044"⟩, "ObjectIR", .high, false, true,
    "Object nesting exceeds the depth limit",
    "Flatten the object graph or raise max_nesting_depth"⟩,
  ⟨⟨"E045"⟩, "ObjectIR", .high, false, true,
    "Too many object declarations",
    "Reduce declared objects or raise max_object_nodes"⟩,
  ⟨⟨"E046"⟩, "ObjectIR", .medium, false, true,
    "Positional index exceeds the limit",
    "Use a smaller positional index or a keyword argument"⟩,
  ⟨⟨"E047"⟩, "ObjectIR", .medium, false, true,
    "Serialized object IR is malformed",
    "Check the __kind__, class, args and kwargs fields"⟩,
  ⟨⟨"E050"⟩, "Materializer", .high, false, true,
    "Positional arguments have gaps",
    "Supply every positional index from 0 upwards"⟩,
  ⟨⟨"E051"⟩, "Materializer", .high, false, true,
    "Class is not registered",
    "Register the class or fix the __class__ value"⟩,
  ⟨⟨"E052"⟩, "Materializer", .high, false, true,
    "Constructor rejected its arguments",
    "Inspect the underlying constructor error"⟩,
  ⟨⟨"E053"⟩, "Materializer", .medium, false, true,
    "Argument could not be bound to a constructor parameter",
    "Check argument names and types against the constructor"⟩,
  ⟨⟨"E060"⟩, "Registry", .medium, false, true,
    "Class name registered twice",
    "Unregister the existing class first"⟩,
  ⟨⟨"E061"⟩, "Registry", .medium, false, true,
    "Class name is not a dotted identifier path",
    "Use names like module.Class"⟩,
  ⟨⟨"E070"⟩, "Protocol", .high, false, true,
    "Protocol configuration is invalid",
    "Check the protocol TOML file"⟩,
  ⟨⟨"E071"⟩, "Protocol", .high, false, true,
    "Could not create a local directory",
    "Check permissions on the model and output directories"⟩,
  ⟨⟨"E072"⟩, "Protocol", .medium, false, true,
    "Protocol argument is missing its value",
    "Pass a value after the protocol flag"⟩]

def entry? (c : Code) : Option CodeEntry :=
  catalogue.find? (·.code = c)

def severity (c : Code) : Severity :=
  (c.entry?.map (·.severity)).getD .medium

def recoverable (c : Code) : Bool :=
  (c.entry?.map (·.recoverable)).getD true

def requiresHalt (c : Code) : Bool :=
  (c.entry?.map (·.requiresHalt)).getD false

def description (c : Code) : String :=
  (c.entry?.map (·.description)).getD "Unknown error"

def action (c : Code) : String :=
  (c.entry?.map (·.action)).getD "No specific action available"

def category (c : Code) : String :=
  (c.entry?.map (·.category)).getD "Unknown"

end Code

end Hyperparams.Log
