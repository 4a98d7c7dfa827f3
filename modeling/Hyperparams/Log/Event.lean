import Hyperparams.Json.Printer
import Hyperparams.Limits
import Hyperparams.Log.Code
import Hyperparams.Log.Level
import Hyperparams.Sorted
import Hyperparams.Text.Boundary

/-!
# Events

An event has a level, a code, a message and a context of named texts in the order of their names.
Messages are cut to a number of bytes at the end of a whole character. An event is written either
as a plain line or as a JSON document; the time of writing is the writer's.
-/

namespace Hyperparams.Log

/-- A message cut at the last boundary within the limit; a cut message ends in an ellipsis. There is
no result if there is no such boundary. -/
def truncate? (message : String) : Option String :=
  if Limits.logMessage < message.utf8ByteSize then do
    let cut ← Text.boundaryUpTo? message Limits.logMessage
    let kept ← takeBytes? cut message
    return kept ++ "..."
  else some message

/-- Every message has a boundary within the limit, and can be cut there. -/
theorem isSome_truncate? (message : String) : (truncate? message).isSome = true := by
  unfold truncate?
  split
  · obtain ⟨cut, hcut⟩ :=
      Option.isSome_iff_exists.mp (Text.isSome_boundaryUpTo? message Limits.logMessage)
    have hboundary := (Text.boundaryUpTo?_eq_some_iff.mp hcut).2.1
    obtain ⟨kept, hkept⟩ := Option.isSome_iff_exists.mp (isSome_takeBytes? hboundary)
    simp [hcut, hkept]
  · rfl

def truncate (message : String) : String :=
  (truncate? message).get (isSome_truncate? message)

/-- Something that happened. -/
structure Event where
  level : Level
  code : Code
  message : String
  /-- Named texts. -/
  context : Sorted.Table String String
deriving DecidableEq

namespace Event

/-- An event with a context given in any order; the last text under a name counts. -/
def make (level : Level) (code : Code) (message : String) (context : List (String × String)) :
    Event :=
  { level, code, message := truncate message, context := .ofList context }

def error (code : Code) (message : String) (context : List (String × String) := []) : Event :=
  make .error code message context

def warning (code : Code) (message : String) (context : List (String × String) := []) : Event :=
  make .warning code message context

def success (code : Code) (message : String) (context : List (String × String) := []) : Event :=
  make .info code message context

def info (message : String) (context : List (String × String) := []) : Event :=
  make .info .plainInfo message context

def debug (message : String) (context : List (String × String) := []) : Event :=
  make .debug .plainDebug message context

/-- The context between braces, with a blank in front; nothing if there is none. -/
def contextText (e : Event) : String :=
  if e.context.entries.isEmpty then ""
  else
    let pairs := e.context.entries.map fun (name, text) => name ++ "=" ++ text
    " \x7b" ++ ", ".intercalate pairs ++ "\x7d"

def body (e : Event) : String :=
  e.code.text ++ " - " ++ e.message ++ e.contextText

def line (e : Event) : String :=
  "[" ++ e.level.label ++ "] " ++ e.body

def errorFields (e : Event) : List (String × Json) :=
  if e.level = .error then
    [("error_metadata", .object [
      ("recoverable", .bool e.code.recoverable),
      ("requires_halt", .bool e.code.requiresHalt),
      ("description", .string e.code.description),
      ("recommended_action", .string e.code.action)])]
  else []

def contextFields (e : Event) : List (String × Json) :=
  if e.context.entries.isEmpty then []
  else [("context", .object (e.context.entries.map fun (name, text) => (name, .string text)))]

def toJson (e : Event) (timestamp : String) : Json :=
  .object ([
    ("timestamp", .string timestamp),
    ("level", .string e.level.label),
    ("code", .string e.code.text),
    ("message", .string e.message),
    ("category", .string e.code.category),
    ("severity", .string e.code.severity.label)] ++ e.errorFields ++ e.contextFields)

def jsonLine (e : Event) (timestamp : String) : String :=
  (e.toJson timestamp).compact

end Event

end Hyperparams.Log
