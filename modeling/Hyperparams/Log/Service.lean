import Hyperparams.Log.Event

/-!
# Log services

A service passes the events up to its level on: to the console, to a bounded memory, or to the log
of the surrounding program.
-/

namespace Hyperparams.Log

/-- Whether a service of some level passes events of another. -/
def Level.passes (most level : Level) : Bool :=
  level.rank ≤ most.rank

/-- The last events that passed a level, the oldest first. -/
structure Memory where
  level : Level
  events : Array Event := #[]

namespace Memory

def capacity : Nat := Limits.logBuffer

/-- Keep an event if it passes; a full memory forgets its oldest event. -/
def log (m : Memory) (event : Event) : Memory :=
  if m.level.passes event.level then
    if m.events.size < capacity then { m with events := m.events.push event }
    else { m with events := (m.events.extract 1 m.events.size).push event }
  else m

def clear (m : Memory) : Memory :=
  { m with events := #[] }

def errors (m : Memory) : List Event :=
  m.events.toList.filter (·.level = .error)

def warnings (m : Memory) : List Event :=
  m.events.toList.filter (·.level = .warning)

def withCode (m : Memory) (code : Code) : List Event :=
  m.events.toList.filter (·.code = code)

def hasError (m : Memory) (code : Code) : Bool :=
  m.events.any fun e => e.level = .error && e.code = code

end Memory

/-- A line for one of the two output streams. -/
structure Line where
  toError : Bool
  text : String
deriving DecidableEq, Repr

/-- A service that writes events to the console: errors to the error stream, all others to the
output stream. -/
structure Console where
  level : Level
  structured : Bool

def Console.lines (c : Console) (timestamp : String) (events : List Event) : List Line :=
  (events.filter fun e => c.level.passes e.level).map fun e =>
    { toError := e.level = .error
      text := if c.structured then e.jsonLine timestamp else e.line }

/-- Without a service only warnings are shown, because errors travel as results. -/
def unservedLines (events : List Event) : List Line :=
  (events.filter fun e => e.level = .warning).map fun e => { toError := true, text := e.line }

/-- A line in the log of the surrounding program. -/
structure Record where
  level : Level
  target : String
  message : String
deriving DecidableEq, Repr

/-- The target under which forwarded events appear. -/
def eventTarget : String := "smep"

def Event.record (e : Event) : Record :=
  { level := e.level, target := eventTarget, message := e.body }

def Record.line (r : Record) (timestamp : String) : String :=
  "[" ++ timestamp ++ "] [" ++ r.level.label ++ "] " ++ r.target ++ " " ++ r.message

end Hyperparams.Log
