/-!
# Log levels

Four levels, the gravest first. A log passes the levels up to its own.
-/

namespace Hyperparams.Log

/-- The gravity of an event. -/
inductive Level where
  | error
  | warning
  | info
  | debug
deriving DecidableEq, Repr

def Level.rank : Level → Nat
  | .error => 0
  | .warning => 1
  | .info => 2
  | .debug => 3

def Level.label : Level → String
  | .error => "ERROR"
  | .warning => "WARN"
  | .info => "INFO"
  | .debug => "DEBUG"

/-- The spelling of a level in preferences. -/
def Level.name : Level → String
  | .error => "error"
  | .warning => "warning"
  | .info => "info"
  | .debug => "debug"

def Level.all : List Level :=
  [.error, .warning, .info, .debug]

def Level.ofName? (name : String) : Option Level :=
  all.find? (·.name == name)

/-- A level by its name in any case, by the short name of a warning, or by its rank. Only ASCII
letters have another case here, because no other letter has one of the names' letters for its lower
case. -/
def Level.parse? (text : String) : Option Level :=
  let text := text.map Char.toLower
  if text = "error" ∨ text = "0" then some .error
  else if text = "warning" ∨ text = "warn" ∨ text = "1" then some .warning
  else if text = "info" ∨ text = "2" then some .info
  else if text = "debug" ∨ text = "3" then some .debug
  else none

/-- A filter on log lines: from nothing to everything. -/
inductive Filter where
  | off
  | upTo (level : Level)
  | trace
deriving DecidableEq, Repr

def Filter.parse? (text : String) : Option Filter :=
  let text := text.map Char.toLower
  if text = "off" then some .off
  else if text = "error" then some (.upTo .error)
  else if text = "warn" then some (.upTo .warning)
  else if text = "info" then some (.upTo .info)
  else if text = "debug" then some (.upTo .debug)
  else if text = "trace" then some .trace
  else none

def Filter.label : Filter → String
  | .off => "OFF"
  | .upTo level => level.label
  | .trace => "TRACE"

def Filter.passes : Filter → Level → Bool
  | .off, _ => false
  | .upTo most, level => level.rank ≤ most.rank
  | .trace, _ => true

/-- The level up to which events are made for a filter. Errors are always made. -/
def Filter.eventLevel : Filter → Level
  | .off => .error
  | .upTo level => level
  | .trace => .debug

end Hyperparams.Log
