import Hyperparams.Log.Service
import Hyperparams.Preferences

/-!
# Setting up the log

A process has one log service, one set of log preferences and one log that records go to. Each is
set at most once; the first one stays.
-/

namespace Hyperparams.Log

/-- What has been set. -/
structure Setup where
  preferences : Option Preferences.Logging := none
  /-- The level of the service. -/
  service : Option Level := none
  /-- Whether there is a log that records go to. -/
  recording : Bool := false
deriving DecidableEq, Repr

/-- What is there already. -/
inductive SetupError where
  | preferences
  | service
  | recording
deriving DecidableEq, Repr

def SetupError.message : SetupError → String
  | preferences => "Runtime preferences already initialized"
  | service => "Global logger already initialized"
  | recording =>
    "A global logger is already installed: attempted to set a logger after the logging system " ++
      "was already initialized"

namespace Setup

def setPreferences (s : Setup) (prefs : Preferences.Logging) : Except SetupError Setup :=
  if s.preferences.isSome then .error .preferences else .ok { s with preferences := some prefs }

def setService (s : Setup) (level : Level) : Except SetupError Setup :=
  if s.service.isSome then .error .service else .ok { s with service := some level }

/-- Set the log that records go to. -/
def startRecording (s : Setup) : Except SetupError Setup :=
  if s.recording then .error .recording else .ok { s with recording := true }

/-- The preferences that were set, else those of an environment. -/
def chosen (s : Setup) (env : Environment) : Preferences.Logging :=
  s.preferences.getD (Preferences.ofEnvironment env).logging

/-- Whether there is a service that passes events for debugging. -/
def debugs (s : Setup) : Bool :=
  s.service.any (·.passes .debug)

end Setup

end Hyperparams.Log
