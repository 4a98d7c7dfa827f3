import Hyperparams.Files.FileSystem
import Hyperparams.Preferences

/-!
# Preferences in files
-/

namespace Hyperparams

/-- Why preferences cannot be loaded. -/
inductive PreferencesError where
  | unreadable (path : String) (e : FileError)
  | malformed
deriving DecidableEq, Repr

def PreferencesError.message : PreferencesError → String
  | unreadable path e => s!"Failed to read configuration file '{path}': {e.message}"
  | malformed => "Invalid configuration TOML: not a document of preferences"

namespace Preferences

variable {m : Type → Type} [Monad m] [FileSystem m]

/-- Read preferences from a file, on top of what the environment asks for. -/
def load (env : Environment) (path : String) : m (Except PreferencesError Preferences) := do
  match ← FileSystem.read path with
  | .error e => return .error (.unreadable path e)
  | .ok text =>
    match read? env text with
    | none => return .error .malformed
    | some prefs => return .ok prefs

end Preferences

end Hyperparams
