import Hyperparams.Files.FileSystem
import Hyperparams.Log.Service
import Hyperparams.Preferences

/-!
# Hosts

What a program needs of its surroundings: files, two output streams, the environment and the time.
A machine is a host that is a value, so that a run of a program is a function.
-/

namespace Hyperparams

/-- The surroundings of a program within some effects. -/
class Host (m : Type → Type) extends FileSystem m where
  /-- Write a text and end the line. -/
  emit : Log.Line → m Unit
  /-- A variable of the environment. -/
  getVariable : String → m (Option String)
  /-- The local time of day with the date. -/
  localTime : m String
  /-- The time in the form of events in JSON. -/
  instant : m String
  /-- How many milliseconds have passed since the program began. -/
  elapsed : m String

namespace Host

variable {m : Type → Type} [Monad m] [Host m]

def say (text : String) : m Unit :=
  emit { toError := false, text }

def complain (text : String) : m Unit :=
  emit { toError := true, text }

/-- The environment as far as some variables go. -/
def environment (names : List String) : m Environment := do
  let found ← names.mapM fun name => do return (name, ← getVariable name)
  return fun name => (found.lookup name).join

end Host

/-- Files, an environment, what was written to the streams, and a clock that stands still. -/
structure Machine where
  files : FileTree := {}
  environment : Environment := fun _ => none
  /-- The lines that were written, the last one first. -/
  written : List Log.Line := []
  /-- Every text of a time. -/
  clock : String

namespace Machine

def onFiles {α : Type} (work : StateM FileTree α) : StateM Machine α := do
  let machine ← get
  let (result, files) := work.run machine.files
  set { machine with files }
  return result

instance : Host (StateM Machine) where
  read path := onFiles (FileSystem.read path)
  write path content := onFiles (FileSystem.write path content)
  makeDirectory path := onFiles (FileSystem.makeDirectory path)
  isDirectory path := onFiles (FileSystem.isDirectory path)
  emit line := modify fun machine => { machine with written := line :: machine.written }
  getVariable name := do return (← get).environment name
  localTime := do return (← get).clock
  instant := do return (← get).clock
  elapsed := do return (← get).clock

def stream (machine : Machine) (toError : Bool) : String :=
  String.join ((machine.written.reverse.filter (·.toError = toError)).map (·.text ++ "\n"))

end Machine

end Hyperparams
