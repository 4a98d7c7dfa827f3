import Hyperparams.Program.Train
import Std.Time.Format

/-!
# Entry point

The machine that the programs run on, and the choice of the program by the name of the executable.
-/

namespace Hyperparams

def FileError.ofMachine : IO.Error → FileError
  | .noFileOrDirectory .. => .notFound
  | .alreadyExists .. => .alreadyExists
  | .inappropriateType _ code _ => if code = 21 then .isDirectory else .notDirectory
  | .permissionDenied _ code details => .other s!"{details} (os error {code})"
  | .invalidArgument _ code details => .other s!"{details} (os error {code})"
  | .resourceExhausted _ code details => .other s!"{details} (os error {code})"
  | .otherError code details => .other s!"{details} (os error {code})"
  | .userError _ => .notText
  | e => .other (toString e)

/-- Run a file operation and keep its error as a value. -/
def attemptFile {α : Type} (work : IO α) : IO (Except FileError α) := do
  match ← work.toBaseIO with
  | .ok a => return .ok a
  | .error e => return .error (.ofMachine e)

def localTimeText : IO String := do
  return (← Std.Time.PlainDateTime.now).format "uuuu-MM-dd HH:mm:ss"

def instantText : IO String := do
  let now := Std.Time.DateTime.ofTimestamp (← Std.Time.Timestamp.now) .UTC
  return now.format "uuuu-MM-dd'T'HH:mm:ss.SSSSSSSSSxxx"

/-- A count of nanoseconds in milliseconds, with three places. -/
def milliseconds (nanoseconds : Nat) : String :=
  let micros := nanoseconds / 1000
  let places := toString (micros % 1000)
  s!"{micros / 1000}." ++ String.ofList (List.replicate (3 - places.length) '0') ++ places

/-- Begun at a time of the steady clock, a program runs on the machine. -/
abbrev OnMachine := ReaderT Nat IO

instance : Host OnMachine where
  read path := attemptFile (IO.FS.readFile path)
  write path content := attemptFile (IO.FS.writeFile path content)
  makeDirectory path := attemptFile (IO.FS.createDir path)
  -- A directory can be opened like a file, but reading it tells it apart.
  isDirectory path := fun _ => do
    match ← attemptFile (IO.FS.readFile path) with
    | .error .isDirectory => return true
    | _ => return false
  emit line := if line.toError then IO.eprintln line.text else IO.println line.text
  getVariable name := IO.getEnv name
  localTime := localTimeText
  instant := instantText
  elapsed := fun began => do return milliseconds ((← IO.monoNanosNow) - began)

def Program.dispatch (executable : String) (args : List String) : OnMachine UInt32 :=
  if executable = Program.Lower.name then Program.Lower.run executable args
  else Program.Train.run args

end Hyperparams

def main (args : List String) : IO UInt32 := do
  let executable := ((← IO.appPath).fileName).getD Hyperparams.Program.Train.name
  (Hyperparams.Program.dispatch executable args).run (← IO.monoNanosNow)
