import Hyperparams.Lowering
import Hyperparams.Program.Host
import Hyperparams.Text.Quoted
import Hyperparams.Tree.Encoding

/-!
# The lowering program

Shows how hyperparameters lower into values and objects, as text or as a JSON document. Events go to
the console.
-/

namespace Hyperparams.Program

def version : String := "0.1.0"

def lowering (l : Lowered) : Except TreeError Json := do
  let objects ← l.forest.encode
  return .object [("plain", l.plain.toJson), ("objects", objects)]

namespace Lower

def name : String := "smep-lower"

def help (calledAs : String) : List String := [
  s!"{name} v{version}",
  "Show how hyperparameter arguments lower into values and objects",
  "",
  "USAGE:",
  s!"    {calledAs} [--json] -- --key value [--key value ...]",
  "",
  "OPTIONS:",
  "    --help    Show this help message",
  "    --json    Print plain values and encoded objects as JSON",
  "",
  "EXAMPLES:",
  s!"    {calledAs} -- --epochs 3 --trainer.__class__ mymodule.Trainer --trainer.0 abcd",
  "",
  Limits.summary]

/-- What is asked of the program. -/
inductive Request where
  | help
  | lower (asJson : Bool) (tokens : List String)
deriving DecidableEq, Repr

/-- Read options up to the first token that is none. -/
def Request.read (asJson : Bool) : List String → Request
  | [] => .lower asJson []
  | token :: rest =>
    if token = "--help" then .help
    else if token = "--json" then read true rest
    else if token = "--" then .lower asJson rest
    else .lower asJson (token :: rest)

def valueLine (key : String) (value : Value) : String :=
  s!"  {key} = {value.text} ({value.kind})"

def rootLines (root : Node) : List String :=
  (Text.lines root.render.toList).map fun line => "  " ++ String.ofList line

def warningLine (pair : SuspiciousPair) : String :=
  s!"warning: value '{pair.value}' for '{pair.key}' looks like a flag"

def report (l : Lowered) : List String :=
  "Plain arguments:" :: (l.plain.toList.map fun (key, value) => valueLine key value) ++
    "Objects:" :: l.forest.roots.flatMap rootLines ++ l.warnings.map warningLine

/-- The diagnostic text of a gap, the only error that an encoding of a forest meets. -/
def diagnostic : TreeError → String
  | .positionalGap path missing =>
    "PositionalGap \x7b path: " ++ Text.quote path ++ s!", missing: {missing} \x7d"
  | e => e.message

section Run

variable {m : Type → Type} [Monad m] [Host m]

def tell (console : Log.Console) (events : List Log.Event) : m Unit := do
  let instant ← Host.instant
  (console.lines instant events).forM Host.emit

/-- Show lowered hyperparameters; the result is the exit status. -/
def present (asJson : Bool) (l : Lowered) : m UInt32 := do
  if asJson then
    match lowering l with
    | .ok doc => Host.say doc.indented; return 0
    | .error e => Host.complain ("Error: " ++ diagnostic e); return 1
  else
    (report l).forM Host.say
    return 0

/-- Run the program; the result is the exit status. -/
def run (calledAs : String) (args : List String) : m UInt32 := do
  let prefs := Preferences.ofEnvironment (← Host.environment Preferences.variableNames)
  let console : Log.Console :=
    { level := prefs.logging.minLogLevel, structured := prefs.logging.useStructuredLogging }
  tell console [.success .systemInitialized "Global logging system initialized"]
  match Request.read false args with
  | .help => (help calledAs).forM Host.say; return 0
  | .lower asJson tokens =>
    let lowered := lower prefs (← Host.elapsed) tokens
    tell console lowered.events
    match lowered.result with
    | .ok l => present asJson l
    | .error e => Host.complain s!"error[{e.code.text}]: {e.message}"; return 1

end Run

end Lower

end Hyperparams.Program
