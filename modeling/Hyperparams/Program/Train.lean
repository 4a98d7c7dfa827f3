import Hyperparams.Builtin.Training
import Hyperparams.Kwargs
import Hyperparams.Log.Directives
import Hyperparams.Program.Lower
import Hyperparams.Program.Options
import Hyperparams.Protocol.Directories

/-!
# The training program

Finds the directories of a training, turns the other arguments into keyword arguments and trains the
object that is constructed with them. Everything is logged: to the error stream, or on a host of the
training service, whose error stream may be lost, to the output stream.
-/

namespace Hyperparams.Program

/-- Why a training ends early. -/
inductive TrainError where
  | protocol (e : ProtocolError)
  | registry (e : RegistryError)
  | lowering (e : LoweringError)
  | hyperparameters (e : HyperparameterError)
  | construction (e : MaterializeError)
  | encoding (e : TreeError)
  | notTrainable (classRef : String)
  | training (e : FileError)
deriving DecidableEq, Repr

namespace TrainError

def code : TrainError → Log.Code
  | protocol e => e.code
  | registry e => e.code
  | lowering e => e.code
  | hyperparameters e => e.code
  | construction e => e.code
  | encoding e => e.code
  | notTrainable _ => .constructionFailed
  | training _ => .internalError

def message : TrainError → String
  | protocol e => e.message
  | registry e => e.message
  | lowering e => e.message
  | hyperparameters e => e.message
  | construction e => e.message
  | encoding e => e.message
  | notTrainable classRef => classRef ++ " has no fit(); --algo must name an estimator"
  | training e => "Training failed: " ++ e.message

end TrainError

/-- The log of a training. -/
structure Journal where
  /-- The filter that is asked for. -/
  filter : Log.Filter
  directives : Log.Directives
  hosted : Bool

namespace Journal

def directivesVariable : String := "RUST_LOG"

/-- The log that options and an environment ask for, and warnings about what is malformed there. The
directives of the environment do not reach the program's own targets. -/
def new (filter : Log.Filter) (env : Environment) : Journal × List String :=
  let (directives, warnings) := match env directivesVariable with
    | some text => Log.Directives.read text
    | none => (({} : Log.Directives).add none filter, [])
  ({ filter
     directives := directives.add (some Log.eventTarget) filter
     hosted := Protocol.isHosted env },
    warnings.map fun warning => s!"warning: {warning}, ignoring it")

def readyRecord (j : Journal) : Log.Record where
  level := .debug
  target := Log.eventTarget
  message :=
    s!"logger ready: level={j.filter.label}, on_sagemaker={j.hosted}, stream=" ++
      (if j.hosted then "stdout" else "stderr")

end Journal

section Run

variable {m : Type → Type} [Monad m] [Host m]

/-- A part of a training: it has the log at hand and may end early. -/
abbrev Stage (m : Type → Type) := ReaderT Journal (ExceptT TrainError m)

def record (r : Log.Record) : ReaderT Journal m Unit := fun j => do
  if j.directives.passes r.level r.target r.message then
    Host.emit { toError := !j.hosted, text := r.line (← Host.localTime) }

namespace Stage

def log (r : Log.Record) : Stage m Unit := fun j =>
  ExceptT.lift (record r j)

def inform (message : String) : Stage m Unit :=
  log { level := .info, target := Log.eventTarget, message }

def say (text : String) : Stage m Unit := fun _ =>
  ExceptT.lift (Host.say text)

/-- Log the events of a traced computation and continue with its result. -/
def follow {ε α : Type} (wrap : ε → TrainError) (x : Log.Traced ε α) : Stage m α := do
  let j ← read
  let events := x.events.filter fun e => j.filter.eventLevel.passes e.level
  events.forM fun e => log e.record
  match x.result with
  | .ok a => return a
  | .error e => throw (wrap e)

def within {α : Type} (work : m α) : Stage m α := fun _ =>
  ExceptT.lift work

def showClasses (registry : Registry (Constructor Object)) : Stage m Unit := do
  say "Registered classes:"
  registry.classNames.forM fun name => say ("    " ++ name)
  if !registry.aliases.entries.isEmpty then
    say "\nAliases:"
    registry.aliases.entries.forM fun (name, target) => say s!"    {name} -> {target}"

def showLowering (prefs : Preferences) (tokens : List String) : Stage m Unit := do
  let lowered ← follow .lowering (lower prefs (← within Host.elapsed) tokens)
  match Program.lowering lowered with
  | .ok doc => say doc.indented
  | .error e => throw (.encoding e)

/-- Train an object and write the summary of the model. -/
def trainInstance (directories : Protocol.Directories) (i : Instance Object) : Stage m Unit := do
  match i.object.training? with
  | none => throw (.notTrainable i.classRef)
  | some training =>
    training.records.forM log
    let path := Path.join directories.model summaryFile
    match ← within (FileSystem.write path training.summary.indented) with
    | .error e => throw (.training e)
    | .ok () => inform ("Model summary written to " ++ path)

def train (env : Environment) (config : Protocol.Config) (options : Options)
    (registry : Registry (Constructor Object)) (directories : Protocol.Directories)
    (tokens : List String) : Stage m Unit := do
  let prefs := Preferences.ofEnvironment env
  let parsed ← follow .hyperparameters (parse registry prefs (← within Host.elapsed) tokens)
  parsed.kwargs.entries.forM fun (name, argument) =>
    inform s!"kwarg {name} ({argument.kind}) = {argument.text}"
  if options.dryRun then
    parsed.kwargs.entries.forM fun (name, argument) => say s!"{name} = {argument.text}"
  else
    if !(← read).hosted && config.makeLocal then
      inform "Create model & output dirs prior to training."
      follow .protocol (← within directories.create)
    let i ← follow .construction (invoke registry options.algo parsed.kwargs)
    trainInstance directories i

def main (env : Environment) (config : Protocol.Config) (options : Options) : Stage m Unit := do
  log (← read).readyRecord
  let registry ← follow .registry (builtinRegistry (← within Host.instant))
  if options.listClasses then showClasses registry
  else
    let (directories, tokens) ←
      follow .protocol (config.parse (config.defaults env) options.args)
    inform ("cfg: " ++ directories.toJson.compact)
    inform ("train_args: [" ++ ", ".intercalate (tokens.map Text.quote) ++ "]")
    if options.dumpIr then showLowering (Preferences.ofEnvironment env) tokens
    else train env config options registry directories tokens

end Stage

namespace Train

def name : String := "smep"

def help : List String := [
  "SageMaker entrypoint with typed hyperparameters",
  "",
  s!"Usage: {name} [OPTIONS] [ARGS]...",
  "",
  "Arguments:",
  "  [ARGS]...  Protocol flags and hyperparameters, e.g. `--model-dir m --epochs 7`",
  "",
  "Options:",
  "      --algo <ALGO>             Class to construct with the hyperparameters and train",
  "                                [default: dummyest.DummyEstimator]",
  "      --list-classes            Print the registered classes and exit",
  "      --dump-ir                 Print the lowered object IR as JSON and exit",
  "      --dry-run                 Build the keyword arguments but do not train",
  "      --log-level <LOG_LEVEL>   [default: INFO]",
  "      --protocol-config <FILE>  TOML file overriding the local protocol defaults",
  "  -h, --help                    Print help",
  "  -V, --version                 Print version"]

/-- The last line of a training that ended early. -/
def fail (e : TrainError) : m UInt32 := do
  Host.complain s!"error[{e.code.text}]: {e.message}"
  return 1

/-- The names of the variables that a training depends on. -/
def variableNames (config : Protocol.Config) : List String :=
  Journal.directivesVariable :: Protocol.hostsVariable ::
    Preferences.variableNames ++ config.variableNames

/-- Do what the options ask for; the result is the exit status. An error is logged too, once there
is a log. -/
def start (options : Options) : m UInt32 := do
  let config ← match options.protocolConfig with
    | some path => Protocol.Config.load path
    | none => pure (.ok {})
  match config with
  | .error e => fail (.protocol e)
  | .ok config =>
    let env ← Host.environment (variableNames config)
    let (journal, warnings) := Journal.new options.logFilter env
    warnings.forM Host.complain
    match ← (Stage.main env config options journal).run with
    | .ok () => return 0
    | .error e =>
      record
        { level := .error
          target := Log.eventTarget
          message := s!"[{e.code.text}] {e.message}" } journal
      fail e

def run (args : List String) : m UInt32 := do
  match Request.read args with
  | .error e =>
    Host.complain ("error: " ++ e.message)
    return 2
  | .ok .help => help.forM Host.say; return 0
  | .ok .version => Host.say s!"{name} {version}"; return 0
  | .ok (.train options) => start options

end Train

end Run

end Hyperparams.Program
