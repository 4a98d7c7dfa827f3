import Hyperparams.Files.FileSystem
import Hyperparams.Log.Traced
import Hyperparams.Preferences
import Hyperparams.Protocol.Config
import Hyperparams.Text.UpperCase
import Hyperparams.Tokenizer

/-!
# Directories of a training

A training reads data channels and writes a model and output data. Each directory is given by a
flag, else by the environment, else by the configuration. Flags that name no directory belong to the
hyperparameters and are handed back in order, with everything around them.
-/

namespace Hyperparams.Protocol

/-- The directories of a training. -/
structure Directories where
  model : String
  output : String
  /-- The directories of the channels. -/
  channels : Sorted.Table String String
deriving DecidableEq

def channelVariable (channel : String) : String :=
  "SM_CHANNEL_" ++ Text.upperCase channel

/-- The variable that is set on every host of the training service. -/
def hostsVariable : String := "SM_HOSTS"

/-- Whether the program runs on a host of the training service. -/
def isHosted (env : Environment) : Bool :=
  (env hostsVariable).isSome

def Config.defaults (c : Config) (env : Environment) : Directories where
  model := (env "SM_MODEL_DIR").getD c.model
  output := (env "SM_OUTPUT_DATA_DIR").getD c.output
  channels := .ofList (c.channels.map fun channel =>
    (channel, (env (channelVariable channel)).getD (Path.join c.channelParent channel)))

/-- The names of the variables that directories come from. -/
def Config.variableNames (c : Config) : List String :=
  "SM_MODEL_DIR" :: "SM_OUTPUT_DATA_DIR" :: c.channels.map channelVariable

/-- No other variable matters. -/
theorem Config.defaults_congr {c : Config} {env env' : Environment}
    (h : ∀ name ∈ c.variableNames, env name = env' name) : c.defaults env = c.defaults env' := by
  simp only [variableNames, List.forall_mem_cons, List.forall_mem_map] at h
  obtain ⟨hmodel, houtput, hchannels⟩ := h
  simp only [defaults, hmodel, houtput]
  congr 2
  exact List.map_congr_left fun channel hchannel => by rw [hchannels channel hchannel]

def Config.isFlag (c : Config) (name : String) : Bool :=
  name = modelFlag || name = outputFlag || c.channels.contains name

namespace Directories

/-- Replace the directory that a flag names. -/
def set (d : Directories) (flag path : String) : Directories :=
  if flag = modelFlag then { d with model := path }
  else if flag = outputFlag then { d with output := path }
  else { d with channels := d.channels.insert flag path }

def channel? (d : Directories) (name : String) : Option String :=
  d.channels.find? name

def toJson (d : Directories) : Json :=
  .object [
    ("model_dir", .string d.model),
    ("output_data_dir", .string d.output),
    ("channels", .object (d.channels.entries.map fun (name, path) => (name, .string path)))]

end Directories

/-- The name of a flag and the value that is joined to it by an equals sign. -/
def splitFlag? (token : String) : Option (String × Option String) :=
  match token.toList with
  | '-' :: '-' :: cs =>
    some (String.ofList (cs.takeWhile (· ≠ '=')),
      match cs.dropWhile (· ≠ '=') with
      | [] => none
      | _ :: value => some (String.ofList value))
  | _ => none

/-- The flag of a directory that a token is, with its joined value. -/
def Config.directoryFlag? (c : Config) (token : String) : Option (String × Option String) :=
  (splitFlag? token).filter fun flag => c.isFlag flag.1

/-- Take the directories out of tokens, on top of others. What is left are the hyperparameters. -/
def Config.scan (c : Config) :
    Directories → List String → Except ProtocolError (Directories × List String)
  | d, [] => .ok (d, [])
  | d, token :: rest =>
    match c.directoryFlag? token with
    | none => do
      let (d, left) ← c.scan d rest
      return (d, token :: left)
    | some (name, some value) => c.scan (d.set name value) rest
    | some (name, none) =>
      match rest with
      | [] => .error (.missingValue name)
      | value :: rest =>
        if Tokenized.isFlag value then .error (.missingValue name)
        else c.scan (d.set name value) rest

def resolvedEvent (d : Directories) (left : List String) : Log.Event :=
  .success .protocolResolved "Protocol arguments resolved"
    [("model_dir", d.model), ("output_data_dir", d.output),
      ("hyperparameter_tokens", toString left.length)]

def errorEvents : ProtocolError → List Log.Event
  | .missingValue flag =>
    [.error (ProtocolError.missingValue flag).code "Protocol flag without value" [("flag", flag)]]
  | _ => []

def Config.parse (c : Config) (start : Directories) (tokens : List String) :
    Log.Traced ProtocolError (Directories × List String) :=
  match c.scan start tokens with
  | .error e => ⟨errorEvents e, .error e⟩
  | .ok (d, left) => ⟨[resolvedEvent d left], .ok (d, left)⟩

def creationEvent (path : String) : Log.Event :=
  .error .directoryCreation "Directory creation failed" [("path", path)]

section FileSystem

variable {m : Type → Type} [Monad m] [FileSystem m]

def makeDirectory (path : String) : m (Log.Traced ProtocolError String) := do
  match ← FileSystem.makeDirectories path with
  | .ok () => return pure path
  | .error e => return .failWith (.directoryCreation path e) (creationEvent path)

def Directories.create (d : Directories) : m (Log.Traced ProtocolError Unit) := do
  let model ← makeDirectory d.model
  match model.result with
  | .error _ => return (fun _ => ()) <$> model
  | .ok _ =>
    let output ← makeDirectory d.output
    return (fun _ => ()) <$> output.after model.events

def Config.load (path : String) : m (Except ProtocolError Config) := do
  match ← FileSystem.read path with
  | .error e => return .error (.unreadableConfig path e)
  | .ok text => return Config.read text

end FileSystem

end Hyperparams.Protocol
