import Hyperparams.Files.Error
import Hyperparams.Json.Basic
import Hyperparams.Log.Event
import Hyperparams.Text.Blank
import Hyperparams.Toml.Reader

/-!
# Configuration of the directories

Which data channels a training has, and where models, outputs and channels are when neither a flag
nor the environment says so. A channel is named like a flag, so its name must be one.
-/

namespace Hyperparams

/-- Why the directories of a training cannot be found or created. -/
inductive ProtocolError where
  | unreadableConfig (path : String) (e : FileError)
  | malformedConfig
  | invalidChannel (name reason : String)
  | directoryCreation (path : String) (e : FileError)
  | missingValue (flag : String)
deriving DecidableEq, Repr

namespace ProtocolError

def code : ProtocolError → Log.Code
  | unreadableConfig .. => .protocolConfiguration
  | malformedConfig => .protocolConfiguration
  | invalidChannel .. => .protocolConfiguration
  | directoryCreation .. => .directoryCreation
  | missingValue _ => .protocolArgument

def message : ProtocolError → String
  | unreadableConfig path e => "Cannot read protocol config " ++ path ++ ": " ++ e.message
  | malformedConfig => "Invalid protocol config: not a configuration document"
  | invalidChannel name reason => s!"Invalid channel name '{name}': {reason}"
  | directoryCreation path e => "Cannot create directory " ++ path ++ ": " ++ e.message
  | missingValue flag => s!"Argument --{flag} expects a value"

end ProtocolError

namespace Protocol

def modelFlag : String := "model-dir"

def outputFlag : String := "output-data-dir"

/-- The channels of a training and the local directories. -/
structure Config where
  model : String := "model"
  output : String := "output"
  channels : List String := ["train", "test", "validation"]
  /-- Where the local directories of the channels are. -/
  channelParent : String := "data"
  /-- Create the directories for models and outputs before a local training. -/
  makeLocal : Bool := true
deriving DecidableEq, Repr

/-- Why a text cannot name a channel. -/
def channelDefect? (name : String) : Option String :=
  if name.isEmpty then some "empty name"
  else if name = modelFlag ∨ name = outputFlag then some "collides with a directory flag"
  else if name.toList.head? = some '-' || name.toList.any (fun c => c = '=' || Text.isBlank c) then
    some "must be a bare flag name"
  else none

namespace Config

/-- The configuration of a document; what it leaves out is as usual. -/
def ofDocument? (doc : Toml.Fields) : Option Config := do
  let usual : Config := {}
  return {
    model := ← Toml.text? doc "model" usual.model
    output := ← Toml.text? doc "output" usual.output
    channels := ← Toml.texts? doc "channels" usual.channels
    channelParent := ← Toml.text? doc "channel_prefix" usual.channelParent
    makeLocal := ← Toml.boolean? doc "mkdir_local" usual.makeLocal }

def channelError? : List String → Option ProtocolError
  | [] => none
  | name :: rest =>
    match channelDefect? name with
    | some reason => some (.invalidChannel name reason)
    | none => channelError? rest

/-- Refuse channels whose names are no flags. -/
def validate (c : Config) : Except ProtocolError Unit :=
  match channelError? c.channels with
  | some e => .error e
  | none => .ok ()

def read (text : String) : Except ProtocolError Config := do
  match (Toml.read? text).bind ofDocument? with
  | none => throw .malformedConfig
  | some config =>
    config.validate
    return config

def toJson (c : Config) : Json :=
  .object [
    ("model", .string c.model),
    ("output", .string c.output),
    ("channels", .array (c.channels.map .string)),
    ("channel_prefix", .string c.channelParent),
    ("mkdir_local", .bool c.makeLocal)]

end Config

end Protocol

end Hyperparams
