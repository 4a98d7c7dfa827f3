import Hyperparams.Builtin.Constructors
import Hyperparams.Log.Level

/-!
# Options of the training program

Options stand in front of the training arguments. The first token that is neither an option nor the
value of one begins the training arguments, and so does a lone `--`, which is dropped. No option may
be given twice.
-/

namespace Hyperparams.Program

/-- What the training program is asked to do. -/
structure Options where
  /-- The class to train. -/
  algo : String := estimatorClass
  listClasses : Bool := false
  dumpIr : Bool := false
  dryRun : Bool := false
  logFilter : Log.Filter := .upTo .info
  /-- The file with the configuration of the directories. -/
  protocolConfig : Option String := none
  /-- Flags of directories and hyperparameters. -/
  args : List String := []
deriving DecidableEq, Repr

/-- Why a command line is refused. -/
inductive UsageError where
  | missingValue (option : String)
  | invalidValue (option value : String)
  | unexpectedValue (option : String)
  | repeated (option : String)
deriving DecidableEq, Repr

def UsageError.message : UsageError → String
  | missingValue option => s!"a value is required for '--{option}' but none was supplied"
  | invalidValue option value => s!"invalid value '{value}' for '--{option}'"
  | unexpectedValue option => s!"unexpected value for '--{option}' found; no more were expected"
  | repeated option => s!"the argument '--{option}' cannot be used multiple times"

/-- A well-formed command line. -/
inductive Request where
  | help
  | version
  | train (options : Options)
deriving DecidableEq, Repr

/-- Options without a value, by name. -/
inductive Switch where
  | listClasses
  | dumpIr
  | dryRun
  | help
  | version
deriving DecidableEq, Repr

/-- Options with a value, by name. -/
inductive Setting where
  | algo
  | logLevel
  | protocolConfig
deriving DecidableEq, Repr

def Switch.name : Switch → String
  | listClasses => "list-classes"
  | dumpIr => "dump-ir"
  | dryRun => "dry-run"
  | help => "help"
  | version => "version"

def Setting.name : Setting → String
  | algo => "algo"
  | logLevel => "log-level"
  | protocolConfig => "protocol-config"

/-- What a token is. -/
inductive OptionToken where
  | switch (s : Switch) (value : Option String)
  | setting (s : Setting) (value : Option String)
  /-- A lone `--`. -/
  | escape
  | other
deriving DecidableEq, Repr

namespace OptionToken

/-- The option of a name, with the value that is joined to it. -/
def ofName (name : String) (value : Option String) : OptionToken :=
  match [Switch.listClasses, .dumpIr, .dryRun, .help, .version].find? (·.name = name) with
  | some s => switch s value
  | none =>
    match [Setting.algo, .logLevel, .protocolConfig].find? (·.name = name) with
    | some s => setting s value
    | none => other

/-- The option of some letters behind one dash, all of which must be known. The first one counts. -/
def ofLetters (letters : List Char) : OptionToken :=
  if letters.all (fun c => c = 'h' || c = 'V') then
    match letters with
    | 'h' :: _ => switch .help none
    | 'V' :: _ => switch .version none
    | _ => other
  else other

def ofText (token : String) : OptionToken :=
  match token.toList with
  | ['-', '-'] => escape
  | '-' :: '-' :: cs =>
    ofName (String.ofList (cs.takeWhile (· ≠ '=')))
      (match cs.dropWhile (· ≠ '=') with
        | [] => none
        | _ :: value => some (String.ofList value))
  | '-' :: letters => ofLetters letters
  | _ => other

end OptionToken

namespace Options

/-- The options that were given so far, with the settings among them by name. -/
structure Given where
  options : Options := {}
  names : List String := []

def Given.note (g : Given) (name : String) : Except UsageError Given :=
  if g.names.contains name then .error (.repeated name) else .ok { g with names := name :: g.names }

def Given.assign (g : Given) (s : Setting) (value : String) : Except UsageError Given := do
  let g ← g.note s.name
  match s with
  | .algo => return { g with options := { g.options with algo := value } }
  | .logLevel =>
    match Log.Filter.parse? value with
    | some filter => return { g with options := { g.options with logFilter := filter } }
    | none => throw (.invalidValue s.name value)
  | .protocolConfig =>
    if value.isEmpty then throw (.invalidValue s.name value)
    return { g with options := { g.options with protocolConfig := some value } }

/-- Read options from the beginning of a command line. -/
def read (g : Given) : List String → Except UsageError Request
  | [] => .ok (.train g.options)
  | token :: rest =>
    match OptionToken.ofText token with
    | .escape => .ok (.train { g.options with args := rest })
    | .other => .ok (.train { g.options with args := token :: rest })
    | .switch s (some _) => .error (.unexpectedValue s.name)
    | .switch .help none => .ok .help
    | .switch .version none => .ok .version
    | .switch .listClasses none => do
      let g ← g.note Switch.listClasses.name
      read { g with options := { g.options with listClasses := true } } rest
    | .switch .dumpIr none => do
      let g ← g.note Switch.dumpIr.name
      read { g with options := { g.options with dumpIr := true } } rest
    | .switch .dryRun none => do
      let g ← g.note Switch.dryRun.name
      read { g with options := { g.options with dryRun := true } } rest
    | .setting s (some value) => do read (← g.assign s value) rest
    | .setting s none =>
      match rest with
      | [] => .error (.missingValue s.name)
      | value :: rest =>
        match OptionToken.ofText value with
        | .other => do read (← g.assign s value) rest
        | _ => .error (.missingValue s.name)

end Options

def Request.read (args : List String) : Except UsageError Request :=
  Options.read {} args

end Hyperparams.Program
